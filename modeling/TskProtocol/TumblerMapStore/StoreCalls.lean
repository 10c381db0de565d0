import TskProtocol.TumblerMapStore.AuthorityLaws
import TskProtocol.TumblerMapStore.Growth

namespace TskProtocol

open Credential

variable {H : HmacBytes} {D : Sha256Bytes} {store : PgHaTumblerMapStore} {tx : CredentialTransaction}
  {db db' : CredentialDb}

/-- A record and its signed head, as they are delivered. -/
abbrev CredentialDelivery := CredentialRecord × SignedStreamHead

def CredentialOutboxRow.delivery (row : CredentialOutboxRow) : CredentialDelivery := (row.record, row.head)

namespace Credential

/-- A record passes every check that a reader makes of it, and its head is signed. -/
structure Publishable (D : Sha256Bytes) (signer : StreamHeadSigner) (delivery : CredentialDelivery) : Prop where
  sanitized : sanitizeMutation D delivery.1.mutation = .ok delivery.1.mutation
  digest : opDigest D delivery.1.streamId delivery.1.sourceEpoch delivery.1.sequence delivery.1.fenceToken
    delivery.1.mutation = .ok delivery.1.opDigest
  conformant : assertHeaderConformant delivery.1.toOutboxRecordHeader = .ok ()
  binds : assertStreamHeadBinds D delivery.1.toOutboxRecordHeader delivery.2 = .ok ()
  signed : delivery.2.signature = signer.sign delivery.2.headDigest

/-- What a store may make of the maps that it has read, when `removes` is the client that it was told to
delete. -/
inductive Grows (D : Sha256Bytes) (maps : OrderedMap JsString CredentialMapRow) (removes : Option JsString) :
    CredentialMutation → List CredentialEffect → Prop
  | create {map : TumblerMap} {s : CredentialSnapshot} (hnone : maps.get? s.clientId = none)
      (hs : SnapshotOf D map 1 s) : Grows D maps removes (.snapshot s.clientId s) [.upsert s.clientId s.counter map]
  | update {row : CredentialMapRow} {map : TumblerMap} {s : CredentialSnapshot}
      (hrow : maps.get? s.clientId = some row) (hs : SnapshotOf D map (row.revision + 1) s)
      (hsucceeds : Succeeds row.map map) :
      Grows D maps removes (.snapshot s.clientId s) [.upsert s.clientId s.counter map]
  | delete {clientId : JsString} {row : CredentialMapRow} (hremoves : removes = some clientId)
      (hrow : maps.get? clientId = some row) :
      Grows D maps removes (.delete clientId clientId (row.revision + 1)) [.delete clientId (row.revision + 1)]
  | replace {row : CredentialMapRow} {old replacement : CredentialSnapshot} {next : TumblerMap}
      (hrow : maps.get? old.clientId = some row) (hlive : isTerminal row.map.status = false)
      (hnone : maps.get? replacement.clientId = none)
      (hold : SnapshotOf D { row.map with status := some .revoked } (row.revision + 1) old)
      (hnew : SnapshotOf D next 1 replacement) :
      Grows D maps removes (.replace old.clientId old.counter old replacement)
        [.upsert old.clientId old.counter { row.map with status := some .revoked },
          .insert replacement.clientId replacement.counter next]

end Credential

/-- The client that a mutation is to delete. -/
def StoreMutation.removes : StoreMutation → Option JsString
  | .delete clientId => some clientId
  | _ => none

namespace PgHaTumblerMapStore

/-- The lease and the fence that a store finds when it may append. -/
structure Writable (store : PgHaTumblerMapStore) (nowMs : Nat) (db : CredentialDb) : Prop where
  streamId : store.streamId = db.streamId
  lease : ∃ lease, db.lease.head = some lease ∧ lease.body.leaseStatus = .active ∧
    lease.body.leaseEpoch = store.sourceEpoch ∧ lease.body.holderNodeId = store.lease.holderNodeId ∧
    lease.body.leaseId = store.lease.leaseId ∧ lease.digest = store.lease.grantDigest ∧
    nowMs + store.skewMs < lease.body.leaseExpiresAtMs ∧
    ∃ latest, latestGrant db.lease = some latest ∧ latest.seq = lease.seq ∧ latest.digest = lease.digest
  fence : db.fence = some store.sourceEpoch

/-- An append that a call of a store has committed. -/
structure StoreAppend (H : HmacBytes) (D : Sha256Bytes) (store : PgHaTumblerMapStore)
    (tx : CredentialTransaction) (removes : Option JsString) (db db' : CredentialDb) : Prop where
  before : store.Writable tx.preparedAt db
  after : store.Writable tx.committedAt db'
  appended : ∃ ticket a, AppliedTo H D tx.appliedAt tx.txid ticket a db db' ∧
    Publishable D store.signer a.row.delivery ∧ Grows D db.maps removes a.mutation a.effects

section Prepare

variable {nowMs maxPending : Nat} {prepared : PreparedAppend} {m : CredentialMutation}
  {effects : List CredentialEffect} {a : CredentialAppend} {u : PUnit}

theorem prepare_ok (h : (store.prepare nowMs maxPending).exec db = (.ok prepared, db')) :
    db' = db ∧ store.Writable nowMs db ∧ prepared.fence = store.sourceEpoch := by
  simp only [prepare, Statements.exec_bind_eq_ok, Statements.exec_get, Statements.exec_check,
    Statements.exec_pure, Prod.mk.injEq, Except.ok.injEq] at h
  obtain ⟨_, _, ⟨rfl, rfl⟩, p, _, ⟨hp, rfl⟩, _, _, ⟨-, rfl⟩, rfl, rfl⟩ := h
  simp only [prepareAppend, bind_eq_ok, require_eq_ok, orThrow_eq_ok, pure_eq_ok, Except.ok.injEq,
    Option.filter_eq_some_iff, decide_eq_true_eq] at hp
  obtain ⟨_, hstream, lease, hlease, latest, hlatest, _, ⟨hactive, hepoch, hholder, hid, hgrant, hseq, hdigest,
    hexpires⟩, fence, ⟨hfence, rfl⟩, checkpoint, hcheckpoint, _, -, _, -, rfl⟩ := hp
  exact ⟨rfl, ⟨hstream, ⟨lease, hlease, hactive, hepoch, hholder, hid, hgrant, hexpires, latest, hlatest, hseq,
    hdigest⟩, hfence⟩, rfl⟩

theorem headBinds_of_streamHeadDigest {header : OutboxRecordHeader} {head : SignedStreamHead}
    (hstream : head.streamId = header.streamId) (hsequence : head.sequence = header.sequence)
    (hop : head.opDigest = header.opDigest)
    (h : streamHeadDigest D head.streamId head.sequence head.prevHeadDigest head.opDigest head.keyId head.alg =
      .ok head.headDigest) : assertStreamHeadBinds D header head = .ok () := by
  have hchecks := h
  simp only [streamHeadDigest, bind_eq_ok, require_eq_ok] at hchecks
  obtain ⟨_, -, _, -, _, -, _, -, _, hkey, _, halg, -⟩ := hchecks
  simp only [assertStreamHeadBinds, bind_eq_ok, require_eq_ok]
  exact ⟨(), hstream, (), hsequence, (), hop, (), halg, (), hkey, _, h, rfl⟩

/-- What is built from a sanitized mutation is recorded as it has to be. -/
theorem buildAppend_ok (h : store.buildAppend D prepared m effects = .ok a)
    (hm : sanitizeMutation D m = .ok m) :
    a.mutation = m ∧ a.effects = effects ∧ Publishable D store.signer a.row.delivery := by
  simp only [buildAppend, bind_eq_ok, mapError_eq_ok, pure_eq_ok, Except.ok.injEq] at h
  obtain ⟨op, hop, _, hconformant, headDigest, hhead, rfl⟩ := h
  exact ⟨rfl, rfl, hm, hop, hconformant, headBinds_of_streamHeadDigest rfl rfl rfl hhead, rfl⟩

theorem appendAndApply_ok (h : (store.appendAndApply H D tx m effects).exec db = (.ok u, db')) :
    store.Writable tx.preparedAt db ∧ ∃ ticket a, AppliedTo H D tx.appliedAt tx.txid ticket a db db' ∧
      Publishable D store.signer a.row.delivery ∧ a.mutation = m ∧ a.effects = effects := by
  simp only [appendAndApply, Statements.exec_bind_eq_ok, Statements.exec_check, Statements.exec_get,
    Statements.exec_set, Prod.mk.injEq, Except.ok.injEq] at h
  obtain ⟨m', _, ⟨hm, rfl⟩, prepared, _, hprepared, a, _, ⟨ha, rfl⟩, ticket, _, ⟨-, rfl⟩, _, _, ⟨rfl, rfl⟩, db', _,
    ⟨happly, rfl⟩, -, rfl⟩ := h
  obtain ⟨rfl, -, -⟩ := sanitizeMutation_ok hm
  obtain ⟨rfl, hwritable, -⟩ := prepare_ok hprepared
  obtain ⟨hmutation, heffects, hpublishable⟩ := buildAppend_ok ha hm
  exact ⟨hwritable, ticket, a, applyMutation_ok happly, hpublishable, hmutation, heffects⟩

end Prepare

section Calls

variable {clientId : JsString} {removes : Option JsString} {u : PUnit}

/-- The row that a read finds is in order. -/
theorem readInTx_ok {found : Option CredentialMapRow} (h : (readInTx clientId).exec db = (.ok found, db')) :
    db' = db ∧ db.maps.get? clientId = found ∧ ∀ row ∈ found, ValidMap true row.map := by
  simp only [readInTx, Statements.exec_bind_eq_ok, Statements.exec_check, Statements.exec_get, Prod.mk.injEq,
    Except.ok.injEq, checkId_eq_ok] at h
  obtain ⟨_, _, ⟨⟨-, rfl⟩, rfl⟩, _, _, ⟨rfl, rfl⟩, h⟩ := h
  split at h
  · next hnone =>
    simp only [Statements.exec_pure, Prod.mk.injEq, Except.ok.injEq] at h
    obtain ⟨rfl, rfl⟩ := h
    exact ⟨rfl, hnone, by simp⟩
  · next row hsome =>
    simp only [Statements.exec_bind_eq_ok, Statements.exec_check, Statements.exec_pure, Prod.mk.injEq,
      Except.ok.injEq] at h
    obtain ⟨_, _, ⟨-, rfl⟩, map, _, ⟨hmap, rfl⟩, rfl, rfl⟩ := h
    obtain ⟨rfl, hvalid⟩ := validateMap_ok hmap
    exact ⟨rfl, hsome, fun row' hrow => by obtain rfl := Option.some.inj hrow; exact hvalid⟩

/-- A read in front of what is done with the row. -/
theorem exec_read_eq_ok {α : Type} {rest : Option CredentialMapRow → CredentialStatements α} {b : α}
    (h : (readInTx clientId >>= rest).exec db = (.ok b, db')) : ∃ found, db.maps.get? clientId = found ∧
      (∀ row ∈ found, ValidMap true row.map) ∧ (rest found).exec db = (.ok b, db') := by
  rw [Statements.exec_bind_eq_ok] at h
  obtain ⟨found, _, hread, hrest⟩ := h
  obtain ⟨rfl, hfound, hvalid⟩ := readInTx_ok hread
  exact ⟨found, hfound, hvalid, hrest⟩

variable (H D store tx removes) in
/-- What the statements of a call have done when they are through: nothing, or one append. -/
def Effected (db db' : CredentialDb) : Prop :=
  db' = db ∨ store.Writable tx.preparedAt db ∧ ∃ ticket a, AppliedTo H D tx.appliedAt tx.txid ticket a db db' ∧
    Publishable D store.signer a.row.delivery ∧ Grows D db.maps removes a.mutation a.effects

theorem effected_of_pure {α : Type} {a b : α} (h : (pure a : CredentialStatements α).exec db = (.ok b, db')) :
    Effected H D store tx removes db db' := by
  rw [Statements.exec_pure, Prod.mk.injEq] at h
  exact .inl h.2.symm

theorem exec_then_pure {α β : Type} {body : CredentialStatements α} {a b : β}
    (h : (do let _ ← body; pure a).exec db = (.ok b, db')) : ∃ u, body.exec db = (.ok u, db') := by
  simp only [Statements.exec_bind_eq_ok, Statements.exec_pure, Prod.mk.injEq] at h
  obtain ⟨u, _, hbody, -, rfl⟩ := h
  exact ⟨u, hbody⟩

theorem persist_ok {map : TumblerMap} {revision : Int}
    (h : (store.persist H D tx map revision).exec db = (.ok u, db')) :
    ∃ s, SnapshotOf D map revision s ∧ store.Writable tx.preparedAt db ∧ ∃ ticket a,
      AppliedTo H D tx.appliedAt tx.txid ticket a db db' ∧ Publishable D store.signer a.row.delivery ∧
      a.mutation = .snapshot s.clientId s ∧ a.effects = [.upsert s.clientId s.counter map] := by
  simp only [persist, Statements.exec_bind_eq_ok, Statements.exec_check, Prod.mk.injEq] at h
  obtain ⟨s, _, ⟨hs, rfl⟩, m, _, ⟨hm, rfl⟩, happend⟩ := h
  obtain ⟨rfl, -, -⟩ := sanitizeMutation_ok hm
  exact ⟨s, snapshot_ok hs, appendAndApply_ok happend⟩

theorem effected_of_update {row : CredentialMapRow} {map : TumblerMap} (hrow : db.maps.get? clientId = some row)
    (hid : row.map.clientId = clientId) (hsucceeds : Succeeds row.map map)
    (h : (store.persist H D tx map (row.revision + 1)).exec db = (.ok u, db')) : Effected H D store tx removes db db' := by
  obtain ⟨s, hs, hwritable, ticket, a, happlied, hpublishable, hmutation, heffects⟩ := persist_ok h
  refine .inr ⟨hwritable, ticket, a, happlied, hpublishable, ?_⟩
  have hclient : s.clientId = clientId := hs.clientId.trans (hsucceeds.clientId.symm.trans hid)
  rw [hmutation, heffects]
  exact .update (hclient ▸ hrow) hs hsucceeds

theorem effected_of_create {map : TumblerMap} (hnone : db.maps.get? map.clientId = none)
    (h : (store.persist H D tx map 1).exec db = (.ok u, db')) : Effected H D store tx removes db db' := by
  obtain ⟨s, hs, hwritable, ticket, a, happlied, hpublishable, hmutation, heffects⟩ := persist_ok h
  refine .inr ⟨hwritable, ticket, a, happlied, hpublishable, ?_⟩
  rw [hmutation, heffects]
  exact .create (hs.clientId ▸ hnone) hs

theorem effected_of_persistReconciled {row : CredentialMapRow} {segments : List SegmentConfig}
    (hrow : db.maps.get? clientId = some row) (hid : row.map.clientId = clientId)
    (hsegments : List.Forall₂ SegmentFollows row.map.segments segments)
    (h : (store.persistReconciled H D tx { row.map with segments } (row.revision + 1)).exec db = (.ok u, db')) :
    Effected H D store tx removes db db' := by
  rcases hrec : MemoryTumblerStore.reconcileMap { row.map with segments } with ⟨outcome, written⟩
  simp only [persistReconciled, hrec, Statements.exec_bind_eq_ok, Statements.exec_check, Prod.mk.injEq,
    mapError_eq_ok] at h
  obtain ⟨⟨⟩, _, ⟨hok, rfl⟩, h⟩ := h
  rw [hok] at hrec
  exact effected_of_update hrow hid (succeeds_reconcileMap hsegments hrec) h

end Calls

section Perform

variable {clientId : JsString} {removes : Option JsString} {mutation : StoreMutation} {u : PUnit}

/-- Every row stands under the id of its map. -/
def Keyed (db : CredentialDb) : Prop :=
  ∀ clientId row, db.maps.get? clientId = some row → row.map.clientId = clientId

/-- A call that has returned has done what its statements did, and may still append at its end. -/
theorem mutate_ok {α : Type} {fn : CredentialStatements α} {b : α}
    (h : store.mutate tx fn db = (.ok b, db')) :
    fn.exec db = (.ok b, db') ∧ store.Writable tx.committedAt db' := by
  rw [mutate, Statements.transaction_eq_ok] at h
  simp only [Statements.exec_bind_eq_ok, Statements.exec_check, Statements.exec_pure, Prod.mk.injEq,
    Except.ok.injEq] at h
  obtain ⟨_, _, ⟨-, rfl⟩, _, _, hfn, _, _, ⟨-, rfl⟩, _, _, hprepare, rfl, rfl⟩ := h
  obtain ⟨rfl, hwritable, -⟩ := prepare_ok hprepare
  exact ⟨hfn, hwritable⟩

theorem after_ok {α β : Type} {checks : Except CredentialError α}
    {op : α → Except CredentialError β × CredentialDb} {b : β} (h : after checks op db = (.ok b, db')) :
    ∃ a, checks = .ok a ∧ op a = (.ok b, db') := by
  cases hchecks : checks with
  | error e =>
    rw [hchecks] at h
    cases h
  | ok a =>
    rw [hchecks] at h
    exact ⟨a, rfl, h⟩

theorem after_error {α β : Type} {checks : Except CredentialError α}
    {op : α → Except CredentialError β × CredentialDb} {e : CredentialError}
    (hop : ∀ a, op a = (.error e, db') → db' = db) (h : after checks op db = (.error e, db')) : db' = db := by
  cases hchecks : checks with
  | error e' =>
    rw [hchecks] at h
    exact (Prod.mk.inj h).2.symm
  | ok a =>
    rw [hchecks] at h
    exact hop a h

variable (H D store tx removes) in
/-- What a call has done when it returns: nothing, or one append. -/
def Performed (db db' : CredentialDb) : Prop := db' = db ∨ StoreAppend H D store tx removes db db'

theorem performed_of_effected (h : Effected H D store tx removes db db') (hafter : store.Writable tx.committedAt db') :
    Performed H D store tx removes db db' := by
  rcases h with rfl | ⟨hbefore, happended⟩
  · exact .inl rfl
  · exact .inr ⟨hbefore, hafter, happended⟩

theorem effected_set {value : TumblerMap} (hkeyed : Keyed db)
    (h : store.set H D tx clientId value db = (.ok u, db')) :
    Performed H D store tx removes db db' := by
  obtain ⟨incoming, hchecks, hcall⟩ := after_ok h
  simp only [bind_eq_ok, require_eq_ok, pure_eq_ok, Except.ok.injEq] at hchecks
  obtain ⟨_, -, _, hvalid, _, hid, rfl⟩ := hchecks
  obtain ⟨hfn, hwritable⟩ := mutate_ok hcall
  obtain ⟨found, hfound, hrow, hrest⟩ := exec_read_eq_ok hfn
  refine performed_of_effected ?_ hwritable
  cases found with
  | none => exact effected_of_create (hid ▸ hfound) hrest
  | some row =>
    simp only [Statements.exec_bind_eq_ok, Statements.exec_check, Prod.mk.injEq] at hrest
    obtain ⟨_, _, ⟨hmonotonic, rfl⟩, hpersist⟩ := hrest
    exact effected_of_update hfound (hkeyed _ _ hfound)
      ((assertMonotonicMap_eq_ok (hrow row rfl).nodup).mp hmonotonic).1 hpersist

theorem effected_delete (h : store.delete H D tx clientId db = (.ok u, db')) :
    Performed H D store tx (some clientId) db db' := by
  obtain ⟨hfn, hwritable⟩ := mutate_ok h
  obtain ⟨found, hfound, -, hrest⟩ := exec_read_eq_ok hfn
  refine performed_of_effected ?_ hwritable
  cases found with
  | none => exact effected_of_pure hrest
  | some row =>
    obtain ⟨hbefore, ticket, a, happlied, hpublishable, hmutation, heffects⟩ := appendAndApply_ok hrest
    refine .inr ⟨hbefore, ticket, a, happlied, hpublishable, ?_⟩
    rw [hmutation, heffects]
    exact .delete rfl hfound

theorem effected_updateCounters {updates : OrderedMap JsString Int} (hkeyed : Keyed db)
    (h : store.updateCounters H D tx clientId updates db = (.ok u, db')) :
    Performed H D store tx removes db db' := by
  obtain ⟨_, -, hcall⟩ := after_ok h
  obtain ⟨hfn, hwritable⟩ := mutate_ok hcall
  obtain ⟨found, hfound, -, hrest⟩ := exec_read_eq_ok hfn
  refine performed_of_effected ?_ hwritable
  cases found with
  | none => exact effected_of_pure hrest
  | some row =>
    simp only [Statements.exec_bind_eq_ok, Statements.exec_check, Prod.mk.injEq] at hrest
    obtain ⟨segments, _, ⟨hsegments, rfl⟩, hpersist⟩ := hrest
    exact effected_of_persistReconciled hfound (hkeyed _ _ hfound) (follows_applyUpdates hsegments) hpersist

theorem effected_consumeCounter {segmentId : JsString} {matchedCounter : Int} {answer : Bool} (hkeyed : Keyed db)
    (h : store.consumeCounter H D tx clientId segmentId matchedCounter db = (.ok answer, db')) :
    Performed H D store tx removes db db' := by
  obtain ⟨⟨clientId, segmentId⟩, -, hcall⟩ := after_ok h
  simp only at hcall
  split at hcall
  · exact .inl (Prod.mk.inj hcall).2.symm
  obtain ⟨hfn, hwritable⟩ := mutate_ok hcall
  obtain ⟨found, hfound, -, hrest⟩ := exec_read_eq_ok hfn
  refine performed_of_effected ?_ hwritable
  cases found with
  | none => exact effected_of_pure hrest
  | some row =>
    have hid := hkeyed _ _ hfound
    simp only at hrest
    split at hrest
    · exact effected_of_pure hrest
    next seg hseg =>
    split at hrest
    · exact effected_of_pure hrest
    split at hrest
    · split at hrest
      · next hlive =>
        obtain ⟨_, hpersist⟩ := exec_then_pure hrest
        exact effected_of_update hfound hid (succeeds_expire hlive.2) hpersist
      · exact effected_of_pure hrest
    split at hrest
    · exact effected_of_pure hrest
    · next hfresh =>
      obtain ⟨_, hpersist⟩ := exec_then_pure hrest
      exact effected_of_persistReconciled hfound hid
        (follows_setFirstCounter hseg ((Int.not_lt.mp hfresh).trans (Int.le_of_lt (Int.lt_succ _)))) hpersist

theorem effected_commitValidation {input : ValidationCommitInput} {result : ValidationCommitResult}
    (hkeyed : Keyed db) (h : store.commitValidation H D tx clientId input db = (.ok result, db')) :
    Performed H D store tx removes db db' := by
  obtain ⟨commitInput, -, hcall⟩ := after_ok h
  obtain ⟨hfn, hwritable⟩ := mutate_ok hcall
  obtain ⟨found, hfound, hrow, hrest⟩ := exec_read_eq_ok hfn
  refine performed_of_effected ?_ hwritable
  cases found with
  | none => exact effected_of_pure hrest
  | some row =>
    have hsucceeds := succeeds_commit commitInput (hrow row rfl).counters
    rcases hcommit : commitValidationToMap row.map commitInput with ⟨outcome, written⟩
    rw [hcommit] at hsucceeds
    simp only [hcommit, Statements.exec_bind_eq_ok, Statements.exec_check, Prod.mk.injEq] at hrest
    obtain ⟨_, _, ⟨-, rfl⟩, _, _, ⟨-, rfl⟩, _, _, ⟨-, rfl⟩, hrest⟩ := hrest
    split at hrest
    · obtain ⟨_, hpersist⟩ := exec_then_pure hrest
      exact effected_of_update hfound (hkeyed _ _ hfound) hsucceeds hpersist
    · exact effected_of_pure hrest

theorem effected_replaceCredential {replacement : TumblerMap} {answer : Bool} (hkeyed : Keyed db)
    (h : store.replaceCredential H D tx clientId replacement db = (.ok answer, db')) :
    Performed H D store tx removes db db' := by
  obtain ⟨next, -, hcall⟩ := after_ok h
  obtain ⟨hfn, hwritable⟩ := mutate_ok hcall
  obtain ⟨found, hfound, -, hrest⟩ := exec_read_eq_ok hfn
  refine performed_of_effected ?_ hwritable
  cases found with
  | none => exact effected_of_pure hrest
  | some oldRow =>
    simp only at hrest
    split at hrest
    · exact effected_of_pure hrest
    next hlive =>
    obtain ⟨fresh, hfresh, -, hrest⟩ := exec_read_eq_ok hrest
    cases fresh with
    | some _ => exact effected_of_pure hrest
    | none =>
      simp only [Statements.exec_bind_eq_ok, Statements.exec_check, Statements.exec_pure, Prod.mk.injEq] at hrest
      obtain ⟨old, _, ⟨hold, rfl⟩, new, _, ⟨hnew, rfl⟩, m, _, ⟨hm, rfl⟩, _, _, happend, -, rfl⟩ := hrest
      have hold := snapshot_ok hold
      have hnew := snapshot_ok hnew
      obtain ⟨rfl, -, -⟩ := sanitizeMutation_ok hm
      obtain ⟨hbefore, ticket, a, happlied, hpublishable, hmutation, heffects⟩ := appendAndApply_ok happend
      refine .inr ⟨hbefore, ticket, a, happlied, hpublishable, ?_⟩
      have hclient : old.clientId = clientId := hold.clientId.trans (hkeyed _ _ hfound)
      rw [hmutation, heffects]
      exact .replace (hclient ▸ hfound) (by simpa using hlive) (hnew.clientId ▸ hfresh) hold hnew

theorem ok_of_map {α β : Type} {f : α → β} {call : Except CredentialError α × CredentialDb} {b : β}
    (h : (call.1.map f, call.2) = (.ok b, db')) : ∃ a, call = (.ok a, db') := by
  obtain ⟨outcome, after⟩ := call
  obtain ⟨hok, rfl⟩ := Prod.mk.inj h
  obtain ⟨a, ha, -⟩ := map_eq_ok.mp hok
  exact ⟨a, Prod.ext ha rfl⟩

theorem error_of_map {α β : Type} {f : α → β} {call : Except CredentialError α × CredentialDb} {e : CredentialError}
    (h : (call.1.map f, call.2) = (.error e, db')) : call = (.error e, db') := by
  obtain ⟨outcome, after⟩ := call
  obtain ⟨herror, rfl⟩ := Prod.mk.inj h
  cases outcome with
  | ok a => cases herror
  | error e' =>
    obtain rfl := Except.error.inj herror
    rfl

/-- A call that throws has changed nothing. -/
theorem unchanged_of_error {e : CredentialError} (h : store.perform H D tx mutation db = (.error e, db')) :
    db' = db := by
  cases mutation <;> simp only [perform] at h <;> replace h := error_of_map h
  case set => exact after_error (fun _ => Statements.transaction_error) h
  case delete => exact Statements.transaction_error h
  case updateCounters => exact after_error (fun _ => Statements.transaction_error) h
  case consumeCounter =>
    refine after_error (fun ids hcall => ?_) h
    simp only at hcall
    split at hcall
    · cases hcall
    · exact Statements.transaction_error hcall
  case commitValidation => exact after_error (fun _ => Statements.transaction_error) h
  case replaceCredential => exact after_error (fun _ => Statements.transaction_error) h

theorem performed_of_ok {result : MutationResult} (hkeyed : Keyed db)
    (h : store.perform H D tx mutation db = (.ok result, db')) :
    Performed H D store tx mutation.removes db db' := by
  cases mutation <;> simp only [perform] at h <;> obtain ⟨a, hcall⟩ := ok_of_map h
  case set => exact effected_set hkeyed hcall
  case delete => exact effected_delete hcall
  case updateCounters => exact effected_updateCounters hkeyed hcall
  case consumeCounter => exact effected_consumeCounter hkeyed hcall
  case commitValidation => exact effected_commitValidation hkeyed hcall
  case replaceCredential => exact effected_replaceCredential hkeyed hcall

/-- A call leaves the tables alone, or it has committed one append. -/
theorem performed (hkeyed : Keyed db) :
    Performed H D store tx mutation.removes db (store.perform H D tx mutation db).2 := by
  rcases h : store.perform H D tx mutation db with ⟨_ | _, db'⟩
  · exact .inl (unchanged_of_error h)
  · exact performed_of_ok hkeyed h

end Perform

end PgHaTumblerMapStore

end TskProtocol
