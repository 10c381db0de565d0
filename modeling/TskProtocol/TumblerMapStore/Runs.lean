import TskProtocol.TumblerMapStore.StoreCalls
import TskProtocol.Lib.HashChain
import TskProtocol.Outbox.Delivery

namespace TskProtocol

open Credential

/-- What others do to the tables of a stream: leases and keys are installed, the fence is raised, rows
are marked once they have been published. -/
inductive StreamChange
  | lease (lease : SourceLeaseTable)
  | raiseFence (epoch : Nat)
  | keys (keys : List CredentialMutationKey)
  | mark (acked quarantined : Int → Bool)

def CredentialOutboxRow.mark (acked quarantined : Int → Bool) (row : CredentialOutboxRow) : CredentialOutboxRow :=
  { row with
    acked := row.acked || acked row.record.sequence
    quarantined := row.quarantined || quarantined row.record.sequence }

def CredentialDb.govern (db : CredentialDb) : StreamChange → CredentialDb
  | .lease lease => { db with lease }
  | .raiseFence epoch => { db with fence := some (max epoch (db.fence.getD 0)) }
  | .keys keys => { db with keys }
  | .mark acked quarantined => { db with rows := db.rows.map (·.mark acked quarantined) }

/-- A call of a store, with what its transaction finds outside the tables, and with the time that passes
up to each of the statements that read the clock. -/
structure CredentialCall where
  store : PgHaTumblerMapStore
  mutation : StoreMutation
  txid : JsString
  nonce : JsString
  untilPrepared : Nat
  untilTicket : Nat
  untilApplied : Nat
  untilCommitted : Nat
  entered : Bool := true
  boundary : Bool := true

inductive CredentialEvent
  | call (c : CredentialCall)
  | govern (change : StreamChange)
  | elapse (ms : Nat)

/-- The client that an event is to delete. -/
def CredentialEvent.removes : CredentialEvent → Option JsString
  | .call c => c.mutation.removes
  | _ => none

/-- The tables, on a clock that does not run backwards. -/
structure CredentialWorld where
  db : CredentialDb
  nowMs : Nat

def CredentialCall.transaction (c : CredentialCall) (nowMs : Nat) : CredentialTransaction :=
  let preparedAt := nowMs + c.untilPrepared
  let ticketAt := preparedAt + c.untilTicket
  let appliedAt := ticketAt + c.untilApplied
  { txid := c.txid
    nonce := c.nonce
    preparedAt := preparedAt
    ticketAt := ticketAt
    appliedAt := appliedAt
    committedAt := appliedAt + c.untilCommitted
    entered := c.entered
    boundary := c.boundary }

def CredentialCall.perform (H : HmacBytes) (D : Sha256Bytes) (c : CredentialCall) (w : CredentialWorld) :
    Except CredentialError MutationResult × CredentialDb :=
  c.store.perform H D (c.transaction w.nowMs) c.mutation w.db

namespace CredentialWorld

variable (H : HmacBytes) (D : Sha256Bytes)

def step (w : CredentialWorld) : CredentialEvent → CredentialWorld
  | .call c => ⟨(c.perform H D w).2, (c.transaction w.nowMs).committedAt⟩
  | .govern change => { w with db := w.db.govern change }
  | .elapse ms => { w with nowMs := w.nowMs + ms }

def run (w : CredentialWorld) (events : List CredentialEvent) : CredentialWorld := events.foldl (step H D) w

/-- A stream that has been provisioned under an epoch, before its first operation. -/
def provisioned (streamId sourceEpoch : JsString) (nowMs : Nat) : CredentialWorld where
  db := { streamId, checkpoint := some (.genesis sourceEpoch) }
  nowMs := nowMs

variable {H D} {w : CredentialWorld} {events events' : List CredentialEvent} {event : CredentialEvent}

@[simp] theorem run_nil : w.run H D [] = w := rfl

theorem run_append : w.run H D (events ++ events') = (w.run H D events).run H D events' := List.foldl_append

@[simp] theorem run_snoc : w.run H D (events ++ [event]) = (w.run H D events).step H D event := run_append

end CredentialWorld

/-- A stream with everything that has happened to it since it was provisioned. -/
structure CredentialRun where
  streamId : JsString
  sourceEpoch : JsString
  startedAt : Nat
  events : List CredentialEvent

def CredentialRun.world (H : HmacBytes) (D : Sha256Bytes) (r : CredentialRun) : CredentialWorld :=
  (CredentialWorld.provisioned r.streamId r.sourceEpoch r.startedAt).run H D r.events

def CredentialRun.db (H : HmacBytes) (D : Sha256Bytes) (r : CredentialRun) : CredentialDb := (r.world H D).db

/-- The heads of a stream as a chain. -/
def credentialChain (D : Sha256Bytes) : HashChain CredentialDelivery JsString ContractError where
  seq delivery := delivery.1.sequence
  prev delivery := delivery.2.prevHeadDigest
  hash delivery := delivery.2.headDigest
  recompute delivery := streamHeadDigest D delivery.1.streamId delivery.1.sequence delivery.2.prevHeadDigest
    delivery.1.opDigest delivery.2.keyId delivery.2.alg

/-- What there is to deliver, oldest first. -/
def CredentialDb.deliveries (db : CredentialDb) : List CredentialDelivery := db.rows.map (·.delivery)

def CredentialDb.log (db : CredentialDb) : List CredentialMutation := db.deliveries.map (·.1.mutation)

def CredentialDelivery.fence (delivery : CredentialDelivery) : Nat := bigIntOf delivery.1.fenceToken

def noCredentials : CredentialView := fun _ => none

section Append

variable {H : HmacBytes} {D : Sha256Bytes} {store : PgHaTumblerMapStore} {tx : CredentialTransaction}
  {db db' : CredentialDb} {removes : Option JsString} {nowMs : Nat} {txid : JsString}
  {ticket : CredentialTicket} {a : CredentialAppend} {m : CredentialMutation}
  {maps maps' : OrderedMap JsString CredentialMapRow} {effects : List CredentialEffect} {clientId : JsString}

theorem succeeds_ofMap {current next : TumblerMap} (h : Succeeds current next) :
    Succeeds (PublicMap.ofMap current).map (PublicMap.ofMap next).map :=
  ⟨h.clientId, rfl, h.createdAt, h.version, h.length, h.segments, h.count, h.rank, h.terminal⟩

theorem next_of_snapshotOf {row : CredentialMapRow} {map : TumblerMap} {s : CredentialSnapshot}
    (hs : SnapshotOf D map (row.revision + 1) s) (hsucceeds : Succeeds row.map map) :
    s.Next Succeeds (row.entry D) where
  counter := hs.counter
  secretDigest := by rw [hs.secretDigest, CredentialMapRow.entry, hsucceeds.sharedSecret]
  fits := by
    rw [hs.publicMap]
    exact succeeds_ofMap hsucceeds

theorem viewOfMaps_of_get? {row : CredentialMapRow} (h : maps.get? clientId = some row) :
    viewOfMaps D maps clientId = some (row.entry D) := by
  rw [viewOfMaps, h, Option.map_some]

theorem viewOfMaps_of_none (h : maps.get? clientId = none) : viewOfMaps D maps clientId = none := by
  rw [viewOfMaps, h, Option.map_none]

/-- What a store makes of the maps is next in line in the log. -/
theorem Credential.Grows.admissible (h : Grows D maps removes m effects) :
    m.Admissible Succeeds (viewOfMaps D maps) := by
  cases h with
  | create hnone hs =>
    rw [CredentialMutation.Admissible, viewOfMaps_of_none hnone]
    exact hs.counter
  | update hrow hs hsucceeds =>
    rw [CredentialMutation.Admissible, viewOfMaps_of_get? hrow]
    exact next_of_snapshotOf hs hsucceeds
  | delete hremoves hrow => exact ⟨_, viewOfMaps_of_get? hrow, rfl⟩
  | replace hrow hlive hnone hold hnew =>
    exact ⟨⟨_, viewOfMaps_of_get? hrow, next_of_snapshotOf hold (succeeds_revoke hlive)⟩,
      viewOfMaps_of_none hnone, hnew.counter⟩

theorem keyed_set {row : CredentialMapRow} (hkeyed : ∀ id row, maps.get? id = some row → row.map.clientId = id)
    (hid : row.map.clientId = clientId) (id : JsString) (row' : CredentialMapRow)
    (h : (maps.set clientId row).get? id = some row') : row'.map.clientId = id := by
  rw [OrderedMap.get?_set] at h
  split at h
  · next heq =>
    obtain rfl := Option.some.inj h
    exact hid.trans heq
  · exact hkeyed id row' h

theorem keyed_grows (hkeyed : ∀ id row, maps.get? id = some row → row.map.clientId = id)
    (h : Grows D maps removes m effects) (k : Applies D maps m effects maps') (id : JsString)
    (row : CredentialMapRow) (hrow : maps'.get? id = some row) : row.map.clientId = id := by
  cases h with
  | create hnone hs =>
    cases k with
    | snapshot => exact keyed_set hkeyed hs.clientId.symm id row hrow
  | update hget hs hsucceeds =>
    cases k with
    | snapshot => exact keyed_set hkeyed hs.clientId.symm id row hrow
  | delete hremoves hget =>
    cases k with
    | delete =>
      rw [OrderedMap.get?_erase] at hrow
      split at hrow
      · cases hrow
      · exact hkeyed id row hrow
  | replace hget hlive hnone hold hnew =>
    cases k with
    | replace =>
      refine keyed_set (fun id row => keyed_set hkeyed ?_ id row) ?_ id row hrow
      · exact hold.clientId.symm
      · exact hnew.clientId.symm

end Append

section Consistent

variable {H : HmacBytes} {D : Sha256Bytes} {store : PgHaTumblerMapStore} {tx : CredentialTransaction}
  {db db' : CredentialDb} {removes : Option JsString} {sourceEpoch : JsString} {signer : StreamHeadSigner}
  {delivery : CredentialDelivery} {nowMs : Nat} {txid : JsString} {ticket : CredentialTicket}
  {a : CredentialAppend}

/-- The head that the record of a row binds is the one that the chain recomputes. -/
theorem Credential.Publishable.recompute (h : Publishable D signer delivery) :
    (credentialChain D).recompute delivery = .ok delivery.2.headDigest ∧ delivery.2.headDigest ≠ [] := by
  have hbinds := h.binds
  simp only [assertStreamHeadBinds, bind_eq_ok, require_eq_ok] at hbinds
  obtain ⟨_, hstream, _, hsequence, _, hop, _, -, _, -, expect, hexpect, hdigest⟩ := hbinds
  rw [hstream, hsequence, hop, ← hdigest] at hexpect
  refine ⟨hexpect, fun hnil => ?_⟩
  simp only [streamHeadDigest, bind_eq_ok, pure_eq_ok, Except.ok.injEq] at hexpect
  obtain ⟨_, -, _, -, _, -, _, -, _, -, _, -, hhex⟩ := hexpect
  have hmatches := matchesHex64_hex D (framed [HA_OUTBOX_DIGEST_DOMAIN ++ JsString.lit "/tsk-stream-head",
    HA_OUTBOX_CONTRACT_VERSION, delivery.1.streamId, JsString.ofInt delivery.1.sequence,
    delivery.2.prevHeadDigest, delivery.1.opDigest, delivery.2.keyId, delivery.2.alg])
  rw [hhex, hnil] at hmatches
  cases hmatches

/-- What holds of a stream at every moment. -/
structure Consistent (D : Sha256Bytes) (sourceEpoch : JsString) (db : CredentialDb) : Prop where
  keyed : PgHaTumblerMapStore.Keyed db
  admitted : (credentialReplay Succeeds).Admitted noCredentials db.log
  view : (credentialReplay Succeeds).run noCredentials db.log = db.view D
  chain : ∃ checkpoint, db.checkpoint = some checkpoint ∧ checkpoint.sourceEpoch = sourceEpoch ∧
    checkpoint.sequence = db.rows.length ∧
    (credentialChain D).verifyFrom 0 GENESIS_HEAD db.deliveries = .ok checkpoint.head
  published : ∀ delivery ∈ db.deliveries, delivery.1.streamId = db.streamId ∧
    delivery.1.sourceEpoch = sourceEpoch ∧ ∃ signer, Publishable D signer delivery
  fences : (db.deliveries.map CredentialDelivery.fence).Pairwise (· ≤ ·)
  fenced : ∀ delivery ∈ db.deliveries, delivery.fence ≤ db.fence.getD 0

theorem CredentialWorld.consistent_provisioned (streamId sourceEpoch : JsString) :
    Consistent D sourceEpoch (CredentialWorld.provisioned streamId sourceEpoch nowMs).db where
  keyed clientId row hrow := by cases hrow
  admitted := trivial
  view := rfl
  chain := ⟨.genesis sourceEpoch, rfl, rfl, rfl, rfl⟩
  published delivery hmem := by cases hmem
  fences := .nil
  fenced delivery hmem := by cases hmem

theorem deliveries_append (happlied : AppliedTo H D nowMs txid ticket a db db') :
    db'.deliveries = db.deliveries ++ [a.row.delivery] := by
  obtain ⟨checkpoint, -, -, -, -, hresult⟩ := happlied.result
  rw [hresult, CredentialDb.deliveries, CredentialDb.deliveries, List.map_append, List.map_singleton]

theorem log_append (happlied : AppliedTo H D nowMs txid ticket a db db') : db'.log = db.log ++ [a.mutation] := by
  rw [CredentialDb.log, deliveries_append happlied, List.map_append]
  rfl

namespace Consistent

theorem append (h : Consistent D sourceEpoch db)
    (happend : store.StoreAppend H D tx removes db db') : Consistent D sourceEpoch db' := by
  obtain ⟨ticket, a, happlied, hpublishable, hgrows⟩ := happend.appended
  obtain ⟨checkpoint, hcheckpoint, hepoch, hsequence, hprev, hresult⟩ := happlied.result
  obtain ⟨_, hcheckpoint', rfl, hlength, hverify⟩ := h.chain
  obtain rfl := Option.some.inj (hcheckpoint.symm.trans hcheckpoint')
  have hdeliveries := deliveries_append happlied
  have hlog := log_append happlied
  have hfence : db'.fence = db.fence := by rw [hresult]
  have hstream : db'.streamId = db.streamId := by rw [hresult]
  have htoken : a.row.delivery.fence = a.fence := bigIntOf_ofNat a.fence
  have hcurrent : db.fence.getD 0 = a.fence := by rw [happlied.fence, Option.getD_some]
  obtain ⟨hrecompute, hne⟩ := hpublishable.recompute
  have hhead : OutboxCheckpoint.head ⟨a.sourceEpoch, a.sequence, a.headDigest⟩ = a.headDigest := if_neg hne
  refine {
    keyed := keyed_grows h.keyed hgrows happlied.effects
    admitted := ?_
    view := ?_
    chain := ⟨⟨a.sourceEpoch, a.sequence, a.headDigest⟩, by rw [hresult], hepoch, ?_, ?_⟩
    published := ?_
    fences := ?_
    fenced := ?_ }
  · rw [hlog, Replay.admitted_snoc, h.view]
    exact ⟨h.admitted, hgrows.admissible⟩
  · rw [hlog, Replay.run_snoc, h.view, happlied.view]
    rfl
  · rw [hresult, List.length_append, List.length_singleton, hsequence, hlength]
    rfl
  · rw [hdeliveries, HashChain.verifyFrom_snoc]
    refine ⟨_, hverify, HashChain.check_eq_ok.mpr ⟨?_, hprev, ?_, ?_⟩⟩
    · calc a.sequence = (db.rows.length : Int) + 1 := by rw [hsequence, hlength]
        _ = ((0 + db.deliveries.length : Nat) : Int) + 1 := by
          rw [CredentialDb.deliveries, List.length_map, Nat.zero_add]
    · rw [hrecompute, hhead]
      rfl
    · rw [hhead]
      rfl
  · rw [hdeliveries, List.forall_mem_append, List.forall_mem_singleton, hstream]
    exact ⟨h.published, happlied.streamId, hepoch, store.signer, hpublishable⟩
  · rw [hdeliveries, List.map_append, List.pairwise_append, List.map_singleton]
    refine ⟨h.fences, List.pairwise_singleton _ _, fun n hn _ hlast => ?_⟩
    obtain ⟨delivery, hmem, rfl⟩ := List.mem_map.mp hn
    rw [List.mem_singleton.mp hlast, htoken, ← hcurrent]
    exact h.fenced delivery hmem
  · rw [hdeliveries, List.forall_mem_append, List.forall_mem_singleton, hfence]
    exact ⟨h.fenced, htoken.trans hcurrent.symm |>.le⟩

theorem deliveries_govern (db : CredentialDb) (change : StreamChange) :
    (db.govern change).deliveries = db.deliveries := by
  cases change with
  | mark acked quarantined =>
    simp only [CredentialDb.deliveries, CredentialDb.govern, List.map_map]
    rfl
  | _ => rfl

theorem govern (h : Consistent D sourceEpoch db) (change : StreamChange) :
    Consistent D sourceEpoch (db.govern change) := by
  have hdeliveries := deliveries_govern db change
  have hlog : (db.govern change).log = db.log := congrArg (List.map _) hdeliveries
  have hmaps : (db.govern change).maps = db.maps := by cases change <;> rfl
  have hcheckpoint : (db.govern change).checkpoint = db.checkpoint := by cases change <;> rfl
  have hstream : (db.govern change).streamId = db.streamId := by cases change <;> rfl
  have hlength : (db.govern change).rows.length = db.rows.length := by
    cases change with
    | mark acked quarantined => exact List.length_map _
    | _ => rfl
  have hfence : db.fence.getD 0 ≤ (db.govern change).fence.getD 0 := by
    cases change with
    | raiseFence epoch => exact le_max_right _ _
    | _ => exact le_rfl
  exact {
    keyed := by
      rw [PgHaTumblerMapStore.Keyed, hmaps]
      exact h.keyed
    admitted := hlog ▸ h.admitted
    view := by
      rw [hlog, h.view, CredentialDb.view, CredentialDb.view, hmaps]
    chain := by
      rw [hcheckpoint, hdeliveries, hlength]
      exact h.chain
    published := by
      rw [hdeliveries, hstream]
      exact h.published
    fences := by
      rw [hdeliveries]
      exact h.fences
    fenced := by
      rw [hdeliveries]
      exact fun delivery hmem => (h.fenced delivery hmem).trans hfence }

theorem step {w : CredentialWorld} (h : Consistent D sourceEpoch w.db) (event : CredentialEvent) :
    Consistent D sourceEpoch (w.step H D event).db := by
  cases event with
  | call c =>
    rcases PgHaTumblerMapStore.performed h.keyed with hsame | happend
    · rw [CredentialWorld.step, CredentialCall.perform, hsame]
      exact h
    · exact h.append happend
  | govern change => exact h.govern change
  | elapse ms => exact h

theorem run {w : CredentialWorld} (h : Consistent D sourceEpoch w.db) (events : List CredentialEvent) :
    Consistent D sourceEpoch (w.run H D events).db := by
  induction events using List.reverseRecOn with
  | nil => exact h
  | append_singleton events event ih =>
    rw [CredentialWorld.run_snoc]
    exact ih.step event

end Consistent

variable (H D) in
theorem CredentialRun.consistent (r : CredentialRun) : Consistent D r.sourceEpoch (r.db H D) :=
  (CredentialWorld.consistent_provisioned r.streamId r.sourceEpoch).run r.events

end Consistent

section Fenced

variable {H : HmacBytes} {D : Sha256Bytes} {w : CredentialWorld} {sourceEpoch : JsString}

theorem fence_le_step (h : Consistent D sourceEpoch w.db) (event : CredentialEvent) :
    w.db.fence.getD 0 ≤ (w.step H D event).db.fence.getD 0 := by
  cases event with
  | call c =>
    rcases PgHaTumblerMapStore.performed h.keyed with hsame | happend
    · rw [CredentialWorld.step, CredentialCall.perform, hsame]
    · obtain ⟨ticket, a, happlied, -, -⟩ := happend.appended
      obtain ⟨checkpoint, -, -, -, -, hresult⟩ := happlied.result
      rw [CredentialWorld.step, CredentialCall.perform, hresult]
  | govern change =>
    cases change with
    | raiseFence epoch => exact le_max_right _ _
    | _ => exact le_rfl
  | elapse ms => exact le_rfl

theorem fence_le_run (h : Consistent D sourceEpoch w.db) (events : List CredentialEvent) :
    w.db.fence.getD 0 ≤ (w.run H D events).db.fence.getD 0 := by
  induction events using List.reverseRecOn with
  | nil => exact le_rfl
  | append_singleton events event ih =>
    rw [CredentialWorld.run_snoc]
    exact ih.trans (fence_le_step (h.run events) event)

variable (H D) in
/-- A call that changes anything has appended one record, under the lease and the fence of its store from
its first look at the tables up to its commit.  Once the fence is above a store, it changes nothing any
more. -/
theorem CredentialRun.appends_under_lease (r : CredentialRun) (c : CredentialCall) (later : List CredentialEvent) :
    ((c.perform H D (r.world H D)).2 = r.db H D ∨
      c.store.Writable (c.transaction (r.world H D).nowMs).preparedAt (r.db H D) ∧
      c.store.Writable (c.transaction (r.world H D).nowMs).committedAt (c.perform H D (r.world H D)).2 ∧
      ∃ delivery, (c.perform H D (r.world H D)).2.deliveries = (r.db H D).deliveries ++ [delivery] ∧
        Publishable D c.store.signer delivery ∧ delivery.fence = c.store.sourceEpoch) ∧
    ((r.db H D).deliveries.map CredentialDelivery.fence).Pairwise (· ≤ ·) ∧
    ((r.db H D).fence.getD 0 ≤ c.store.sourceEpoch ∨
      (c.perform H D ((r.world H D).run H D later)).2 = ((r.world H D).run H D later).db) := by
  have h := r.consistent H D
  refine ⟨?_, h.fences, ?_⟩
  · rcases PgHaTumblerMapStore.performed h.keyed with hsame | happend
    · exact .inl hsame
    · obtain ⟨ticket, a, happlied, hpublishable, -⟩ := happend.appended
      refine .inr ⟨happend.before, happend.after, _, deliveries_append happlied, hpublishable, ?_⟩
      have hfence : some a.fence = some c.store.sourceEpoch := happlied.fence.symm.trans happend.before.fence
      exact (bigIntOf_ofNat a.fence).trans (Option.some.inj hfence)
  · have hlater : Consistent D r.sourceEpoch ((r.world H D).run H D later).db := h.run later
    rcases PgHaTumblerMapStore.performed hlater.keyed with hsame | happend
    · exact .inr hsame
    · have hraised : (r.db H D).fence.getD 0 ≤ ((r.world H D).run H D later).db.fence.getD 0 := fence_le_run h later
      rw [happend.before.fence, Option.getD_some] at hraised
      exact .inl hraised

end Fenced

section Identity

variable {H : HmacBytes} {D : Sha256Bytes} {store : PgHaTumblerMapStore} {tx : CredentialTransaction}
  {db db' : CredentialDb} {removes : Option JsString} {clientId : JsString} {a b c : Option CredentialMapRow}

/-- A row that was there is there, with the credential at the same or a later time. -/
def RowEvolves (a b : Option CredentialMapRow) : Prop :=
  ∀ row ∈ a, ∃ row' ∈ b, Succeeds row.map row'.map ∧ (row' = row ∨ row.revision < row'.revision)

theorem RowEvolves.refl (a : Option CredentialMapRow) : RowEvolves a a :=
  fun row hrow => ⟨row, hrow, .refl _, .inl rfl⟩

theorem RowEvolves.trans (h : RowEvolves a b) (k : RowEvolves b c) : RowEvolves a c := by
  intro row hrow
  obtain ⟨row', hrow', hmap, hrevision⟩ := h row hrow
  obtain ⟨row'', hrow'', hmap', hrevision'⟩ := k row' hrow'
  refine ⟨row'', hrow'', hmap.trans hmap', ?_⟩
  rcases hrevision with rfl | hlt
  · exact hrevision'
  · rcases hrevision' with rfl | hlt'
    · exact .inr hlt
    · exact .inr (hlt.trans hlt')

theorem RowEvolves.of_none : RowEvolves none b := fun row hrow => by cases hrow

theorem RowEvolves.of_next {row : CredentialMapRow} {map : TumblerMap} {s : CredentialSnapshot}
    (hs : SnapshotOf D map (row.revision + 1) s) (hsucceeds : Succeeds row.map map) :
    RowEvolves (some row) (some ⟨map, s.counter⟩) := by
  rintro _ ⟨⟩
  refine ⟨_, rfl, hsucceeds, .inr ?_⟩
  rw [hs.counter]
  exact Int.lt_succ _

/-- An append of a store keeps every credential but the one that it was told to delete. -/
theorem rowEvolves_append (h : store.StoreAppend H D tx removes db db') (hkept : removes ≠ some clientId) :
    RowEvolves (db.maps.get? clientId) (db'.maps.get? clientId) := by
  obtain ⟨ticket, ⟨_, _, _, _, _, m, _, _, _, _, _, effects⟩, happlied, -, hgrows⟩ := h.appended
  have heffects := happlied.effects
  simp only at hgrows heffects
  generalize db'.maps = maps' at heffects
  cases hgrows with
  | create hnone hs =>
    cases heffects with
    | snapshot =>
      rw [OrderedMap.get?_set]
      split
      · next heq => exact heq ▸ hnone ▸ .of_none
      · exact .refl _
  | update hrow hs hsucceeds =>
    cases heffects with
    | snapshot =>
      rw [OrderedMap.get?_set]
      split
      · next heq =>
        rw [← heq, hrow]
        exact .of_next hs hsucceeds
      · exact .refl _
  | delete hremoves hrow =>
    cases heffects with
    | delete =>
      rw [OrderedMap.get?_erase_ne]
      · exact .refl _
      · rintro rfl
        exact hkept hremoves
  | replace hrow hlive hnone hold hnew =>
    cases heffects with
    | replace =>
      rw [OrderedMap.get?_set]
      split
      · next heq => exact heq ▸ hnone ▸ .of_none
      rw [OrderedMap.get?_set]
      split
      · next heq =>
        rw [← heq, hrow]
        exact .of_next hold (succeeds_revoke hlive)
      · exact .refl _

theorem rowEvolves_step {w : CredentialWorld} {sourceEpoch : JsString} (h : Consistent D sourceEpoch w.db)
    {event : CredentialEvent} (hkept : event.removes ≠ some clientId) :
    RowEvolves (w.db.maps.get? clientId) ((w.step H D event).db.maps.get? clientId) := by
  cases event with
  | call c =>
    rcases PgHaTumblerMapStore.performed h.keyed with hsame | happend
    · rw [CredentialWorld.step, CredentialCall.perform, hsame]
      exact .refl _
    · exact rowEvolves_append happend hkept
  | govern change => cases change <;> exact .refl _
  | elapse ms => exact .refl _

variable (H D) in
/-- While nobody deletes it, a credential keeps its secret, its layout and its age, its counters, its use
and its status do not go back, a terminal status is final, and every change has a higher revision. -/
theorem CredentialRun.credential_evolves (r : CredentialRun) (later : List CredentialEvent) (clientId : JsString) :
    (∃ event ∈ later, event.removes = some clientId) ∨
      RowEvolves ((r.db H D).maps.get? clientId) (((r.world H D).run H D later).db.maps.get? clientId) := by
  have h := r.consistent H D
  induction later using List.reverseRecOn with
  | nil => exact .inr (.refl _)
  | append_singleton later event ih =>
    by_cases hkept : event.removes = some clientId
    · exact .inl ⟨event, List.mem_append_right _ (List.mem_singleton_self _), hkept⟩
    rcases ih with ⟨earlier, hmem, hremoves⟩ | hevolves
    · exact .inl ⟨earlier, List.mem_append_left _ hmem, hremoves⟩
    · rw [CredentialWorld.run_snoc]
      exact .inr (hevolves.trans (rowEvolves_step (Consistent.run h later) hkept))

end Identity

end TskProtocol
