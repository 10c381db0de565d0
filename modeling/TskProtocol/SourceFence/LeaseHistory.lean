import TskProtocol.Lib.Machine
import TskProtocol.SourceFence.Lease

namespace TskProtocol

/-- The insert into the history, with the keys of that table. -/
def insertLeaseHistory (t : SourceLeaseTable) (l : LeaseRecord) :
    Except FenceError SourceLeaseTable := do
  require (∀ k ∈ t.history, k.seq ≠ l.seq ∧ k.digest ≠ l.digest ∧
    k.body.commandId ≠ l.body.commandId) .constraintViolation
  return { t with history := t.history ++ [l] }

/-- The first head is inserted; a later one replaces the head whose digest is `expectedPrev`. -/
def writeLeaseHead (t : SourceLeaseTable) (expectedPrev : Option JsString) (l : LeaseRecord) :
    Except FenceError SourceLeaseTable :=
  match expectedPrev with
  | none => do
    require (t.head = none) .constraintViolation
    return { t with head := some l }
  | some prev => do
    require (∃ head ∈ t.head, head.digest = prev) .noAffectedRow
    return { t with head := some l }

/-- An install with its two writes one after the other.  What a throw leaves behind is what
the caller's transaction would commit if it went on. -/
def installLeaseGrantInTx (E : Ed25519) (D : Sha256Bytes) (resolver : SourceVerifyKeyResolver E)
    (t : SourceLeaseTable) (g : LeaseGrant) : Except FenceError LeaseRecord × SourceLeaseTable :=
  match installLeaseGrant E D resolver t g with
  | .error e => (.error e, t)
  | .ok (record, checked) =>
    if checked = t then (.ok record, t)
    else match insertLeaseHistory t record with
      | .error e => (.error e, t)
      | .ok inserted =>
        match writeLeaseHead inserted (t.head.map (·.digest)) record with
        | .error e => (.error e, inserted)
        | .ok written => (.ok record, written)

/-- The lease tables of a source database, one for each stream. -/
abbrev SourceLeases := JsString → SourceLeaseTable

/-- Installs one after the other, each in a transaction of its own. -/
def leaseInstalls (E : Ed25519) (D : Sha256Bytes) (resolver : SourceVerifyKeyResolver E) :
    Machine SourceLeases LeaseGrant where
  step db g := some (Function.update db g.streamId
    (installLeaseGrantInTx E D resolver (db g.streamId) g).2)

/-- What every lease history satisfies. -/
structure LawfulLeases (E : Ed25519) (D : Sha256Bytes) (resolver : SourceVerifyKeyResolver E)
    (streamId : JsString) (t : SourceLeaseTable) : Prop where
  /-- One linked chain of verified grants, the head its last one. -/
  sound : t.Sound (leaseReader E D resolver streamId)
  epochs : t.bodies.Pairwise (fun a b => a.leaseEpoch ≤ b.leaseEpoch)
  identity : ∀ a ∈ t.bodies, ∀ b ∈ t.bodies, a.leaseEpoch = b.leaseEpoch →
    a.holderNodeId = b.holderNodeId ∧ a.leaseId = b.leaseId
  revoked : t.bodies.Pairwise (fun a b =>
    a.leaseEpoch = b.leaseEpoch → a.leaseStatus = .revoked → b.leaseStatus = .revoked)
  commands : (t.bodies.map (·.commandId)).Nodup

variable {E : Ed25519} {D : Sha256Bytes} {resolver : SourceVerifyKeyResolver E}
  {t t' : SourceLeaseTable} {g : LeaseGrant} {record : LeaseRecord} {streamId : JsString}

theorem lawfulLeases_empty : LawfulLeases E D resolver streamId {} :=
  ⟨SignedTable.sound_empty, .nil, by simp, .nil, .nil⟩

namespace LawfulLeases

theorem le_of_installs (h : LawfulLeases E D resolver streamId t) (hg : Installs t g)
    {a : LeaseColumns} (ha : a ∈ t.bodies) : a.leaseEpoch ≤ g.leaseEpoch := by
  obtain ⟨c, hc⟩ := h.sound.headed.exists_head ha
  exact (h.sound.headed.rel_of_pairwise h.epochs (fun _ => le_rfl) hc ha).trans (hg.epoch c hc)

/-- Behind the rows of its epoch a grant keeps their holder and their lease. -/
theorem identity_of_installs (h : LawfulLeases E D resolver streamId t) (hg : Installs t g)
    {a : LeaseColumns} (ha : a ∈ t.bodies) (hepoch : a.leaseEpoch = g.leaseEpoch) :
    a.holderNodeId = g.holderNodeId ∧ a.leaseId = g.leaseId := by
  obtain ⟨l, hl, rfl⟩ := List.mem_map.mp ha
  cases hfirst : t.history.find? (fun l => l.body.leaseEpoch = g.leaseEpoch) with
  | none =>
    have hnone := List.find?_eq_none.mp hfirst l hl
    simp [hepoch] at hnone
  | some first =>
    have hmem : first.body ∈ t.bodies := List.mem_map_of_mem (List.mem_of_find?_eq_some hfirst)
    have hat : first.body.leaseEpoch = g.leaseEpoch := by
      simpa using List.find?_some hfirst
    obtain ⟨hholder, hlease⟩ := hg.identity first hfirst
    obtain ⟨hholder', hlease'⟩ := h.identity l.body ha first.body hmem (hepoch.trans hat.symm)
    exact ⟨hholder'.trans hholder, hlease'.trans hlease⟩

/-- The step lemma: a grant that is let in keeps the history lawful. -/
theorem append (h : LawfulLeases E D resolver g.streamId t)
    (hverified : verifyLeaseGrant E D resolver g = .ok ()) (hg : Installs t g) :
    LawfulLeases E D resolver g.streamId (t.append g.record) where
  sound := h.sound.append hg.seq hg.prev (valid_of_verifyLeaseGrant hverified)
  epochs := by
    rw [SignedTable.bodies_append, List.pairwise_append]
    refine ⟨h.epochs, List.pairwise_singleton _ _, fun a ha b hb => ?_⟩
    rw [List.mem_singleton.mp hb]
    exact h.le_of_installs hg ha
  identity := by
    intro a ha b hb hepoch
    simp only [SignedTable.bodies_append, List.mem_append, List.mem_singleton] at ha hb
    rcases ha with ha | rfl <;> rcases hb with hb | rfl
    · exact h.identity a ha b hb hepoch
    · exact h.identity_of_installs hg ha hepoch
    · exact (h.identity_of_installs hg hb hepoch.symm).imp Eq.symm Eq.symm
    · exact ⟨rfl, rfl⟩
  revoked := by
    rw [SignedTable.bodies_append, List.pairwise_append]
    refine ⟨h.revoked, List.pairwise_singleton _ _, fun a ha b hb hepoch hrevoked => ?_⟩
    obtain ⟨l, hl, rfl⟩ := List.mem_map.mp ha
    rw [List.mem_singleton.mp hb] at hepoch ⊢
    cases hstatus : g.leaseStatus with
    | active => exact absurd ⟨hepoch, hrevoked⟩ (hg.unrevoked hstatus l hl)
    | revoked => exact hstatus
  commands := by
    rw [SignedTable.bodies_append, List.map_append, List.nodup_append]
    refine ⟨h.commands, List.nodup_singleton _, fun c hc d hd => ?_⟩
    obtain ⟨a, ha, rfl⟩ := List.mem_map.mp hc
    obtain ⟨l, hl, rfl⟩ := List.mem_map.mp ha
    rw [List.mem_singleton.mp hd]
    exact hg.fresh l hl

end LawfulLeases

variable (E D resolver) in
/-- The writes of an install do not fail half way, and together they append the grant. -/
theorem installLeaseGrantInTx_cases (t : SourceLeaseTable) (g : LeaseGrant) :
    (∃ e, installLeaseGrantInTx E D resolver t g = (.error e, t)) ∨
    ∃ record t', installLeaseGrantInTx E D resolver t g = (.ok record, t') ∧
      installLeaseGrant E D resolver t g = .ok (record, t') := by
  cases hinstall : installLeaseGrant E D resolver t g with
  | error e => exact .inl ⟨e, by rw [installLeaseGrantInTx, hinstall]⟩
  | ok r =>
    obtain ⟨record, checked⟩ := r
    rcases installLeaseGrant_ok hinstall with ⟨rfl, -⟩ | ⟨-, rfl, rfl⟩
    · exact .inr ⟨record, checked, by simp [installLeaseGrantInTx, hinstall], rfl⟩
    · have hne : t.append g.record ≠ t := by
        intro heq
        have hlen := congrArg (fun t => t.history.length) heq
        simp [SignedTable.append] at hlen
      simp only [installLeaseGrantInTx, hinstall, if_neg hne]
      cases hinsert : insertLeaseHistory t g.record with
      | error e => exact .inl ⟨e, rfl⟩
      | ok inserted =>
        simp only [insertLeaseHistory, bind_eq_ok, require_eq_ok, pure_eq_ok] at hinsert
        obtain ⟨_, -, hinsert⟩ := hinsert
        cases hinsert
        refine .inr ⟨g.record, t.append g.record, ?_, rfl⟩
        cases t.head <;> simp [writeLeaseHead, require, SignedTable.append]

/-- A grant under fresh keys is let in, and both writes go through. -/
theorem installLeaseGrantInTx_of_installs (hverified : verifyLeaseGrant E D resolver g = .ok ())
    (hread : readSourceLease E D resolver g.streamId t = .ok t.head) (h : Installs t g)
    (hfresh : ∀ l ∈ t.history, l.seq ≠ g.leaseGrantSeq ∧ l.digest ≠ g.grantDigest) :
    installLeaseGrantInTx E D resolver t g = (.ok g.record, t.append g.record) := by
  have hinstall := installLeaseGrant_of_installs hverified hread h
  have hne : t.append g.record ≠ t := by
    intro heq
    have hlen := congrArg (fun t => t.history.length) heq
    simp [SignedTable.append] at hlen
  have hinsert : insertLeaseHistory t g.record = .ok { t with history := t.history ++ [g.record] } := by
    simp only [insertLeaseHistory, bind_eq_ok, require_eq_ok, pure_eq_ok]
    exact ⟨(), fun l hl => ⟨(hfresh l hl).1, (hfresh l hl).2, h.fresh l hl⟩, trivial⟩
  simp only [installLeaseGrantInTx, hinstall, if_neg hne, hinsert]
  cases t.head <;> simp [writeLeaseHead, require, SignedTable.append]

/-- One install keeps every history lawful, and what it accepts is in the history. -/
theorem LawfulLeases.installLeaseGrantInTx (h : LawfulLeases E D resolver g.streamId t) :
    LawfulLeases E D resolver g.streamId (installLeaseGrantInTx E D resolver t g).2 := by
  rcases installLeaseGrantInTx_cases E D resolver t g with
    ⟨e, he⟩ | ⟨record, t', hok, hinstall⟩
  · rw [he]
    exact h
  · rw [hok]
    rcases installLeaseGrant_ok hinstall with ⟨rfl, -⟩ | ⟨hg, -, rfl⟩
    · exact h
    · refine h.append ?_ hg
      simp only [installLeaseGrant, bind_eq_ok] at hinstall
      exact hinstall.choose_spec.1

/-- No install takes a row away. -/
theorem subset_installLeaseGrantInTx (t : SourceLeaseTable) (g : LeaseGrant) {a : LeaseColumns}
    (ha : a ∈ t.bodies) : a ∈ (installLeaseGrantInTx E D resolver t g).2.bodies := by
  rcases installLeaseGrantInTx_cases E D resolver t g with
    ⟨e, he⟩ | ⟨record, t', hok, hinstall⟩
  · rw [he]
    exact ha
  · rw [hok]
    rcases installLeaseGrant_ok hinstall with ⟨rfl, -⟩ | ⟨-, -, rfl⟩
    · exact ha
    · rw [SignedTable.bodies_append]
      exact List.mem_append_left _ ha

theorem lawfulLeases_of_runs {ls : List LeaseGrant} {db : SourceLeases}
    (h : (leaseInstalls E D resolver).Reaches (fun _ => {}) ls db) (streamId : JsString) :
    LawfulLeases E D resolver streamId (db streamId) := by
  revert streamId
  refine h.invariant (I := fun db => ∀ s, LawfulLeases E D resolver s (db s)) ?_
    (fun _ => lawfulLeases_empty)
  intro db g db' hdb _ hstep s
  obtain rfl := Option.some.inj hstep
  by_cases hs : s = g.streamId
  · subst hs
    rw [Function.update_self]
    exact (hdb g.streamId).installLeaseGrantInTx
  · rw [Function.update_of_ne hs]
    exact hdb s

/-- However grants are installed, replayed or left out: every history stays lawful, a call
that is refused leaves the tables as they were, and one that returns has the row of the
grant among the rows, at most one of them new. -/
theorem lease_history_lawful {ls : List LeaseGrant} {db : SourceLeases}
    (h : (leaseInstalls E D resolver).Reaches (fun _ => {}) ls db) :
    (∀ streamId, LawfulLeases E D resolver streamId (db streamId)) ∧
    ∀ g t outcome, installLeaseGrantInTx E D resolver (db g.streamId) g = (outcome, t) →
      (∀ e, outcome = .error e → t = db g.streamId) ∧
      ∀ record, outcome = .ok record → record ∈ t.history ∧ record.digest = g.grantDigest ∧
        (t = db g.streamId ∨ t.history = (db g.streamId).history ++ [g.record]) := by
  have hlawful := lawfulLeases_of_runs h
  refine ⟨hlawful, fun g t outcome hcall => ?_⟩
  rcases installLeaseGrantInTx_cases E D resolver (db g.streamId) g with
    ⟨e, he⟩ | ⟨record, t', hok, hinstall⟩
  · rw [hcall] at he
    obtain ⟨rfl, rfl⟩ := Prod.mk.inj he
    exact ⟨fun _ _ => rfl, fun _ hrecord => by cases hrecord⟩
  · rw [hcall] at hok
    obtain ⟨rfl, rfl⟩ := Prod.mk.inj hok
    refine ⟨fun _ he => (by cases he), fun r hr => ?_⟩
    obtain rfl := Except.ok.inj hr
    rcases installLeaseGrant_ok hinstall with ⟨rfl, hdigest, hmem⟩ | ⟨-, rfl, rfl⟩
    · refine ⟨?_, hdigest, .inl rfl⟩
      rcases hmem with hhead | hmem
      · rw [(hlawful g.streamId).sound.headed] at hhead
        exact List.mem_of_getLast? hhead
      · exact hmem
    · exact ⟨by simp [SignedTable.append], rfl, .inr rfl⟩

section Sample

/-- A lease that is granted, replayed, revoked, and asked for again. -/
def sampleGrants : List LeaseGrant :=
  let active : BareLeaseGrant := {
    streamId := JsString.lit "s"
    leaseEpoch := 0
    leaseStatus := .active
    holderNodeId := JsString.lit "a"
    leaseId := JsString.lit "l"
    commandId := JsString.lit "1"
    leaseExpiresAtMs := 50
    leaseGrantSeq := 1
    prevGrantDigest := none }
  let revoked : BareLeaseGrant := { active with
    leaseStatus := .revoked
    commandId := JsString.lit "2"
    leaseGrantSeq := 2
    prevGrantDigest := some (grantDigestOf rollingSha256 active) }
  let again : BareLeaseGrant := { active with
    commandId := JsString.lit "3"
    leaseGrantSeq := 3
    prevGrantDigest := some (grantDigestOf rollingSha256 revoked) }
  [sampleGuardGrant active, sampleGuardGrant active, sampleGuardGrant revoked, sampleGuardGrant again]

theorem sample_installs : ∃ db, (leaseInstalls sampleEd25519 rollingSha256 (fun _ => some [3])).Reaches
    (fun _ => {}) sampleGrants db ∧
    (db (JsString.lit "s")).bodies.map (·.leaseStatus) = [.active, .revoked] :=
  Machine.Runs.of_observed _ _ (fun db : SourceLeases => (db (JsString.lit "s")).bodies.map (·.leaseStatus))
    (by decide +kernel)

end Sample

/-- The second grant and the fourth are in vain. -/
theorem lease_history_lawful_sample : ∃ db : SourceLeases,
    (db (JsString.lit "s")).bodies.map (·.leaseStatus) = [.active, .revoked] ∧
    LawfulLeases sampleEd25519 rollingSha256 (fun _ => some [3]) (JsString.lit "s")
      (db (JsString.lit "s")) := by
  obtain ⟨db, hrun, hstatus⟩ := sample_installs
  exact ⟨db, hstatus, (lease_history_lawful hrun).1 _⟩

end TskProtocol
