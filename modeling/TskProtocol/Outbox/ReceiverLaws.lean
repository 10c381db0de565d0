import TskProtocol.Outbox.Receiver

namespace TskProtocol

variable {D : Sha256Bytes} {opts : PgTskReceiverOptions} {db db' : ReceiverDb}
  {checkpoint : OutboxCheckpoint} {record : OutboxRecord} {head : SignedStreamHead}
  {verdict : HeadVerdict} {decision : ReceiverDecision}

/-- The tables after an operation has been applied. -/
def ReceiverDb.after (db : ReceiverDb) (checkpoint : OutboxCheckpoint) (record : OutboxRecord)
    (head : SignedStreamHead) : ReceiverDb :=
  { db with
    consumed := db.consumed.set record.mutation.tumblerId record.mutation.counter
    applied := db.applied ++ [record.key]
    checkpoint := some { checkpoint with
      sequence := record.sequence
      headDigest := head.headDigest } }

/-- Everything that can come of a record behind the receiver's checkpoint. -/
inductive AppliesAt (db : ReceiverDb) (checkpoint : OutboxCheckpoint) (record : OutboxRecord)
    (head : SignedStreamHead) : ReceiverDecision → ReceiverDb → Prop
  | epoch (h : record.sourceEpoch ≠ checkpoint.sourceEpoch) :
      AppliesAt db checkpoint record head .rejectEpoch db
  | duplicate (h : record.sequence ≤ checkpoint.sequence)
      (hprior : db.priorDigest record = some record.opDigest) :
      AppliesAt db checkpoint record head .duplicateOk db
  | fork {opDigest : JsString} (h : record.sequence ≤ checkpoint.sequence)
      (hprior : db.priorDigest record = some opDigest) (hne : opDigest ≠ record.opDigest) :
      AppliesAt db checkpoint record head .rejectFork db
  | stale (h : record.sequence ≤ checkpoint.sequence) (hprior : db.priorDigest record = none) :
      AppliesAt db checkpoint record head .rejectStale db
  | gap (h : checkpoint.sequence + 1 < record.sequence) :
      AppliesAt db checkpoint record head .rejectGap db
  | unlinked (h : record.sequence = checkpoint.sequence + 1)
      (hprev : head.prevHeadDigest ≠ checkpoint.head) :
      AppliesAt db checkpoint record head .rejectFork db
  | consumed {last : Int} (h : record.sequence = checkpoint.sequence + 1)
      (hlast : db.consumed.get? record.mutation.tumblerId = some last)
      (hle : record.mutation.counter ≤ last) :
      AppliesAt db checkpoint record head .rejectFork db
  | applied (hepoch : record.sourceEpoch = checkpoint.sourceEpoch)
      (h : record.sequence = checkpoint.sequence + 1)
      (hprev : head.prevHeadDigest = checkpoint.head)
      (hfresh : ∀ last ∈ db.consumed.get? record.mutation.tumblerId,
        last < record.mutation.counter) :
      AppliesAt db checkpoint record head .applied (db.after checkpoint record head)

theorem ReceiverDb.applyAt_ok (h : db.applyAt checkpoint record head = .ok (decision, db')) :
    AppliesAt db checkpoint record head decision db' := by
  rw [applyAt] at h
  split at h
  · next hepoch =>
    obtain ⟨rfl, rfl⟩ := Prod.mk.inj (Except.ok.inj h)
    exact .epoch hepoch
  next hepoch =>
  split at h
  · next hold =>
    split at h
    · next opDigest hprior =>
      obtain ⟨rfl, rfl⟩ := Prod.mk.inj (Except.ok.inj h)
      split
      · next heq => exact .duplicate hold (heq ▸ hprior)
      · next hne => exact .fork hold hprior hne
    · next hprior =>
      obtain ⟨rfl, rfl⟩ := Prod.mk.inj (Except.ok.inj h)
      exact .stale hold hprior
  next hold =>
  split at h
  · next hgap =>
    obtain ⟨rfl, rfl⟩ := Prod.mk.inj (Except.ok.inj h)
    exact .gap hgap
  next hgap =>
  have hnext : record.sequence = checkpoint.sequence + 1 := by omega
  split at h
  · next hprev =>
    obtain ⟨rfl, rfl⟩ := Prod.mk.inj (Except.ok.inj h)
    exact .unlinked hnext hprev
  next hprev =>
  split at h
  · next hconsumed =>
    obtain ⟨rfl, rfl⟩ := Prod.mk.inj (Except.ok.inj h)
    obtain ⟨last, hlast, hle⟩ := (Option.any_eq_true _ _).mp hconsumed
    exact .consumed hnext hlast (by simpa using hle)
  next hconsumed =>
  simp only [apply, bind_eq_ok, require_eq_ok] at h
  obtain ⟨_, -, _, -, h⟩ := h
  obtain ⟨rfl, rfl⟩ := Prod.mk.inj (Except.ok.inj h)
  refine .applied (not_not.mp hepoch) hnext (not_not.mp hprev) (fun last hlast => ?_)
  rw [Option.mem_def.mp hlast] at hconsumed
  simpa using hconsumed

/-- What stands in the way of a record whatever the tables hold. -/
def Unfit (D : Sha256Bytes) (opts : PgTskReceiverOptions) (verdict : HeadVerdict)
    (record : OutboxRecord) (head : SignedStreamHead) : Prop :=
  opts.sanitizer.assertSanitized record.mutation = false ∨
  canonicalOpDigest D record.streamId record.sourceEpoch record.sequence record.fenceToken
    record.mutation ≠ .ok record.opDigest ∨
  assertStreamHeadBinds D record.toOutboxRecordHeader head ≠ .ok () ∨ verdict = .invalid

/-- Everything that can come of a record. -/
inductive Verifies (D : Sha256Bytes) (opts : PgTskReceiverOptions) (db : ReceiverDb)
    (verdict : HeadVerdict) (record : OutboxRecord) (head : SignedStreamHead) :
    ReceiverDecision → ReceiverDb → Prop
  | unfit {decision : ReceiverDecision} (h : Unfit D opts verdict record head)
      (hdecision : decision = .rejectUnsanitized ∨ decision = .rejectFork) :
      Verifies D opts db verdict record head decision db
  | fence (h : db.fence ≠ some (bigIntOf record.fenceToken)) :
      Verifies D opts db verdict record head .rejectFence db
  | behind {checkpoint : OutboxCheckpoint} {decision : ReceiverDecision} {db' : ReceiverDb}
      (hvalid : verdict = .valid) (hfit : ¬ Unfit D opts verdict record head) (hcheckpoint : db.checkpoint = some checkpoint)
      (h : AppliesAt db checkpoint record head decision db') :
      Verifies D opts db verdict record head decision db'

theorem verifyAndApplyTumblerInTx_ok
    (h : verifyAndApplyTumblerInTx D opts db verdict record head = .ok (decision, db')) :
    Verifies D opts db verdict record head decision db' := by
  simp only [verifyAndApplyTumblerInTx, bind_eq_ok, require_eq_ok] at h
  obtain ⟨_, -, _, -, h⟩ := h
  split at h
  · next hsanitized =>
    obtain ⟨rfl, rfl⟩ := Prod.mk.inj (Except.ok.inj h)
    exact .unfit (.inl hsanitized) (.inl rfl)
  next hsanitized =>
  obtain ⟨recomputed, hdigest, h⟩ := bind_eq_ok.mp h
  split at h
  · next hbad =>
    obtain ⟨rfl, rfl⟩ := Prod.mk.inj (Except.ok.inj h)
    refine .unfit (.inr ?_) (.inr rfl)
    rcases hbad with hne | hbinds
    · exact .inl (fun hok => hne (Except.ok.inj (hdigest.symm.trans hok)))
    · exact .inr (.inl hbinds)
  next hgood =>
  obtain ⟨heq, hbinds⟩ := not_or.mp hgood
  split at h
  · cases h
  · obtain ⟨rfl, rfl⟩ := Prod.mk.inj (Except.ok.inj h)
    exact .unfit (.inr (.inr (.inr rfl))) (.inr rfl)
  · rw [ReceiverDb.decide] at h
    split at h
    · next hfence =>
      obtain ⟨rfl, rfl⟩ := Prod.mk.inj (Except.ok.inj h)
      exact .fence hfence
    · simp only [bind_eq_ok, orThrow_eq_ok] at h
      obtain ⟨checkpoint, hcheckpoint, h⟩ := h
      refine .behind rfl ?_ hcheckpoint (ReceiverDb.applyAt_ok h)
      rintro (hs | hd | hb | hv)
      · exact hsanitized hs
      · exact hd (by rw [hdigest, not_not.mp heq])
      · exact hb (not_not.mp hbinds)
      · cases hv

/-- Only an applied operation changes the receiver's tables. -/
theorem Verifies.unchanged (h : Verifies D opts db verdict record head decision db')
    (hdecision : decision ≠ .applied) : db' = db := by
  cases h with
  | unfit => rfl
  | fence => rfl
  | behind _ _ _ happlies =>
    cases happlies with
    | applied => exact absurd rfl hdecision
    | _ => rfl

theorem Verifies.applied_inv (h : Verifies D opts db verdict record head .applied db') :
    ∃ checkpoint, ¬ Unfit D opts verdict record head ∧ db.checkpoint = some checkpoint ∧
      record.sourceEpoch = checkpoint.sourceEpoch ∧ record.sequence = checkpoint.sequence + 1 ∧
      (∀ last ∈ db.consumed.get? record.mutation.tumblerId, last < record.mutation.counter) ∧
      db' = db.after checkpoint record head := by
  cases h with
  | unfit _ hdecision => rcases hdecision with h | h <;> cases h
  | behind _ hfit hcheckpoint happlies =>
    cases happlies with
    | applied hepoch hnext _ hfresh => exact ⟨_, hfit, hcheckpoint, hepoch, hnext, hfresh, rfl⟩

theorem Verifies.duplicate_inv (h : Verifies D opts db verdict record head .duplicateOk db') :
    db.priorDigest record = some record.opDigest := by
  cases h with
  | unfit _ hdecision => rcases hdecision with h | h <;> cases h
  | behind _ _ _ happlies =>
    cases happlies with
    | duplicate _ hprior => exact hprior

theorem Verifies.fit_of_applied (h : Verifies D opts db verdict record head .applied db') :
    verdict = .valid ∧ ¬ Unfit D opts .valid record head := by
  cases h with
  | unfit _ hdecision => rcases hdecision with h | h <;> cases h
  | behind hvalid hfit _ _ =>
    subst hvalid
    exact ⟨rfl, hfit⟩

end TskProtocol
