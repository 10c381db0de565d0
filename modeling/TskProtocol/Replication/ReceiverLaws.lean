import TskProtocol.Replication.Receiver

namespace TskProtocol

namespace TumblerReplicaReceiver

variable {H : HmacSha256} {D : Sha256}

/-- The checks change nothing but the flag of a receiver. -/
theorem checkEnvelope_state (receiver : TumblerReplicaReceiver) (now : Int) (op : TumblerReplicaOp) :
    ∃ integrityLost, (receiver.checkEnvelope H D now op).2 = { receiver with integrityLost := integrityLost } := by
  simp only [checkEnvelope, refuse, halt]
  repeat' split
  all_goals exact ⟨_, rfl⟩

theorem checkEnvelope_checkpoint (receiver : TumblerReplicaReceiver) (now : Int) (op : TumblerReplicaOp) :
    (receiver.checkEnvelope H D now op).2.checkpoint = receiver.checkpoint := by
  obtain ⟨_, h⟩ := receiver.checkEnvelope_state (H := H) (D := D) now op
  rw [h]

end TumblerReplicaReceiver

/-- What every check of `ingest` has established about an envelope that passes them all. -/
structure Admitted (H : HmacSha256) (D : Sha256) (receiver : TumblerReplicaReceiver) (now : Int)
    (op : TumblerReplicaOp) : Prop where
  valid : validateTumblerOp op = .ok ()
  signed : verifyReplicaEnvelopeSignature H op receiver.token = true
  fresh : ((now - op.sentAt).natAbs : Int) ≤ receiver.maxClockSkewMs
  streamId : op.checkpoint.streamId = receiver.streamId
  epoch : op.checkpoint.epoch = receiver.epoch
  sequence : op.checkpoint.sequence = receiver.checkpoint.sequence + 1
  previousHash : op.previousHash = receiver.checkpoint.headHash
  headHash : op.checkpoint.headHash = computeReplicationHash D op.checkpoint.streamId
    op.checkpoint.epoch op.checkpoint.sequence op.previousHash op.mutation

namespace TumblerReplicaReceiver

variable {H : HmacSha256} {D : Sha256} {receiver : TumblerReplicaReceiver} {now : Int}
  {op : TumblerReplicaOp}

theorem checkEnvelope_of_admitted (h : Admitted H D receiver now op) :
    receiver.checkEnvelope H D now op = (.ok (), receiver) := by
  have hstream : ¬ (op.checkpoint.streamId ≠ receiver.streamId ∨
      op.checkpoint.epoch ≠ receiver.epoch) := by simp [h.streamId, h.epoch]
  have hold : ¬ op.checkpoint.sequence < receiver.checkpoint.sequence + 1 := by
    have := h.sequence; omega
  have hgap : ¬ receiver.checkpoint.sequence + 1 < op.checkpoint.sequence := by
    have := h.sequence; omega
  simp only [checkEnvelope, h.valid]
  rw [if_neg (by simp [h.signed]), if_neg (Int.not_lt.mpr h.fresh), if_neg hstream, if_neg hold,
    if_neg hgap, if_neg (not_not.mpr h.previousHash), if_neg (not_not.mpr h.headHash)]

theorem admitted_of_checked (h : (receiver.checkEnvelope H D now op).1 = .ok ()) :
    Admitted H D receiver now op := by
  simp only [checkEnvelope, refuse, halt] at h
  split at h
  · cases h
  next hvalid =>
  split at h
  · cases h
  next hsigned =>
  split at h
  · cases h
  next hfresh =>
  split at h
  · cases h
  next hstream =>
  split at h
  · cases h
  next hold =>
  split at h
  · cases h
  next hgap =>
  split at h
  · cases h
  next hprevious =>
  split at h
  · cases h
  next hhash =>
  obtain ⟨hid, hepoch⟩ : op.checkpoint.streamId = receiver.streamId ∧
      op.checkpoint.epoch = receiver.epoch := by simpa [not_or] using hstream
  exact ⟨hvalid, by simpa using hsigned, Int.not_lt.mp hfresh, hid, hepoch, by omega,
    not_not.mp hprevious, not_not.mp hhash⟩

theorem enter_checkpoint (mutation : TumblerReplicaMutation) :
    (receiver.enter now mutation).2.checkpoint = receiver.checkpoint := by
  cases mutation with
  | set clientId map secretSealed =>
    simp only [enter]
    split <;> rfl
  | delete clientId => rfl
  | updateCounters clientId updates => rfl
  | consumeCounter clientId segmentId matchedCounter => rfl

theorem unsealed_checkpoint (receiver : TumblerReplicaReceiver) (now : Int) (clientId : JsString)
    (map : TumblerMap) (rawSecret : Option JsString) :
    (receiver.unsealed now clientId map rawSecret).2.checkpoint = receiver.checkpoint := by
  cases rawSecret with
  | none => rfl
  | some rawSecret =>
    simp only [unsealed]
    split <;> rfl

/-- The checkpoint is at the operation when it was answered ok, and where it was otherwise. -/
def Settled (before after : ReplicationCheckpoint)
    (outcome : Except IngestRefusal Unit × TumblerReplicaReceiver) : Prop :=
  match outcome.1 with
  | .ok _ => outcome.2.checkpoint = after
  | .error _ => outcome.2.checkpoint = before

section Settle

variable {secretUnsealer : JsString → JsString → Option JsString}

theorem concludeApply_settled (receiver : TumblerReplicaReceiver) (op : TumblerReplicaOp)
    (stage : ApplyStage) :
    Settled receiver.checkpoint op.checkpoint (receiver.concludeApply op stage) := by
  simp only [Settled, concludeApply, answer, conclude]
  rcases (answerApply receiver.store stage).1 with e | ok <;> rfl

theorem finishIngest_settled (receiver : TumblerReplicaReceiver) (now : Int)
    (op : TumblerReplicaOp) (stage : IngestStage) : Settled receiver.checkpoint op.checkpoint
      (receiver.finishIngest now secretUnsealer op stage) := by
  cases stage with
  | applying stage => exact receiver.concludeApply_settled op stage
  | unsealing clientId map =>
    have hkeep := receiver.unsealed_checkpoint now clientId map
      (secretUnsealer clientId map.sharedSecret)
    simp only [finishIngest]
    rcases hunseal : receiver.unsealed now clientId map
      (secretUnsealer clientId map.sharedSecret) with ⟨outcome, receiver'⟩
    rw [hunseal] at hkeep
    cases outcome with
    | error refusal => exact hkeep
    | ok stage =>
      rw [← show receiver'.checkpoint = receiver.checkpoint from hkeep]
      exact receiver'.concludeApply_settled op stage

theorem ingest_of_refused {refusal : IngestRefusal} {receiver' : TumblerReplicaReceiver}
    (h : receiver.checkEnvelope H D now op = (.error refusal, receiver')) :
    receiver.ingest H D secretUnsealer now op = (.error refusal, receiver') := by
  simp only [ingest, beginIngest, h]

theorem ingest_of_checked {receiver' : TumblerReplicaReceiver}
    (h : receiver.checkEnvelope H D now op = (.ok (), receiver')) :
    receiver.ingest H D secretUnsealer now op =
      (receiver'.enter now op.mutation).2.finishIngest now secretUnsealer op (receiver'.enter now op.mutation).1 := by
  simp only [ingest, beginIngest, h]

theorem ingest_of_admitted (h : Admitted H D receiver now op) :
    receiver.ingest H D secretUnsealer now op =
      (receiver.enter now op.mutation).2.finishIngest now secretUnsealer op
        (receiver.enter now op.mutation).1 :=
  ingest_of_checked (checkEnvelope_of_admitted h)

theorem ingest_settled (receiver : TumblerReplicaReceiver) (now : Int)
    (secretUnsealer : JsString → JsString → Option JsString) (op : TumblerReplicaOp) :
    Settled receiver.checkpoint op.checkpoint (receiver.ingest H D secretUnsealer now op) := by
  have hkeep := receiver.checkEnvelope_checkpoint (H := H) (D := D) now op
  rcases hchecked : receiver.checkEnvelope H D now op with ⟨outcome, receiver'⟩
  rw [hchecked] at hkeep
  cases outcome with
  | error refusal =>
    rw [ingest_of_refused hchecked]
    exact hkeep
  | ok =>
    rw [ingest_of_checked hchecked]
    have hentered : (receiver'.enter now op.mutation).2.checkpoint = receiver.checkpoint := by
      rw [enter_checkpoint]
      exact hkeep
    rw [← hentered]
    exact finishIngest_settled _ now op _

theorem ingest_config (receiver : TumblerReplicaReceiver) (now : Int)
    (secretUnsealer : JsString → JsString → Option JsString) (op : TumblerReplicaOp) :
    (receiver.ingest H D secretUnsealer now op).2.toReceiverConfig =
      receiver.toReceiverConfig := by
  have hchecked : (receiver.checkEnvelope H D now op).2.toReceiverConfig = receiver.toReceiverConfig := by
    obtain ⟨_, h⟩ := receiver.checkEnvelope_state (H := H) (D := D) now op
    rw [h]
  have henter : ∀ receiver : TumblerReplicaReceiver,
      (receiver.enter now op.mutation).2.toReceiverConfig = receiver.toReceiverConfig := by
    intro receiver
    simp only [enter, startApply]
    repeat' split
    all_goals rfl
  have hconclude : ∀ (receiver : TumblerReplicaReceiver) (stage : ApplyStage),
      (receiver.concludeApply op stage).2.toReceiverConfig = receiver.toReceiverConfig := by
    intro receiver stage
    simp only [concludeApply, answer, conclude, halt]
    split <;> rfl
  have hunseal : ∀ (receiver : TumblerReplicaReceiver) (clientId : JsString) (map : TumblerMap)
      (rawSecret : Option JsString), (receiver.unsealed now clientId map rawSecret).2.toReceiverConfig =
        receiver.toReceiverConfig := by
    intro receiver clientId map rawSecret
    simp only [unsealed, startApply, halt]
    repeat' split
    all_goals rfl
  rcases h : receiver.checkEnvelope H D now op with ⟨outcome, admitted⟩
  rw [h] at hchecked
  cases outcome with
  | error refusal =>
    rw [ingest_of_refused h]
    exact hchecked
  | ok =>
    rw [ingest_of_checked h]
    have hentered := (henter admitted).trans hchecked
    cases (admitted.enter now op.mutation).1 with
    | applying stage => exact (hconclude _ stage).trans hentered
    | unsealing clientId map =>
      have hraw := hunseal (admitted.enter now op.mutation).2 clientId map
        (secretUnsealer clientId map.sharedSecret)
      simp only [finishIngest]
      rcases h : (admitted.enter now op.mutation).2.unsealed now clientId map
        (secretUnsealer clientId map.sharedSecret) with ⟨outcome, opened⟩
      rw [h] at hraw
      cases outcome with
      | error refusal => exact hraw.trans hentered
      | ok stage => exact (hconclude opened stage).trans (hraw.trans hentered)

theorem admitted_of_ingest (h : (receiver.ingest H D secretUnsealer now op).1 = .ok ()) :
    Admitted H D receiver now op := by
  refine admitted_of_checked ?_
  rcases hchecked : receiver.checkEnvelope H D now op with ⟨outcome, receiver'⟩
  cases outcome with
  | error refusal =>
    rw [ingest_of_refused hchecked] at h
    cases h
  | ok => rfl

end Settle

end TumblerReplicaReceiver

end TskProtocol
