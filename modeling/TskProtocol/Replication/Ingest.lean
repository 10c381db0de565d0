import TskProtocol.Core.MirrorHmac
import TskProtocol.Lib.Machine
import TskProtocol.Replication.ReceiverLaws

namespace TskProtocol

/-- A parsed request body: of the wire types, or refused by one of the type tests. -/
inductive WireBody
  | illTyped (error : ReceiverError)
  | envelope (op : TumblerReplicaOp)

structure PendingIngest where
  op : TumblerReplicaOp
  stage : IngestStage

structure ReceiverState where
  receiver : TumblerReplicaReceiver
  pending : List PendingIngest
  responses : List (Except IngestRefusal Unit)
  /-- The sequence of every operation the store has taken, oldest first. -/
  applied : List Int

/-- One stretch of an `ingest` call each. -/
inductive ReceiverLabel
  | ingest (body : WireBody) (now : Int)
  | resume (index : Nat) (now : Int) (rawSecret : Option JsString)

namespace ReceiverState

def start (receiver : TumblerReplicaReceiver) : ReceiverState where
  receiver := receiver
  pending := []
  responses := []
  applied := []

def respond (s : ReceiverState) (response : Except IngestRefusal Unit) : ReceiverState :=
  { s with responses := s.responses ++ [response] }

/-- Park a call, and note when the store has just taken its operation. -/
def suspend (s : ReceiverState) (op : TumblerReplicaOp) (stage : IngestStage) : ReceiverState :=
  { s with
    pending := s.pending ++ [⟨op, stage⟩]
    applied := if stage = .applying (.answered (.ok ())) then
      s.applied ++ [op.checkpoint.sequence] else s.applied }

def ingest (H : HmacSha256) (D : Sha256) (s : ReceiverState) (now : Int) :
    WireBody → ReceiverState
  | .illTyped error => s.respond (.error ⟨400, error⟩)
  | .envelope op =>
    match s.receiver.beginIngest H D now op with
    | (.error refusal, receiver) => { s with receiver := receiver }.respond (.error refusal)
    | (.ok stage, receiver) => { s with receiver := receiver }.suspend op stage

def resume (s : ReceiverState) (now : Int) (rawSecret : Option JsString) (call : PendingIngest) :
    ReceiverState :=
  match call.stage with
  | .unsealing clientId map =>
    match s.receiver.unsealed now clientId map rawSecret with
    | (.error refusal, receiver) => { s with receiver := receiver }.respond (.error refusal)
    | (.ok stage, receiver) => { s with receiver := receiver }.suspend call.op (.applying stage)
  | .applying (.answered result) =>
    let (response, receiver) := s.receiver.conclude call.op result
    { s with receiver := receiver }.respond response
  | .applying stage =>
    let (result, receiver) := s.receiver.answer stage
    { s with receiver := receiver }.suspend call.op (.applying (.answered result))

def step (H : HmacSha256) (D : Sha256) (s : ReceiverState) : ReceiverLabel → Option ReceiverState
  | .ingest body now => some (s.ingest H D now body)
  | .resume index now rawSecret =>
    (s.pending[index]?).map
      (fun call => resume { s with pending := s.pending.eraseIdx index } now rawSecret call)

end ReceiverState

/-- One receiver with any number of `ingest` calls at once. -/
def receiverMachine (H : HmacSha256) (D : Sha256) : Machine ReceiverState ReceiverLabel where
  step := ReceiverState.step H D

variable {H : HmacSha256} {D : Sha256}

/-- An envelope passes the checks of `ingest` only while no admitted call is in flight. -/
def OneAtATime (H : HmacSha256) (D : Sha256) (s : ReceiverState) : ReceiverLabel → Prop
  | .ingest (.envelope op) now => (s.receiver.checkEnvelope H D now op).1 = .ok () → s.pending = []
  | _ => True

instance (s : ReceiverState) (l : ReceiverLabel) : Decidable (OneAtATime H D s l) :=
  match l with
  | .ingest (.envelope op) now =>
    inferInstanceAs (Decidable ((s.receiver.checkEnvelope H D now op).1 = .ok () → s.pending = []))
  | .ingest (.illTyped _) _ => inferInstanceAs (Decidable True)
  | .resume _ _ _ => inferInstanceAs (Decidable True)

namespace ReceiverState

variable {s t : ReceiverState}

def sequence (s : ReceiverState) : Int := s.receiver.checkpoint.sequence

/-- What has been applied lies at or below `bound`, in increasing order. -/
structure AppliedUpTo (applied : List Int) (bound : Int) : Prop where
  increasing : applied.Pairwise (· < ·)
  bounded : ∀ n ∈ applied, n ≤ bound

theorem AppliedUpTo.mono {applied : List Int} {m n : Int} (h : AppliedUpTo applied m) (hmn : m ≤ n) :
    AppliedUpTo applied n :=
  ⟨h.increasing, fun k hk => Int.le_trans (h.bounded k hk) hmn⟩

theorem AppliedUpTo.snoc {applied : List Int} {n : Int} (h : AppliedUpTo applied n) :
    AppliedUpTo (applied ++ [n + 1]) (n + 1) where
  increasing := by
    refine List.pairwise_append.mpr ⟨h.increasing, by simp, fun a ha b hb => ?_⟩
    rw [List.mem_singleton.mp hb]
    have := h.bounded a ha
    omega
  bounded n hn := by
    rcases List.mem_append.mp hn with hn | hn
    · have := h.bounded n hn
      omega
    · rw [List.mem_singleton.mp hn]

/-- At most one call is in flight, for the next sequence; only its operation may be ahead of
the checkpoint. -/
inductive Serial (s : ReceiverState) : Prop
  | idle (hpending : s.pending = []) (happlied : AppliedUpTo s.applied s.sequence)
  | busy {call : PendingIngest} (hpending : s.pending = [call])
      (hnext : call.op.checkpoint.sequence = s.sequence + 1)
      (happlied : AppliedUpTo s.applied
        (if call.stage = .applying (.answered (.ok ())) then s.sequence + 1 else s.sequence))

theorem Serial.start (receiver : TumblerReplicaReceiver) : (start receiver).Serial :=
  .idle rfl ⟨.nil, by simp [ReceiverState.start]⟩

/-- A call for the next sequence is parked on an idle receiver. -/
theorem serial_suspend {op : TumblerReplicaOp} {stage : IngestStage} (hpending : s.pending = [])
    (happlied : AppliedUpTo s.applied s.sequence)
    (hnext : op.checkpoint.sequence = s.sequence + 1) : (s.suspend op stage).Serial := by
  refine Serial.busy (show _ = [⟨op, stage⟩] by simp [suspend, hpending]) hnext ?_
  by_cases hstage : stage = .applying (.answered (.ok ()))
  · simpa [suspend, hstage, hnext, sequence] using happlied.snoc
  · simpa [suspend, hstage, sequence] using happlied

theorem serial_ingest {now : Int} {body : WireBody} (h : s.Serial)
    (hone : OneAtATime H D s (.ingest body now)) :
    (s.ingest H D now body).Serial ∧ s.sequence ≤ (s.ingest H D now body).sequence := by
  have hkeep : ∀ {t : ReceiverState}, t.pending = s.pending → t.applied = s.applied →
      t.sequence = s.sequence → t.Serial := by
    intro t hp ha hs
    cases h with
    | idle hpending happlied => exact .idle (hp.trans hpending) (by rw [ha, hs]; exact happlied)
    | busy hpending hnext happlied =>
      exact .busy (hp.trans hpending) (by rw [hs]; exact hnext) (by rw [ha, hs]; exact happlied)
  cases body with
  | illTyped error => exact ⟨hkeep rfl rfl rfl, Int.le_refl _⟩
  | envelope op =>
    have hcheck : (s.receiver.checkEnvelope H D now op).2.checkpoint = s.receiver.checkpoint :=
      s.receiver.checkEnvelope_checkpoint now op
    simp only [ingest, TumblerReplicaReceiver.beginIngest]
    rcases hchecked : s.receiver.checkEnvelope H D now op with ⟨outcome, receiver⟩
    rw [hchecked] at hcheck
    cases outcome with
    | error refusal =>
      have hseq : receiver.checkpoint.sequence = s.sequence := congrArg (·.sequence) hcheck
      exact ⟨hkeep rfl rfl hseq, Int.le_of_eq hseq.symm⟩
    | ok =>
      have hok : (s.receiver.checkEnvelope H D now op).1 = .ok () := by rw [hchecked]
      have hpending := hone hok
      have hnext := (TumblerReplicaReceiver.admitted_of_checked hok).sequence
      have hentered : (receiver.enter now op.mutation).2.checkpoint.sequence = s.sequence := by
        rw [TumblerReplicaReceiver.enter_checkpoint]
        exact congrArg (·.sequence) hcheck
      have happlied : AppliedUpTo s.applied s.sequence := by
        cases h with
        | idle _ happlied => exact happlied
        | busy hbusy => simp [hbusy] at hpending
      refine ⟨serial_suspend hpending ?_ ?_, Int.le_of_eq hentered.symm⟩
      · simpa only [sequence, hentered] using happlied
      · simpa only [sequence, hentered] using hnext

theorem serial_resume {now : Int} {rawSecret : Option JsString} {call : PendingIngest}
    (hpending : s.pending = []) (hnext : call.op.checkpoint.sequence = s.sequence + 1)
    (happlied : AppliedUpTo s.applied
      (if call.stage = .applying (.answered (.ok ())) then s.sequence + 1 else s.sequence)) :
    (s.resume now rawSecret call).Serial ∧ s.sequence ≤ (s.resume now rawSecret call).sequence := by
  obtain ⟨op, stage⟩ := call
  simp only at hnext happlied
  cases stage with
  | unsealing clientId map =>
    have happlied : AppliedUpTo s.applied s.sequence := by simpa using happlied
    have hcheck := s.receiver.unsealed_checkpoint now clientId map rawSecret
    simp only [resume]
    rcases hunseal : s.receiver.unsealed now clientId map rawSecret with ⟨outcome, receiver⟩
    rw [hunseal] at hcheck
    have hseq : receiver.checkpoint.sequence = s.sequence := congrArg (·.sequence) hcheck
    cases outcome with
    | error refusal =>
      exact ⟨.idle hpending (by simpa only [respond, sequence, hseq] using happlied),
        Int.le_of_eq hseq.symm⟩
    | ok stage =>
      refine ⟨serial_suspend hpending ?_ ?_, Int.le_of_eq hseq.symm⟩
      · simpa only [sequence, hseq] using happlied
      · simpa only [sequence, hseq] using hnext
  | applying stage =>
    cases stage with
    | setting clientId map current =>
      have happlied : AppliedUpTo s.applied s.sequence := by simpa using happlied
      exact ⟨serial_suspend hpending happlied hnext, Int.le_refl _⟩
    | updating clientId updates current =>
      have happlied : AppliedUpTo s.applied s.sequence := by simpa using happlied
      exact ⟨serial_suspend hpending happlied hnext, Int.le_refl _⟩
    | answered result =>
      cases result with
      | error e =>
        have happlied : AppliedUpTo s.applied s.sequence := by simpa using happlied
        exact ⟨.idle hpending happlied, Int.le_refl _⟩
      | ok =>
        -- The one place where the checkpoint moves, right behind the store.
        have happlied : AppliedUpTo s.applied (s.sequence + 1) := by simpa using happlied
        refine ⟨.idle hpending (by simpa [resume, TumblerReplicaReceiver.conclude, respond, sequence, hnext] using happlied), ?_⟩
        simp only [resume, TumblerReplicaReceiver.conclude, respond, sequence] at hnext ⊢
        omega

theorem Serial.step {l : ReceiverLabel} (h : s.Serial) (hone : OneAtATime H D s l)
    (hstep : (receiverMachine H D).step s l = some t) : t.Serial ∧ s.sequence ≤ t.sequence := by
  cases l with
  | ingest body now =>
    obtain rfl := Option.some.inj hstep
    exact serial_ingest h hone
  | resume index now rawSecret =>
    obtain ⟨call, hcall, rfl⟩ := Option.map_eq_some_iff.mp hstep
    cases h with
    | idle hpending => simp [hpending] at hcall
    | @busy only hpending hnext happlied =>
      obtain ⟨rfl, rfl⟩ : index = 0 ∧ only = call := by
        rw [hpending] at hcall
        cases index with
        | zero => exact ⟨rfl, by simpa using hcall⟩
        | succ index => simp at hcall
      exact serial_resume (s := { s with pending := s.pending.eraseIdx 0 }) (by simp [hpending])
        hnext happlied

theorem Serial.run {ls : List ReceiverLabel} (h : s.Serial)
    (hrun : (receiverMachine H D).Runs (OneAtATime H D) s ls t) :
    t.Serial ∧ s.sequence ≤ t.sequence :=
  ⟨hrun.invariant (fun _ _ _ h hone hstep => (h.step hone hstep).1) h,
    hrun.relates (R := fun s t => s.sequence ≤ t.sequence) (fun _ => Int.le_refl _)
      (fun _ _ _ => Int.le_trans) (fun _ _ _ h hone hstep => (h.step hone hstep).1)
      (fun _ _ _ h hone hstep => (h.step hone hstep).2) h⟩

theorem Serial.increasing (h : s.Serial) : s.applied.Pairwise (· < ·) := by
  cases h with
  | idle _ happlied => exact happlied.increasing
  | busy _ _ happlied => exact happlied.increasing

end ReceiverState

/-- While admitted calls come one at a time, operations are applied in strictly increasing
sequence order and the checkpoint never goes back. -/
theorem ingest_in_order {receiver : TumblerReplicaReceiver} {s t : ReceiverState}
    {ls ks : List ReceiverLabel}
    (hs : (receiverMachine H D).Runs (OneAtATime H D) (.start receiver) ls s)
    (ht : (receiverMachine H D).Runs (OneAtATime H D) s ks t) :
    t.applied.Pairwise (· < ·) ∧ s.sequence ≤ t.sequence := by
  have hserial := ((ReceiverState.Serial.start receiver).run hs).1
  exact ⟨(hserial.run ht).1.increasing, (hserial.run ht).2⟩

section Sample

def sampleToken : ReplicaToken := ⟨List.replicate 32 97, by decide⟩

/-- A static and a HOTP segment before the checksum. -/
def sampleTwinMap : TumblerMap where
  clientId := JsString.lit "tsk_a"
  sharedSecret := List.replicate 64 97
  keyLength := 31
  segments := [⟨JsString.lit "id", (0, 8), .static, none, none⟩,
    ⟨JsString.lit "seg", (8, 19), .hotp, none, some 0⟩]
  checksum := (19, 31)
  createdAt := 0
  version := JsString.lit "1"
  label := none
  expiresAt := none
  maxRequests := none
  rotationWarningRequests := none
  hotpRotationWarningCounters := none
  requestCount := some 0
  lastUsedAt := some none
  status := some .active

def sampleGenesis : ReplicationCheckpoint := ⟨JsString.lit "stream", 1, 0, REPLICATION_GENESIS_HASH⟩

theorem sampleStream_valid : isValidId (JsString.lit "stream") 128 = true := by decide

theorem sampleReplicaEpoch_valid : isSafeInteger 1 = true ∧ (1 : Int) ≤ 1 := by decide

def sampleReceiver : TumblerReplicaReceiver where
  token := sampleToken
  streamId := JsString.lit "stream"
  epoch := 1
  unseals := true
  streamId_valid := sampleStream_valid
  epoch_valid := sampleReplicaEpoch_valid
  store := ⟨∅, 4, 0⟩
  checkpoint := sampleGenesis

/-- A set whose sealed secret is the bare secret. -/
def sampleSet : PendingReplicaOp :=
  sampleGenesis.link mirrorSha256 (.set (JsString.lit "tsk_a") sampleTwinMap true)

def sampleDelete : PendingReplicaOp :=
  sampleSet.checkpoint.link mirrorSha256 (.delete (JsString.lit "tsk_a"))

def sampleEnvelope (pending : PendingReplicaOp) : WireBody :=
  .envelope (signReplicaEnvelope mirrorHmac sampleToken pending 0)

/-- One ingest of a set from its arrival to its answer. -/
def sampleIngestSet : List ReceiverLabel :=
  [.ingest (sampleEnvelope sampleSet) 0, .resume 0 0 (some (List.replicate 64 97)),
    .resume 0 0 none, .resume 0 0 none]

def sampleIngestDelete : List ReceiverLabel :=
  [.ingest (sampleEnvelope sampleDelete) 0, .resume 0 0 none]

end Sample

theorem ingest_in_order_sample : ∃ s t,
    (receiverMachine mirrorHmac mirrorSha256).Runs (OneAtATime mirrorHmac mirrorSha256)
      (.start sampleReceiver) sampleIngestSet s ∧
    (receiverMachine mirrorHmac mirrorSha256).Runs (OneAtATime mirrorHmac mirrorSha256) s
      sampleIngestDelete t ∧
    t.applied = [1, 2] ∧ t.applied.Pairwise (· < ·) ∧ s.sequence ≤ t.sequence := by
  obtain ⟨s, hs, hrest⟩ := Machine.Runs.of_observed
    (M := receiverMachine mirrorHmac mirrorSha256) (C := OneAtATime mirrorHmac mirrorSha256)
    (.start sampleReceiver) sampleIngestSet
    (fun s => ((receiverMachine mirrorHmac mirrorSha256).exec
      (OneAtATime mirrorHmac mirrorSha256) s sampleIngestDelete).map (·.applied))
    (b := some [1, 2]) (by decide +kernel)
  obtain ⟨t, ht, happlied⟩ := Machine.Runs.of_observed _ _ _ hrest
  exact ⟨s, t, hs, ht, happlied, ingest_in_order hs ht⟩

/-- Two copies of the set wait for the unsealer; one is applied, then the client is deleted. -/
def sampleOvertaken : List ReceiverLabel :=
  [.ingest (sampleEnvelope sampleSet) 0, .ingest (sampleEnvelope sampleSet) 0,
    .resume 0 0 (some (List.replicate 64 97)), .resume 1 0 none, .resume 1 0 none,
    .ingest (sampleEnvelope sampleDelete) 0, .resume 1 0 none]

/-- The other copy goes on. -/
def sampleStraggler : List ReceiverLabel :=
  [.resume 0 0 (some (List.replicate 64 97)), .resume 0 0 none, .resume 0 0 none]

def ReceiverState.observe (s : ReceiverState) : List Int × Int × Option TumblerMap :=
  (s.applied, s.sequence, s.receiver.store.maps.get? (JsString.lit "tsk_a"))

/-- The set is applied once more after the deletion: it brings the client back and takes the
checkpoint from 2 to 1. -/
theorem duplicate_set_undoes_delete : ∃ s t,
    (receiverMachine mirrorHmac mirrorSha256).Reaches (.start sampleReceiver) sampleOvertaken s ∧
    (receiverMachine mirrorHmac mirrorSha256).Reaches s sampleStraggler t ∧
    s.observe = ([1, 2], 2, none) ∧ t.observe = ([1, 2, 1], 1, some sampleTwinMap) := by
  obtain ⟨s, hs, hrest⟩ := Machine.Runs.of_observed
    (M := receiverMachine mirrorHmac mirrorSha256) (C := fun _ _ => True)
    (.start sampleReceiver) sampleOvertaken
    (fun s => (s.observe, ((receiverMachine mirrorHmac mirrorSha256).exec
      (fun _ _ => True) s sampleStraggler).map (·.observe)))
    (b := (([1, 2], 2, none), some ([1, 2, 1], 1, some sampleTwinMap))) (by decide +kernel)
  obtain ⟨hobserve, hrest⟩ := Prod.mk.inj hrest
  obtain ⟨t, ht, hstraggler⟩ := Machine.Runs.of_observed _ _ _ hrest
  exact ⟨s, t, hs, ht, hobserve, hstraggler⟩

end TskProtocol
