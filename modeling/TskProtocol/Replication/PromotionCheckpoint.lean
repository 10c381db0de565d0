import TskProtocol.Replication.Ingest
import TskProtocol.Replication.Mirror

namespace TskProtocol

variable {H : HmacSha256} {D : Sha256}

namespace ReplicationState

variable {s t : ReplicationState}

/-- The source's checkpoint is not behind anything it has emitted. -/
def EmittedBelow (s : ReplicationState) : Prop :=
  ∀ op ∈ s.emitted, op.checkpoint.sequence ≤ s.source.checkpoint.sequence

theorem checkpoint_emit (s : ReplicationState) (mutation : TumblerReplicaMutation) :
    (s.emit D mutation).source.checkpoint = (s.source.checkpoint.link D mutation).checkpoint := by
  simp only [emit, ReplicatingTumblerStore.enqueueMutation]
  split <;> rfl

theorem EmittedBelow.emit (h : s.EmittedBelow) (mutation : TumblerReplicaMutation) :
    (s.emit D mutation).EmittedBelow := by
  intro op hop
  rw [checkpoint_emit]
  rcases List.mem_append.mp hop with hop | hop
  · have := h op hop
    simp only [ReplicationCheckpoint.link]
    omega
  · rw [List.mem_singleton.mp hop]

theorem EmittedBelow.step {l : ReplicationLabel} (h : s.EmittedBelow)
    (hstep : (replicationMachine D).step s l = some t) : t.EmittedBelow := by
  cases l with
  | call mutation =>
    obtain rfl := Option.some.inj hstep
    exact h
  | pushed ok =>
    obtain rfl := Option.some.inj hstep
    have hkeep : (s.source.pushed ok).checkpoint = s.source.checkpoint := by
      simp only [ReplicatingTumblerStore.pushed]
      split
      · rfl
      · split <;> rfl
    intro op hop
    rw [show (s.source.pushed ok).checkpoint = s.source.checkpoint from hkeep]
    exact h op hop
  | resume k now answer =>
    obtain ⟨call, -, rfl⟩ := Option.map_eq_some_iff.mp hstep
    have h' : EmittedBelow { s with pending := s.pending.eraseIdx k } := h
    cases call with
    | enqueue mutation => exact h'.emit mutation
    | reread clientIds =>
      cases clientIds with
      | nil => exact h'
      | cons clientId rest =>
        simp only [ReplicationState.resume]
        split <;> exact h'
    | sealing clientId map rest =>
      simp only [ReplicationState.resume]
      split
      · exact h'
      · exact h'.emit _

theorem EmittedBelow.of_runs {C : ReplicationState → ReplicationLabel → Prop}
    {source : ReplicatingTumblerStore} {ls : List ReplicationLabel}
    (h : (replicationMachine D).Runs C (.start source) ls s) : s.EmittedBelow :=
  h.invariant (fun _ _ _ hs _ hstep => hs.step hstep) (fun op hop => by cases hop)

end ReplicationState

section Sample

def sampleSource : ReplicatingTumblerStore where
  primary := ⟨∅, 4, 0⟩
  secretPolicy := .sealer
  maxQueue := 8
  maxQueue_pos := by decide
  checkpoint := sampleGenesis

def storedCounters (store : MemoryTumblerStore) : Option (List Int) :=
  (store.maps.get? (JsString.lit "tsk_a")).map (fun map => map.segments.map (·.storedCounter))

def ReplicationState.observe (s : ReplicationState) :
    Option ReplicationCheckpoint × List PendingReplicaOp × Option (List Int) :=
  (s.source.promotionCheckpoint (fun _ => true), s.emitted, storedCounters s.primary)

def sampleSetOp : PendingReplicaOp :=
  sampleGenesis.link mirrorSha256 (.set (JsString.lit "tsk_a") sampleTwinMap true)

end Sample

end TskProtocol
