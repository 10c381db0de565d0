import TskProtocol.Lib.Machine
import TskProtocol.Replication.Envelope
import TskProtocol.Server.Mutation

namespace TskProtocol

/-- The answers of a sealer are drawn when they arrive. -/
inductive SecretPolicy
  | strip | sealer
  deriving DecidableEq, Repr

structure ReplicatingTumblerStore where
  primary : MemoryTumblerStore
  secretPolicy : SecretPolicy
  maxQueue : Nat
  maxQueue_pos : 0 < maxQueue
  checkpoint : ReplicationCheckpoint
  queue : List PendingReplicaOp := []
  draining : Bool := false
  integrityLost : Bool := false

/-- A mutation that has changed the primary and is not fully queued: its wire form is at hand,
clients are still to be read again, or a map is with the sealer. -/
inductive PendingMutation
  | enqueue (mutation : TumblerReplicaMutation)
  | reread (clientIds : List JsString)
  | sealing (clientId : JsString) (map : TumblerMap) (rest : List JsString)
  deriving DecidableEq, Repr

/-- What is left to do once the primary has answered. -/
def StoreMutation.mirror (result : Except StoreError MutationResult) :
    StoreMutation → Option PendingMutation
  | .set clientId map =>
    match result with
    | .ok _ => some (.sealing clientId map [])
    | .error _ => none
  | .delete clientId => some (.enqueue (.delete clientId))
  | .updateCounters clientId updates =>
    match result with
    | .ok _ => some (.enqueue (.updateCounters clientId updates.entries))
    | .error _ => none
  | .consumeCounter clientId segmentId matchedCounter =>
    match result with
    | .ok (.answer true) => some (.enqueue (.consumeCounter clientId segmentId matchedCounter))
    | _ => none
  | .commitValidation clientId _ =>
    match result with
    | .ok _ => some (.reread [clientId])
    | .error _ => none
  | .replaceCredential oldClientId replacement =>
    match result with
    | .ok (.answer true) => some (.reread [oldClientId, replacement.clientId])
    | _ => none

def StoreMutation.isReplacement : StoreMutation → Bool
  | .replaceCredential _ _ => true
  | _ => false

namespace ReplicatingTumblerStore

/-- `answer` is what the sealer returned; `none` when it threw. -/
def sealMap (policy : SecretPolicy) (map : TumblerMap) (answer : Option JsString) :
    Option (TumblerMap × Bool) :=
  match policy with
  | .strip => some ({ map with sharedSecret := [] }, false)
  | .sealer => answer.map (fun sealed => ({ map with sharedSecret := sealed }, true))

/-- A queue at its limit drops the new operation and keeps its hash in the chain. -/
def enqueueMutation (D : Sha256) (store : ReplicatingTumblerStore)
    (mutation : TumblerReplicaMutation) : ReplicatingTumblerStore :=
  let pending := store.checkpoint.link D mutation
  if store.maxQueue ≤ store.queue.length then
    { store with checkpoint := pending.checkpoint, integrityLost := true }
  else
    { store with
      checkpoint := pending.checkpoint
      queue := store.queue ++ [pending]
      draining := true }

/-- The drain loop after a push of the head.  Only the loop takes from the queue, so the head is
still the operation that was pushed. -/
def pushed (store : ReplicatingTumblerStore) (ok : Bool) : ReplicatingTumblerStore :=
  match store.queue with
  | [] => store
  | _ :: rest => if ok then { store with queue := rest, draining := rest ≠ [] } else store

/-- `promotionDurability` answers `false` when it is missing or throws. -/
def promotionCheckpoint (store : ReplicatingTumblerStore)
    (promotionDurability : ReplicationCheckpoint → Bool) : Option ReplicationCheckpoint :=
  if store.integrityLost || store.draining || store.queue ≠ [] then none
  else if promotionDurability store.checkpoint then some store.checkpoint
  else none

end ReplicatingTumblerStore

structure ReplicationState where
  source : ReplicatingTumblerStore
  pending : List PendingMutation
  /-- Every operation linked into the stream so far, oldest first. -/
  emitted : List PendingReplicaOp

inductive ReplicationLabel
  | call (mutation : StoreMutation)
  /-- Continue a call; the clock is read by the primary, and the sealer's answer arrives. -/
  | resume (index : Nat) (now : Int) (answer : Option JsString)
  | pushed (ok : Bool)

namespace ReplicationState

def start (source : ReplicatingTumblerStore) : ReplicationState where
  source := source
  pending := []
  emitted := []

def primary (s : ReplicationState) : MemoryTumblerStore := s.source.primary

def setPrimary (s : ReplicationState) (primary : MemoryTumblerStore) : ReplicationState :=
  { s with source := { s.source with primary := primary } }

def suspend (s : ReplicationState) (call : Option PendingMutation) : ReplicationState :=
  { s with pending := s.pending ++ call.toList }

def emit (D : Sha256) (s : ReplicationState) (mutation : TumblerReplicaMutation) :
    ReplicationState :=
  { s with
    source := s.source.enqueueMutation D mutation
    emitted := s.emitted ++ [s.source.checkpoint.link D mutation] }

def rereads : List JsString → Option PendingMutation
  | [] => none
  | clientIds => some (.reread clientIds)

def call (s : ReplicationState) (mutation : StoreMutation) : ReplicationState :=
  let (result, primary) := mutation.perform s.primary
  (s.setPrimary primary).suspend (mutation.mirror result)

def resume (D : Sha256) (s : ReplicationState) (now : Int) (answer : Option JsString) :
    PendingMutation → ReplicationState
  | .enqueue mutation => s.emit D mutation
  | .reread [] => s
  | .reread (clientId :: rest) =>
    match s.primary.get clientId now with
    | (some current, primary) => (s.setPrimary primary).suspend (some (.sealing clientId current rest))
    | (none, primary) => (s.setPrimary primary).suspend (rereads rest)
  | .sealing clientId map rest =>
    match ReplicatingTumblerStore.sealMap s.source.secretPolicy map answer with
    | none => s
    | some (wire, secretSealed) =>
      (s.emit D (.set clientId wire secretSealed)).suspend (rereads rest)

def step (D : Sha256) (s : ReplicationState) : ReplicationLabel → Option ReplicationState
  | .call mutation => some (s.call mutation)
  | .resume index now answer =>
    (s.pending[index]?).map
      (fun call => resume D { s with pending := s.pending.eraseIdx index } now answer call)
  | .pushed ok => some { s with source := s.source.pushed ok }

end ReplicationState

/-- One source store with any number of mutation calls at once. -/
def replicationMachine (D : Sha256) : Machine ReplicationState ReplicationLabel where
  step := ReplicationState.step D

end TskProtocol
