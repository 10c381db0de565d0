import TskProtocol.Lib.Machine
import TskProtocol.Replication.Envelope

namespace TskProtocol

inductive NodeRole
  | primary | replica
  deriving DecidableEq, Repr

inductive GuardCommandType
  | activate | promote | demote
  deriving DecidableEq, Repr

structure GuardCommand where
  command : GuardCommandType
  commandId : JsString
  nodeId : JsString
  fenceEpoch : Int
  issuedAt : Int
  expiresAt : Int
  «by» : JsString
  /-- Neither optional member is checked before the signature. -/
  reason : Option Json
  requiredCheckpoint : Option Json
  signature : JsString

structure FenceRecord where
  nodeId : JsString
  fenceEpoch : Int
  expiresAt : Int
  commandId : JsString
  active : Bool
  deriving DecidableEq, Repr

structure MemoryFencingStore where
  record : Option FenceRecord
  deriving DecidableEq, Repr

namespace MemoryFencingStore

def current (store : MemoryFencingStore) : Option FenceRecord := store.record

/-- `next` without its `active` member; a claim sets that itself. -/
def claim (store : MemoryFencingStore) (nodeId : JsString) (fenceEpoch expiresAt : Int)
    (commandId : JsString) : Bool × MemoryFencingStore :=
  if store.record.any (fun r => fenceEpoch ≤ r.fenceEpoch) then (false, store)
  else (true, { record := some ⟨nodeId, fenceEpoch, expiresAt, commandId, true⟩ })

def release (store : MemoryFencingStore) (nodeId : JsString) (fenceEpoch : Int)
    (commandId : JsString) : Bool × MemoryFencingStore :=
  match store.record with
  | none => (false, store)
  | some r =>
    if r.active = false ∨ r.nodeId ≠ nodeId ∨ r.fenceEpoch ≠ fenceEpoch ∨ r.commandId ≠ commandId then
      (false, store)
    else (true, { record := some { r with active := false } })

end MemoryFencingStore

/-- What a controller is constructed with. -/
structure PromotionNode where
  role : NodeRole
  nodeId : JsString
  maxCommandAgeMs : Int := 60000
  maxLeaseMs : Int := 5 * 60000
  nodeId_ne : nodeId ≠ []

structure PromotionController extends PromotionNode where
  lease : Option GuardCommand := none

structure PromotionSnapshot where
  role : NodeRole
  nodeId : JsString
  writable : Bool
  fenceEpoch : Option Int
  leaseExpiresAt : Option Int
  activatedBy : Option JsString
  reason : Option Json

inductive PromotionError
  | invalidBody | signatureInvalid
  | invalidFenceEpoch | invalidTime | commandStale | invalidLeaseWindow | invalidIdentity
  | wrongNode | wrongCommandForPrimary | wrongCommandForReplica | replicaNotConverged
  | fenceEpochNotMonotonic | invalidDemotion | leaseMismatch | fenceReleaseFailed
  deriving DecidableEq, Repr

def MIN_GUARD_SECRET_BYTES : Nat := 32

def validSecret (secret : JsString) : Bool := MIN_GUARD_SECRET_BYTES ≤ secret.utf8.length

/-- The members of a command that already has its `commandId`. -/
def signGuardCommand (H : HmacSha256) (command : List (JsString × Json)) (guardSecret : JsString) :
    Option Json :=
  if validSecret guardSecret = false then none
  else some (.obj (command ++ [(JsString.lit "signature",
    .str (H.digest guardSecret.utf8 (Json.obj command).canonical))]))

/-- `/^[A-Za-z0-9_-]{43}$/`. -/
def matchesSignaturePattern (signature : JsString) : Bool :=
  signature.length = 43 && signature.all isBase64Url

/-- The signature covers every member of the body, the unread ones included.  Decoding and
encoding again lets only canonical base64url through, so the bytes agree exactly when the
texts do. -/
def verifyGuardCommandSignature (H : HmacSha256) (body : Json) (signature guardSecret : JsString) :
    Bool :=
  validSecret guardSecret && matchesSignaturePattern signature &&
    signature = H.digest guardSecret.utf8 (body.without "signature").canonical

def guardCommandType (s : JsString) : Option GuardCommandType :=
  if s = JsString.lit "activate" then some .activate
  else if s = JsString.lit "promote" then some .promote
  else if s = JsString.lit "demote" then some .demote
  else none

/-- The type guard, which reads the command out of the body. -/
def isGuardCommand (body : Json) : Option GuardCommand := do
  let command ← (body.strField "command").bind guardCommandType
  let commandId ← body.strField "commandId"
  let nodeId ← body.strField "nodeId"
  let «by» ← body.strField "by"
  let signature ← body.strField "signature"
  let fenceEpoch ← body.numField "fenceEpoch"
  let issuedAt ← body.numField "issuedAt"
  let expiresAt ← body.numField "expiresAt"
  return {
    command := command, commandId := commandId, nodeId := nodeId, fenceEpoch := fenceEpoch
    issuedAt := issuedAt, expiresAt := expiresAt, «by» := «by», signature := signature
    reason := body.field "reason", requiredCheckpoint := body.field "requiredCheckpoint" }

/-- Strict equality with members that were never checked for their type. -/
def sameCheckpoint (left : ReplicationCheckpoint) (right : Json) : Bool :=
  right.strField "streamId" = some left.streamId && right.numField "epoch" = some left.epoch &&
    right.numField "sequence" = some left.sequence && right.strField "headHash" = some left.headHash

namespace PromotionController

def validateFreshness (controller : PromotionController) (now : Int) (command : GuardCommand) :
    Option PromotionError :=
  if isSafeInteger command.fenceEpoch = false ∨ command.fenceEpoch < 1 then some .invalidFenceEpoch
  else if isSafeInteger command.issuedAt = false ∨ isSafeInteger command.expiresAt = false then
    some .invalidTime
  else if command.issuedAt > now ∨ now - command.issuedAt > controller.maxCommandAgeMs then
    some .commandStale
  else if command.expiresAt ≤ now ∨ command.expiresAt - command.issuedAt > controller.maxLeaseMs then
    some .invalidLeaseWindow
  else if command.commandId = [] ∨ command.by = [] ∨ command.nodeId = [] then some .invalidIdentity
  else none

def converged (replicaCheckpoint : Option ReplicationCheckpoint) (required : Option Json) : Bool :=
  match replicaCheckpoint, required with
  | some checkpoint, some required =>
    required.truthy && 1 ≤ checkpoint.sequence && sameCheckpoint checkpoint required
  | _, _ => false

/-- `activate` up to its only await: the checks and the claim. -/
def activate (controller : PromotionController) (replicaCheckpoint : Option ReplicationCheckpoint)
    (fence : MemoryFencingStore) (command : GuardCommand) :
    Except PromotionError Bool × MemoryFencingStore :=
  if command.nodeId ≠ controller.nodeId then (.error .wrongNode, fence)
  else if controller.role = .primary ∧ command.command ≠ .activate then
    (.error .wrongCommandForPrimary, fence)
  else if controller.role = .replica ∧ command.command ≠ .promote then
    (.error .wrongCommandForReplica, fence)
  else if controller.role = .replica ∧
      converged replicaCheckpoint command.requiredCheckpoint = false then
    (.error .replicaNotConverged, fence)
  else
    let (claimed, fence) :=
      fence.claim controller.nodeId command.fenceEpoch command.expiresAt command.commandId
    (.ok claimed, fence)

/-- `demote` up to its only await: the checks and the release. -/
def demote (controller : PromotionController) (fence : MemoryFencingStore) (command : GuardCommand) :
    Except PromotionError Bool × MemoryFencingStore :=
  if command.command ≠ .demote ∨ command.nodeId ≠ controller.nodeId then
    (.error .invalidDemotion, fence)
  else match controller.lease with
    | none => (.error .leaseMismatch, fence)
    | some currentLease =>
      if currentLease.fenceEpoch ≠ command.fenceEpoch then (.error .leaseMismatch, fence)
      else
        let (released, fence) :=
          fence.release controller.nodeId currentLease.fenceEpoch currentLease.commandId
        (.ok released, fence)

/-- The test `isWritable` makes before it asks the fence. -/
def leaseLive (controller : PromotionController) (now : Int) : Bool :=
  controller.lease.any (fun lease => now < lease.expiresAt)

/-- The rest of `isWritable`, on the record the fence returned.  A lease that is gone by now
makes the source throw and answer `false`. -/
def admits (controller : PromotionController) (current : Option FenceRecord) (now : Int) : Bool :=
  match current, controller.lease with
  | some r, some lease =>
    r.active && r.nodeId = controller.nodeId && r.fenceEpoch = lease.fenceEpoch &&
      r.commandId = lease.commandId && r.expiresAt = lease.expiresAt && now < r.expiresAt
  | _, _ => false

/-- `isWritable` when nothing comes in between. -/
def isWritable (controller : PromotionController) (fence : MemoryFencingStore)
    (now later : Int) : Bool :=
  controller.leaseLive now && controller.admits fence.current later

def snapshot (controller : PromotionController) (writable : Bool) : PromotionSnapshot where
  role := controller.role
  nodeId := controller.nodeId
  writable := writable
  fenceEpoch := controller.lease.map (·.fenceEpoch)
  leaseExpiresAt := controller.lease.map (·.expiresAt)
  activatedBy := controller.lease.map (·.by)
  reason := controller.lease.bind (·.reason)

end PromotionController

/-- `snapshot().writable` on its way: the fence's answer, then the verdict. -/
inductive WriteCheck
  | asked (current : Option FenceRecord)
  | settled (writable : Bool)

/-- One stretch of a check.  A settled check is left to its caller, which takes the snapshot. -/
def WriteCheck.begin (controller : PromotionController) (fence : MemoryFencingStore) (now : Int) :
    WriteCheck :=
  if controller.leaseLive now then .asked fence.current else .settled false

def WriteCheck.settle (controller : PromotionController) (now : Int) : WriteCheck → WriteCheck
  | .asked current => .settled (controller.admits current now)
  | .settled writable => .settled writable

end TskProtocol
