import TskProtocol.Server.Promotion

namespace TskProtocol

/-- A guard command between two stretches of `handlePromotionCommand`. -/
inductive PendingCommand
  | activating (command : GuardCommand) (claimed : Bool)
  | demoting (released : Bool)
  | succeeded
  | reporting (check : WriteCheck)

inductive PromotionResponse
  | refused (status : Nat) (error : PromotionError)
  | done (snapshot : PromotionSnapshot)

/-- `handlePromotionCommand` up to the call of the fence. -/
def handlePromotionCommand (H : HmacSha256) (guardSecret : JsString)
    (controller : PromotionController) (replicaCheckpoint : Option ReplicationCheckpoint)
    (fence : MemoryFencingStore) (now : Int) (body : Json) :
    Except PromotionResponse PendingCommand × MemoryFencingStore :=
  match isGuardCommand body with
  | none => (.error (.refused 400 .invalidBody), fence)
  | some command =>
    if verifyGuardCommandSignature H body command.signature guardSecret = false then
      (.error (.refused 401 .signatureInvalid), fence)
    else match controller.validateFreshness now command with
      | some e => (.error (.refused 401 e), fence)
      | none =>
        if command.command = .demote then
          match controller.demote fence command with
          | (.error e, fence) => (.error (.refused 409 e), fence)
          | (.ok released, fence) => (.ok (.demoting released), fence)
        else
          match controller.activate replicaCheckpoint fence command with
          | (.error e, fence) => (.error (.refused 409 e), fence)
          | (.ok claimed, fence) => (.ok (.activating command claimed), fence)

structure PromotionState where
  /-- Every controller constructed so far, each with its own cached lease. -/
  controllers : List PromotionController
  fence : MemoryFencingStore
  /-- Commands in flight, with the controller they were delivered to. -/
  pending : List (Nat × PendingCommand)
  responses : List (Nat × PromotionResponse)
  /-- The epochs claimed so far with the controller that claimed each, oldest first. -/
  claims : List (Nat × Int)

/-- Each label is one uninterrupted stretch of code; the network decides which command is
delivered where and how often. -/
inductive PromotionLabel
  | construct (node : PromotionNode)
  | deliver (controller : Nat) (body : Json) (replicaCheckpoint : Option ReplicationCheckpoint)
      (now : Int)
  | resume (index : Nat) (now : Int)

namespace PromotionState

def start : PromotionState where
  controllers := []
  fence := { record := none }
  pending := []
  responses := []
  claims := []

def setLease (s : PromotionState) (i : Nat) (lease : Option GuardCommand) : PromotionState :=
  { s with controllers := s.controllers.modify i (fun c => { c with lease := lease }) }

def suspend (s : PromotionState) (i : Nat) (call : PendingCommand) : PromotionState :=
  { s with pending := s.pending ++ [(i, call)] }

def respond (s : PromotionState) (i : Nat) (response : PromotionResponse) : PromotionState :=
  { s with responses := s.responses ++ [(i, response)] }

/-- The history gains a claim exactly when the fence accepted one. -/
def record (s : PromotionState) (i : Nat) : PendingCommand → PromotionState
  | .activating command true => { s with claims := s.claims ++ [(i, command.fenceEpoch)] }
  | _ => s

def deliver (H : HmacSha256) (guardSecret : JsString) (s : PromotionState) (i : Nat)
    (controller : PromotionController) (body : Json)
    (replicaCheckpoint : Option ReplicationCheckpoint) (now : Int) : PromotionState :=
  match handlePromotionCommand H guardSecret controller replicaCheckpoint s.fence now body with
  | (.error response, fence) => { s with fence := fence }.respond i response
  | (.ok call, fence) => ({ s with fence := fence }.record i call).suspend i call

def resume (s : PromotionState) (i : Nat) (controller : PromotionController) (now : Int) :
    PendingCommand → PromotionState
  | .activating command true => (s.setLease i (some command)).suspend i .succeeded
  | .activating _ false => s.respond i (.refused 409 .fenceEpochNotMonotonic)
  | .demoting true => (s.setLease i none).suspend i .succeeded
  | .demoting false => s.respond i (.refused 409 .fenceReleaseFailed)
  | .succeeded => s.suspend i (.reporting (.begin controller s.fence now))
  | .reporting (.settled writable) => s.respond i (.done (controller.snapshot writable))
  | .reporting check => s.suspend i (.reporting (check.settle controller now))

def step (H : HmacSha256) (guardSecret : JsString) (s : PromotionState) :
    PromotionLabel → Option PromotionState
  | .construct node => some { s with controllers := s.controllers ++ [{ node with }] }
  | .deliver i body replicaCheckpoint now =>
    match s.controllers[i]? with
    | none => none
    | some controller => some (s.deliver H guardSecret i controller body replicaCheckpoint now)
  | .resume index now =>
    match s.pending[index]? with
    | none => none
    | some (i, call) =>
      match s.controllers[i]? with
      | none => none
      | some controller =>
        some (resume { s with pending := s.pending.eraseIdx index } i controller now call)

end PromotionState

/-- Any number of controllers over one fence. -/
def promotionMachine (H : HmacSha256) (guardSecret : JsString) :
    Machine PromotionState PromotionLabel where
  step := PromotionState.step H guardSecret

end TskProtocol
