import TskProtocol.Lib.Machine
import TskProtocol.Server.Middleware
import TskProtocol.Server.Provisioner

namespace TskProtocol

/-- A call that has read its map and not yet gone on. -/
inductive PendingCall
  | verify (clientId key : JsString) (map : TumblerMap)
  | update (clientId : JsString) (existing : TumblerMap) (updates : KeyUpdates)
  | replace (oldClientId : JsString) (old : TumblerMap) (lifecycle : ReplacementLifecycle)
  | revoke (clientId : JsString)
  deriving DecidableEq, Repr

/-- A request that was accepted, with the counters its key was matched at. -/
structure Acceptance where
  clientId : JsString
  key : JsString
  counterMatches : List (JsString × Int)
  deriving DecidableEq, Repr

structure ServerState where
  store : MemoryTumblerStore
  pending : List PendingCall
  /-- Every acceptance so far, oldest first. -/
  accepted : List Acceptance
  /-- Every client id the store has held or a generator has drawn. -/
  issued : List JsString

def ServerState.start (store : MemoryTumblerStore) : ServerState where
  store := store
  pending := []
  accepted := []
  issued := store.maps.keys

/-- Each label is one uninterrupted stretch of a call, with at most one store operation. -/
inductive ServerLabel
  | verify (req : TSKRequestData) (readAt : Int)
  | update (call : LifecycleCall) (clientId : JsString) (updates : KeyUpdates) (readAt : Int)
  | replace (call : LifecycleCall) (oldClientId : JsString) (lifecycle : ReplacementLifecycle)
      (readAt : Int)
  | revoke (call : LifecycleCall) (clientId : JsString) (readAt : Int)
  /-- Continue the pending call at an index.  The clock is read by a verification; a
  replacement draws its map. -/
  | resume (index : Nat) (clock : VerifyClock) (generated : Option TumblerMap)

def ServerState.read (s : ServerState) (clientId : JsString) (readAt : Int)
    (call : TumblerMap → PendingCall) : ServerState :=
  match s.store.get clientId readAt with
  | (none, store) => { s with store := store }
  | (some map, store) => { s with store := store, pending := s.pending ++ [call map] }

/-- The counters a verification hands to the store. -/
def VerifyAction.counterMatches : VerifyAction → List (JsString × Int)
  | .commit input _ => input.counterMatches
  | _ => []

def ServerState.resumeVerify (H : HmacSha256) (config : TSKConfig) (s : ServerState)
    (clientId key : JsString) (map : TumblerMap) (clock : VerifyClock) : ServerState :=
  match decideVerify H config clientId key map clock with
  | .error _ => s
  | .ok action =>
    match action.perform s.store clientId with
    | (.ok result, store) =>
      { s with
        store := store
        accepted := if result.ok then
          s.accepted ++ [⟨clientId, key, action.counterMatches⟩] else s.accepted }
    | (.error _, store) => { s with store := store }

def ServerState.resumeUpdate (s : ServerState) (clientId : JsString) (existing : TumblerMap)
    (updates : KeyUpdates) : ServerState :=
  match updates.apply existing with
  | none => s
  | some updated => { s with store := (s.store.set clientId updated).2 }

def ServerState.resumeReplace (s : ServerState) (oldClientId : JsString) (old : TumblerMap)
    (lifecycle : ReplacementLifecycle) (generated : Option TumblerMap) : ServerState :=
  if replaceable old = false then s
  else match generated with
    | none => s
    | some generated =>
      let s := { s with issued := generated.clientId :: s.issued }
      match lifecycle.apply generated with
      | none => s
      | some replacement =>
        { s with store := (s.store.replaceCredential oldClientId replacement).2 }

def ServerState.resume (H : HmacSha256) (config : TSKConfig) (s : ServerState) (clock : VerifyClock)
    (generated : Option TumblerMap) : PendingCall → ServerState
  | .verify clientId key map => s.resumeVerify H config clientId key map clock
  | .update clientId existing updates => s.resumeUpdate clientId existing updates
  | .replace oldClientId old lifecycle => s.resumeReplace oldClientId old lifecycle generated
  | .revoke clientId => { s with store := s.store.delete clientId }

def ServerState.step (H : HmacSha256) (config : TSKConfig) (s : ServerState) :
    ServerLabel → Option ServerState
  | .verify req readAt =>
    match checkHeaders req with
    | .error _ => some s
    | .ok (clientId, key) => some (s.read clientId readAt (.verify clientId key))
  | .update call clientId updates readAt =>
    if call.admitted then some (s.read clientId readAt (fun map => .update clientId map updates))
    else some s
  | .replace call oldClientId lifecycle readAt =>
    if call.admitted then
      some (s.read oldClientId readAt (fun map => .replace oldClientId map lifecycle))
    else some s
  | .revoke call clientId readAt =>
    if call.admitted then some (s.read clientId readAt (fun _ => .revoke clientId))
    else some s
  | .resume index clock generated =>
    match s.pending[index]? with
    | none => none
    | some call =>
      some (ServerState.resume H config { s with pending := s.pending.eraseIdx index }
        clock generated call)

/-- One server process: any number of calls over one store, interleaved at will. -/
def serverMachine (H : HmacSha256) (config : TSKConfig) : Machine ServerState ServerLabel where
  step := ServerState.step H config

end TskProtocol
