import TskProtocol.Lib.Machine
import TskProtocol.Client.Client

namespace TskProtocol

/-- A request the server has read the map for. -/
structure Serving where
  request : Nat
  clientId : JsString
  key : JsString
  map : TumblerMap

/-- One client, one server and the messages between them. -/
structure Exchange where
  client : TSKClient
  store : MemoryTumblerStore
  /-- The fetch in progress, with the snapshot its commit would advance. -/
  outstanding : Option (Nat × OrderedMap JsString Int)
  requests : List (Nat × TSKRequestData)
  serving : List Serving
  /-- Responses on their way, with the value of the confirmation header. -/
  responses : List (Nat × Bool)
  nextRequest : Nat
  /-- Requests the server has accepted. -/
  accepted : Nat
  /-- Confirmations the client has saved. -/
  confirmed : Nat

def Exchange.start (client : TSKClient) (store : MemoryTumblerStore) : Exchange where
  client := client
  store := store
  outstanding := none
  requests := []
  serving := []
  responses := []
  nextRequest := 0
  accepted := 0
  confirmed := 0

/-- A message that is lost is one that is never picked up. -/
inductive ExchangeLabel
  | fetch (nowMs : Int)
  /-- The fetch rejects: a network error, an abort or a timeout. -/
  | abandon
  | arrive (index : Nat) (readAt : Int)
  | resume (index : Nat) (clock : VerifyClock)
  | respond (index : Nat) (saved : Bool)

namespace Exchange

def fetch (H : HmacSha256) (s : Exchange) (nowMs : Int) : Exchange :=
  match s.client.generateHeaders H nowMs with
  | .error _ => s
  | .ok (req, snapshot) =>
    { s with
      outstanding := some (s.nextRequest, snapshot)
      requests := s.requests ++ [(s.nextRequest, req)]
      nextRequest := s.nextRequest + 1 }

def reply (s : Exchange) (request : Nat) (authenticated : Bool) : Exchange :=
  { s with responses := s.responses ++ [(request, authenticated)] }

def arrive (s : Exchange) (request : Nat) (req : TSKRequestData) (readAt : Int) : Exchange :=
  match checkHeaders req with
  | .error _ => s.reply request false
  | .ok (clientId, key) =>
    match s.store.get clientId readAt with
    | (none, store) => { s with store := store }.reply request false
    | (some map, store) =>
      { s with store := store, serving := s.serving ++ [⟨request, clientId, key, map⟩] }

def resume (H : HmacSha256) (config : TSKConfig) (s : Exchange) (e : Serving)
    (clock : VerifyClock) : Exchange :=
  match resumeVerify H config s.store e.clientId e.key e.map clock with
  | (.error _, store) => { s with store := store }.reply e.request false
  | (.ok result, store) =>
    { s with
      store := store
      accepted := if result.ok then s.accepted + 1 else s.accepted }.reply e.request result.ok

def respond (s : Exchange) (request : Nat) (authenticated saved : Bool) : Exchange :=
  match s.outstanding with
  | none => s
  | some (current, snapshot) =>
    -- a response to a fetch that was given up reaches nobody
    if request ≠ current then s
    else if authenticated = false then { s with outstanding := none }
    else match s.client.commitHOTPCounters snapshot saved with
      | none => { s with outstanding := none }
      | some client =>
        { s with outstanding := none, client := client, confirmed := s.confirmed + 1 }

def step (H : HmacSha256) (config : TSKConfig) (s : Exchange) : ExchangeLabel → Option Exchange
  | .fetch nowMs => if s.outstanding.isNone then some (s.fetch H nowMs) else none
  | .abandon => if s.outstanding.isNone then none else some { s with outstanding := none }
  | .arrive index readAt =>
    (s.requests[index]?).map (fun r =>
      { s with requests := s.requests.eraseIdx index }.arrive r.1 r.2 readAt)
  | .resume index clock =>
    (s.serving[index]?).map (fun e =>
      resume H config { s with serving := s.serving.eraseIdx index } e clock)
  | .respond index saved =>
    (s.responses[index]?).map (fun r =>
      { s with responses := s.responses.eraseIdx index }.respond r.1 r.2 saved)

end Exchange

/-- Fetches one after another over a channel that may lose and delay anything. -/
def exchangeMachine (H : HmacSha256) (config : TSKConfig) : Machine Exchange ExchangeLabel where
  step := Exchange.step H config

end TskProtocol
