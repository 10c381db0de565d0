import Mathlib.Data.Finset.Card
import TskProtocol.Core.Types
import TskProtocol.Lib.OrderedMap

namespace TskProtocol

inductive FailureKind
  | checksumInvalid | segmentValidationFailed
  deriving DecidableEq, Repr

structure SegmentFailure where
  segmentId : JsString
  type : SegmentType
  valid : Bool
  deriving DecidableEq, Repr

structure SegmentFailureEvent where
  clientId : JsString
  timestamp : Int
  segmentResults : List SegmentFailure
  failureKind : Option FailureKind
  ipAddress : Option JsString
  deriving DecidableEq, Repr

/-- An address that is empty is none. -/
def SegmentFailureEvent.ip (event : SegmentFailureEvent) : Option JsString := event.ipAddress.filter (· ≠ [])

inductive AnomalyVerdict
  | clean | suspicious | attack
  deriving DecidableEq, Repr

/-- A reason, with the numbers in its text. -/
inductive AnomalyReason
  | highRate (failures : Nat) (threshold : Int)
  | mediumRate (failures : Nat)
  | stolenKey (events : Nat)
  | possibleStolenKey
  | repeatedFailures (failures : Nat)
  | distributed (ip : JsString) (clients : Nat)
  deriving DecidableEq, Repr

structure AnomalyScore where
  score : Int
  verdict : AnomalyVerdict
  reasons : List AnomalyReason
  deriving DecidableEq, Repr

structure AnomalyEngineConfig where
  windowMs : Int := 300000
  maxEntries : Nat := 10000
  maxEventsPerClient : Nat := 1000
  highRateThreshold : Int := 10
  mediumRateThreshold : Int := 3
  highRateScore : Int := 40
  mediumRateScore : Int := 15
  stolenKeyScore : Int := 50
  stolenKeySingleScore : Int := 20
  totalFailureScore : Int := 30
  attackThreshold : Int := 70
  suspiciousThreshold : Int := 30
  deriving DecidableEq, Repr

structure MemoryAnomalyEngine where
  config : AnomalyEngineConfig
  failures : OrderedMap JsString (List SegmentFailureEvent) := ∅
  ipFailures : OrderedMap JsString (Finset JsString) := ∅
  accessOrder : List JsString := []

namespace MemoryAnomalyEngine

/-- The loop that removes a client from the sets of all addresses, and the sets that are then empty. -/
def forgetIn (clientId : JsString) (ipFailures : OrderedMap JsString (Finset JsString)) :
    OrderedMap JsString (Finset JsString) :=
  (ipFailures.mapValues (fun clients => clients.erase clientId)).filter (fun _ clients => clients.card ≠ 0)

/-- The eviction of the least recently used client. -/
def evict (engine : MemoryAnomalyEngine) : MemoryAnomalyEngine :=
  match engine.accessOrder with
  | [] => engine
  | lruKey :: rest =>
    if lruKey = [] then { engine with accessOrder := rest }
    else { engine with
      failures := engine.failures.erase lruKey
      ipFailures := forgetIn lruKey engine.ipFailures
      accessOrder := rest }

def eventsOf (engine : MemoryAnomalyEngine) (clientId : JsString) : List SegmentFailureEvent :=
  (engine.failures.get? clientId).getD []

def clientsOf (engine : MemoryAnomalyEngine) (ip : JsString) : Finset JsString :=
  (engine.ipFailures.get? ip).getD ∅

/-- Trimming to the window, and to the number of events per client. -/
def trim (config : AnomalyEngineConfig) (now : Int) (events : List SegmentFailureEvent) : List SegmentFailureEvent :=
  let kept := events.filter (fun e => now - config.windowMs < e.timestamp)
  if config.maxEventsPerClient < kept.length then kept.drop (kept.length - config.maxEventsPerClient) else kept

/-- The index by address, with the client of the event. -/
def recordIp (engine : MemoryAnomalyEngine) (event : SegmentFailureEvent) : OrderedMap JsString (Finset JsString) :=
  match event.ip with
  | none => engine.ipFailures
  | some ip => engine.ipFailures.set ip (insert event.clientId (engine.clientsOf ip))

/-- At capacity, a client that is new takes the place of another. -/
def makeRoom (engine : MemoryAnomalyEngine) (clientId : JsString) : MemoryAnomalyEngine :=
  if engine.failures.has clientId = false ∧ engine.config.maxEntries ≤ engine.failures.size then engine.evict
  else engine

def record (engine : MemoryAnomalyEngine) (event : SegmentFailureEvent) (now : Int) : MemoryAnomalyEngine :=
  let engine := engine.makeRoom event.clientId
  { engine with
    accessOrder := engine.accessOrder.erase event.clientId ++ [event.clientId]
    failures := engine.failures.set event.clientId
      (trim engine.config now (engine.eventsOf event.clientId ++ [event]))
    ipFailures := engine.recordIp event }

def reset (engine : MemoryAnomalyEngine) (clientId : JsString) : MemoryAnomalyEngine :=
  { engine with
    failures := engine.failures.erase clientId
    accessOrder := engine.accessOrder.erase clientId
    ipFailures := forgetIn clientId engine.ipFailures }

end MemoryAnomalyEngine

def SegmentFailureEvent.stolenKey (e : SegmentFailureEvent) : Bool :=
  e.segmentResults.any (fun sr => sr.type = .static && sr.valid) &&
    e.segmentResults.any (fun sr => (sr.type = .totp || sr.type = .hotp) && !sr.valid)

def SegmentFailureEvent.totalFailure (e : SegmentFailureEvent) : Bool :=
  e.failureKind = some .checksumInvalid || (e.segmentResults ≠ [] && e.segmentResults.all (!·.valid))

namespace AnomalyEngineConfig

variable (config : AnomalyEngineConfig) (events : List SegmentFailureEvent)

def rateScore : Int × List AnomalyReason :=
  if config.highRateThreshold ≤ events.length then
    (config.highRateScore, [.highRate events.length config.highRateThreshold])
  else if config.mediumRateThreshold ≤ events.length then (config.mediumRateScore, [.mediumRate events.length])
  else (0, [])

def stolenScore : Int × List AnomalyReason :=
  let stolenKeyEvents := events.filter (·.stolenKey)
  if 2 ≤ stolenKeyEvents.length then (config.stolenKeyScore, [.stolenKey stolenKeyEvents.length])
  else if stolenKeyEvents.length = 1 then (config.stolenKeySingleScore, [.possibleStolenKey])
  else (0, [])

def totalScore : Int × List AnomalyReason :=
  let totalFailures := events.filter (·.totalFailure)
  if 3 ≤ totalFailures.length then (config.totalFailureScore, [.repeatedFailures totalFailures.length])
  else (0, [])

def verdict (score : Int) : AnomalyVerdict :=
  if config.attackThreshold ≤ score then .attack
  else if config.suspiciousThreshold ≤ score then .suspicious
  else .clean

end AnomalyEngineConfig

/-- The first of the addresses that has failures across five clients. -/
def distributedIp (clientsOf : JsString → Finset JsString) (events : List SegmentFailureEvent) :
    Option (JsString × Nat) :=
  (((events.filterMap (·.ip)).find? fun ip => 5 ≤ (clientsOf ip).card)).map fun ip => (ip, (clientsOf ip).card)

def distributedScore : Option (JsString × Nat) → Int × List AnomalyReason
  | some (ip, clients) => (25, [.distributed ip clients])
  | none => (0, [])

/-- The score of the events inside the window, with an address that is attacking many clients. -/
def scoreEvents (config : AnomalyEngineConfig) (events : List SegmentFailureEvent)
    (shared : Option (JsString × Nat)) : AnomalyScore :=
  if events = [] then ⟨0, .clean, []⟩
  else
    let rate := config.rateScore events
    let stolen := config.stolenScore events
    let total := config.totalScore events
    let distributed := distributedScore shared
    let score := rate.1 + stolen.1 + total.1 + distributed.1
    ⟨min score 100, config.verdict score, rate.2 ++ stolen.2 ++ total.2 ++ distributed.2⟩

def MemoryAnomalyEngine.score (engine : MemoryAnomalyEngine) (clientId : JsString) (now : Int) : AnomalyScore :=
  let events := (engine.eventsOf clientId).filter (fun e => now - engine.config.windowMs < e.timestamp)
  scoreEvents engine.config events (distributedIp engine.clientsOf events)

end TskProtocol
