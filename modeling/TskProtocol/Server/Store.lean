import TskProtocol.Lib.OrderedMap
import TskProtocol.Core.HotpCounter

namespace TskProtocol

inductive StoreError
  | capacityReached | mapInvalidNoHotp | hotpRotationWarningInvalid | hotpCounterStatusInvalid
  | hotpCounterInvalid | hotpCounterRollback
  | core (e : CoreError)
  deriving DecidableEq, Repr

inductive CommitError
  | keyRevoked | keyExpired | keyUsageCapExceeded | hotpReplayDetected
  | hotpCounterInvalid | hotpCounterExhausted
  deriving DecidableEq, Repr

structure ValidationCommitInput where
  /-- `segmentId` with `matchedCounter`. -/
  counterMatches : List (JsString × Int)
  usedAt : Int
  deriving DecidableEq, Repr

structure ValidationCommitResult where
  ok : Bool
  error : Option CommitError := none
  requestCount : Option Nat := none
  requestsRemaining : Option Int := none
  hotpCountersRemaining : Option Int := none
  rotationRequired : Option Bool := none
  deriving DecidableEq, Repr

def ValidationCommitResult.fail (e : CommitError) : ValidationCommitResult where
  ok := false
  error := some e

def assertCounters : List SegmentConfig → Except CoreError Unit
  | [] => pure ()
  | seg :: rest => do
    if seg.type = .hotp then
      assertValidHOTPStoredCounter seg.storedCounter (counterLabel seg.segmentId)
    assertCounters rest

def validWarning (warning : Int) : Bool := 1 ≤ warning && warning ≤ TSK_MAX_HOTP_COUNTER

def assertTumblerMapCounterState (map : TumblerMap) : Except StoreError Unit := do
  (assertCounters map.segments).mapError .core
  if map.segments.all (·.type ≠ .hotp) then throw .mapInvalidNoHotp
  if map.hotpRotationWarningCounters.any (!validWarning ·) then throw .hotpRotationWarningInvalid
  let remaining ← (minimumHOTPUsesRemaining map.segments).mapError .core
  if remaining = some 0 ∧ isTerminal map.status = false then throw .hotpCounterStatusInvalid

def hotpWarningWindow (map : TumblerMap) : Int :=
  map.hotpRotationWarningCounters.getD DEFAULT_HOTP_ROTATION_WARNING_COUNTERS

def reconcileTumblerMapCounterStatus (map : TumblerMap) (hotpCountersRemaining : Int) :
    Bool × TumblerMap :=
  let rotationRequired := decide (hotpCountersRemaining ≤ hotpWarningWindow map)
  if isTerminal map.status then (rotationRequired, map)
  else if hotpCountersRemaining = 0 then (rotationRequired, { map with status := some .expired })
  else if rotationRequired then (rotationRequired, { map with status := some .expiring })
  else (rotationRequired, map)

/-- `new Map(segments.map(s => [s.segmentId, s])).get(id)`: the last entry wins. -/
def lastSegment (segments : List SegmentConfig) (id : JsString) : Option SegmentConfig :=
  segments.reverse.find? (fun seg => seg.segmentId = id)

/-- Writes the counter of the segment that `lastSegment` finds. -/
def setLastCounter (id : JsString) (c : Int) : List SegmentConfig → List SegmentConfig
  | [] => []
  | seg :: rest =>
    if rest.any (fun s => s.segmentId = id) then seg :: setLastCounter id c rest
    else if seg.segmentId = id then { seg with counter := some c } :: rest
    else seg :: rest

def advanceCounters (segments : List SegmentConfig) :
    List (JsString × Int) → List SegmentConfig
  | [] => segments
  | (id, matched) :: rest => advanceCounters (setLastCounter id (matched + 1) segments) rest

/-- The checking loop of a commit; `seen` holds the ids of the earlier rounds. -/
def checkMatches (segments : List SegmentConfig) :
    List JsString → List (JsString × Int) → Option CommitError
  | _, [] => none
  | seen, (id, matched) :: rest =>
    match lastSegment segments id with
    | none => some .hotpReplayDetected
    | some seg =>
      if seg.type ≠ .hotp ∨ id ∈ seen then some .hotpReplayDetected
      else if TSK_MAX_HOTP_COUNTER ≤ seg.storedCounter then some .hotpCounterExhausted
      else if isUsableHOTPDerivationCounter matched = false then some .hotpCounterInvalid
      else if seg.storedCounter > matched then some .hotpReplayDetected
      else checkMatches segments (id :: seen) rest

def TumblerMap.currentCount (map : TumblerMap) : Nat := map.requestCount.getD 0

/-- The usage cap, when one is set. -/
def TumblerMap.usageCap (map : TumblerMap) : Option Int := map.maxRequests.filter (0 < ·)

def TumblerMap.expire (map : TumblerMap) : TumblerMap := { map with status := some .expired }

def hotpSegments (segments : List SegmentConfig) : List SegmentConfig :=
  segments.filter (·.type = .hotp)

/-- `Math.ceil(maxRequests * 0.1)` of a positive cap. -/
def tenthOf (maxRequests : Int) : Int := (maxRequests + 9) / 10

def usageWarningWindow (map : TumblerMap) (maxRequests : Int) : Int :=
  min maxRequests (max 1 (map.rotationWarningRequests.getD (max 1 (tenthOf maxRequests))))

/-- The part of a commit after every check has passed. -/
def applyCommit (map : TumblerMap) (input : ValidationCommitInput) :
    Except CoreError ValidationCommitResult × TumblerMap :=
  let requestCount := map.currentCount + 1
  let advanced := { map with
    segments := advanceCounters map.segments input.counterMatches
    requestCount := some requestCount
    lastUsedAt := some (some input.usedAt) }
  match minimumHOTPUsesRemaining advanced.segments with
  | .error e => (.error e, advanced)
  | .ok none => (.ok (.fail .hotpCounterInvalid), advanced)
  | .ok (some remaining) =>
    let (hotpRotationRequired, reconciled) := reconcileTumblerMapCounterStatus advanced remaining
    match map.usageCap with
    | none =>
      (.ok { ok := true, requestCount := some requestCount,
             hotpCountersRemaining := some remaining,
             rotationRequired := some hotpRotationRequired }, reconciled)
    | some maxRequests =>
      let requestsRemaining := max 0 (maxRequests - requestCount)
      let usageRotationRequired := decide (requestsRemaining ≤ usageWarningWindow map maxRequests)
      (.ok { ok := true, requestCount := some requestCount,
             requestsRemaining := some requestsRemaining,
             hotpCountersRemaining := some remaining,
             rotationRequired := some (usageRotationRequired || hotpRotationRequired) },
        if usageRotationRequired ∧ 0 < remaining then { reconciled with status := some .expiring }
        else reconciled)

def commitValidationToMap (map : TumblerMap) (input : ValidationCommitInput) :
    Except CoreError ValidationCommitResult × TumblerMap :=
  match assertTumblerMapCounterState map with
  | .error _ => (.ok (.fail .hotpCounterInvalid), map)
  | .ok () =>
    if map.status = some .revoked then (.ok (.fail .keyRevoked), map)
    else if map.status = some .expired then (.ok (.fail .keyExpired), map)
    else if map.expiresAt.any (· < input.usedAt) then (.ok (.fail .keyExpired), map.expire)
    else if map.usageCap.any (fun cap => cap ≤ (map.currentCount : Int)) then
      (.ok (.fail .keyUsageCapExceeded), map.expire)
    else if input.counterMatches.length ≠ (hotpSegments map.segments).length then
      (.ok (.fail .hotpCounterInvalid), map)
    else match checkMatches map.segments [] input.counterMatches with
      | some .hotpCounterExhausted => (.ok (.fail .hotpCounterExhausted), map.expire)
      | some e => (.ok (.fail e), map)
      | none => applyCommit map input

structure MemoryTumblerStore where
  maps : OrderedMap JsString TumblerMap
  maxEntries : Nat
  maxAgeMs : Int

namespace MemoryTumblerStore

def set (store : MemoryTumblerStore) (clientId : JsString) (map : TumblerMap) :
    Except StoreError Unit × MemoryTumblerStore :=
  if store.maps.has clientId = false ∧ store.maxEntries ≤ store.maps.size then
    (.error .capacityReached, store)
  else match assertTumblerMapCounterState map with
    | .error e => (.error e, store)
    | .ok () => (.ok (), { store with maps := store.maps.set clientId map })

def get (store : MemoryTumblerStore) (clientId : JsString) (now : Int) :
    Option TumblerMap × MemoryTumblerStore :=
  match store.maps.get? clientId with
  | none => (none, store)
  | some map =>
    if 0 < store.maxAgeMs ∧ now - map.createdAt > store.maxAgeMs then
      (none, { store with maps := store.maps.erase clientId })
    else (some map, store)

def delete (store : MemoryTumblerStore) (clientId : JsString) : MemoryTumblerStore :=
  { store with maps := store.maps.erase clientId }

def list (store : MemoryTumblerStore) : List JsString := store.maps.keys

def checkUpdates (segments : List SegmentConfig) :
    List (JsString × Int) → Except StoreError Unit
  | [] => pure ()
  | (segmentId, newCounter) :: rest =>
    match segments.find? (fun seg => seg.segmentId = segmentId) with
    | none => throw .hotpCounterInvalid
    | some seg =>
      if seg.type ≠ .hotp then throw .hotpCounterInvalid
      else if isValidHOTPStoredCounter newCounter = false then
        throw (.core (.hotpCounterInvalid (counterLabel segmentId)))
      else if newCounter < seg.storedCounter then throw .hotpCounterRollback
      else checkUpdates segments rest

def updateSegment (updates : OrderedMap JsString Int) (seg : SegmentConfig) : SegmentConfig :=
  match updates.get? seg.segmentId with
  | some newCounter => if seg.type = .hotp then { seg with counter := some newCounter } else seg
  | none => seg

/-- `minimumHOTPUsesRemaining` and `reconcile` after a counter was written. -/
def reconcileMap (map : TumblerMap) : Except StoreError Unit × TumblerMap :=
  match minimumHOTPUsesRemaining map.segments with
  | .error e => (.error (.core e), map)
  | .ok none => (.ok (), map)
  | .ok (some remaining) => (.ok (), (reconcileTumblerMapCounterStatus map remaining).2)

def updateCounters (store : MemoryTumblerStore) (clientId : JsString)
    (updates : OrderedMap JsString Int) : Except StoreError Unit × MemoryTumblerStore :=
  match store.maps.get? clientId with
  | none => (.ok (), store)
  | some map =>
    match checkUpdates map.segments updates.entries with
    | .error e => (.error e, store)
    | .ok () =>
      let (outcome, written) :=
        reconcileMap { map with segments := map.segments.map (updateSegment updates) }
      (outcome, { store with maps := store.maps.set clientId written })

/-- Writes the counter of the first segment with the id. -/
def setFirstCounter (id : JsString) (c : Int) : List SegmentConfig → List SegmentConfig
  | [] => []
  | seg :: rest =>
    if seg.segmentId = id then { seg with counter := some c } :: rest
    else seg :: setFirstCounter id c rest

def consumeCounter (store : MemoryTumblerStore) (clientId segmentId : JsString)
    (matchedCounter : Int) : Except StoreError Bool × MemoryTumblerStore :=
  match store.maps.get? clientId with
  | none => (.ok false, store)
  | some map =>
    match map.segments.find? (fun seg => seg.segmentId = segmentId) with
    | none => (.ok false, store)
    | some seg =>
      if seg.type ≠ .hotp then (.ok false, store)
      else if isUsableHOTPDerivationCounter seg.storedCounter = false ∨
          isUsableHOTPDerivationCounter matchedCounter = false then
        if seg.storedCounter = TSK_MAX_HOTP_COUNTER then
          (.ok false, { store with maps := store.maps.set clientId map.expire })
        else (.ok false, store)
      else if seg.storedCounter > matchedCounter then (.ok false, store)
      else
        let (outcome, written) := reconcileMap
          { map with segments := setFirstCounter segmentId (matchedCounter + 1) map.segments }
        (outcome.map (fun _ => true), { store with maps := store.maps.set clientId written })

def commitValidation (store : MemoryTumblerStore) (clientId : JsString)
    (input : ValidationCommitInput) : Except CoreError ValidationCommitResult × MemoryTumblerStore :=
  match store.maps.get? clientId with
  | none => (.ok (.fail .keyExpired), store)
  | some map =>
    let (outcome, written) := commitValidationToMap map input
    (outcome, { store with maps := store.maps.set clientId written })

def replaceCredential (store : MemoryTumblerStore) (oldClientId : JsString)
    (replacement : TumblerMap) : Except StoreError Bool × MemoryTumblerStore :=
  match assertTumblerMapCounterState replacement with
  | .error e => (.error e, store)
  | .ok () =>
    match store.maps.get? oldClientId with
    | none => (.ok false, store)
    | some current =>
      if isTerminal current.status then (.ok false, store)
      else if store.maps.has replacement.clientId then (.ok false, store)
      else
        let revoked := store.maps.set oldClientId { current with status := some .revoked }
        let bounded :=
          if store.maxEntries ≤ revoked.size then revoked.erase oldClientId else revoked
        let (outcome, stored) := set { store with maps := bounded } replacement.clientId replacement
        (outcome.map (fun _ => true), stored)

end MemoryTumblerStore

end TskProtocol
