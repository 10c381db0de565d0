import TskProtocol.Lib.OrderedMap
import TskProtocol.Core.TumblerMap

namespace TskProtocol

structure HOTPCounterUpdate where
  newCounter : Int
  matchedCounter : Int
  deriving DecidableEq, Repr

structure TSKValidationResult where
  ok : Bool
  error : Option TSKError := none
  internalError : Option TSKInternalError := none
  clientId : Option JsString := none
  segmentResults : Option (List SegmentResult) := none
  counterUpdates : Option (OrderedMap JsString HOTPCounterUpdate) := none

/-- The TOTP loop over the window offsets still to be tried. -/
def matchWindow (H : HmacSha256) (secret : JsString) (seg : SegmentConfig)
    (provided : JsString) (T : WindowNumber) : List Int → Except CoreError Bool
  | [] => pure false
  | delta :: deltas => do
    let expected ← deriveSegmentForWindow H secret seg (T.add delta)
    if constantTimeEqual provided expected then pure true
    else matchWindow H secret seg provided T deltas

def toleranceDeltas (tolerance : Int) : List Int :=
  (List.range (2 * tolerance + 1).toNat).map (fun i => Int.ofNat i - tolerance)

/-- The HOTP loop: `rounds` counters are tried from `counter` on. -/
def matchCounter (H : HmacSha256) (secret : JsString) (seg : SegmentConfig)
    (provided : JsString) : Nat → Int → Except CoreError (Option Int)
  | 0, _ => pure none
  | rounds + 1, counter => do
    let expected ← deriveSegmentForCounter H secret seg counter
    if constantTimeEqual provided expected then pure (some counter)
    else matchCounter H secret seg provided rounds (counter + 1)

def lookaheadRounds (hotpLookahead storedCounter : Int) : Nat :=
  (min hotpLookahead (TSK_MAX_HOTP_COUNTER - 1 - storedCounter) + 1).toNat

/-- What one segment contributes: an early return of the whole validation, or its
validity together with the matched counter of a valid HOTP segment. -/
inductive SegmentOutcome
  | abort (reason : TSKInternalError)
  | checked (valid : Bool) (matched : Option Int)
  deriving DecidableEq, Repr

def checkSegment (H : HmacSha256) (secret : JsString) (cfg : RequiredTSKConfig) (nowMs : Int)
    (providedKey : JsString) (seg : SegmentConfig) : Except CoreError SegmentOutcome :=
  let provided := providedKey.slice seg.position.1 seg.position.2
  match seg.type with
  | .static => do
    let expected ← deriveSegmentValue H secret seg nowMs
    return .checked (constantTimeEqual provided expected) none
  | .totp => do
    let T := WindowNumber.at nowMs (seg.windowSec.getD 60)
    let valid ← matchWindow H secret seg provided T (toleranceDeltas cfg.totpToleranceWindows)
    return .checked valid none
  | .hotp =>
    if isValidHOTPStoredCounter seg.storedCounter = false then
      return .abort .hotpCounterInvalid
    else if TSK_MAX_HOTP_COUNTER ≤ seg.storedCounter then
      return .abort .hotpCounterExhausted
    else do
      let matched ← matchCounter H secret seg provided
        (lookaheadRounds cfg.hotpLookahead seg.storedCounter) seg.storedCounter
      return .checked matched.isSome matched

structure SegmentScan where
  segmentResults : List SegmentResult := []
  counterUpdates : OrderedMap JsString HOTPCounterUpdate := ∅
  allValid : Bool := true

def SegmentScan.push (scan : SegmentScan) (seg : SegmentConfig) (valid : Bool)
    (matched : Option Int) : SegmentScan where
  segmentResults := scan.segmentResults ++ [⟨seg.segmentId, seg.type, valid⟩]
  counterUpdates := match matched with
    | some c => scan.counterUpdates.set seg.segmentId ⟨c + 1, c⟩
    | none => scan.counterUpdates
  allValid := scan.allValid && valid

/-- The loop over the segments; an early return hands back the results so far. -/
def scanSegments (check : SegmentConfig → Except CoreError SegmentOutcome) :
    SegmentScan → List SegmentConfig →
      Except CoreError (Except (TSKInternalError × List SegmentResult) SegmentScan)
  | scan, [] => pure (.ok scan)
  | scan, seg :: rest => do
    match ← check seg with
    | .abort e => pure (.error (e, scan.segmentResults))
    | .checked valid matched => scanSegments check (scan.push seg valid matched) rest

def validateTSKKey (H : HmacSha256) (providedKey : JsString) (map : TumblerMap) (nowMs : Int)
    (config : TSKConfig) : Except CoreError TSKValidationResult :=
  let cfg := config.resolve
  if isSafeInteger cfg.hotpLookahead = false ∨ cfg.hotpLookahead < 0 then
    return { ok := false, error := some .invalidKey, internalError := some .internalError,
             clientId := some map.clientId }
  else if map.segments.isEmpty then
    return { ok := false, error := some .mapInvalidNoSegments }
  else if map.segments.all (·.type ≠ .hotp) then
    return { ok := false, error := some .mapInvalidNoHotp }
  else if map.segments.any (fun seg => seg.position.2 ≤ seg.position.1) then
    return { ok := false, error := some .mapInvalidZeroLengthSegment }
  else if providedKey.length < cfg.minKeyLength ∨ providedKey.length > cfg.maxKeyLength then
    return { ok := false, error := some .keyLengthMismatch }
  else if providedKey.length ≠ map.keyLength then
    return { ok := false, error := some .keyLengthMismatch }
  else do
    let providedChecksum := providedKey.slice map.checksum.1 map.checksum.2
    let keyWithoutChecksum := providedKey.slice 0 map.checksum.1
    let expectedChecksum ← computeChecksum H map.sharedSecret keyWithoutChecksum
    if constantTimeEqual providedChecksum expectedChecksum = false then
      return { ok := false, error := some .invalidKey, internalError := some .checksumInvalid,
               clientId := some map.clientId }
    match ← scanSegments (checkSegment H map.sharedSecret cfg nowMs providedKey) {} map.segments with
    | .error (e, results) =>
      return { ok := false, error := some .invalidKey, internalError := some e,
               clientId := some map.clientId, segmentResults := some results }
    | .ok scan =>
      if scan.allValid = false then
        return { ok := false, error := some .invalidKey, internalError := some .validationFailed,
                 clientId := some map.clientId, segmentResults := some scan.segmentResults }
      else
        return { ok := true, clientId := some map.clientId,
                 segmentResults := some scan.segmentResults,
                 counterUpdates :=
                   if 0 < scan.counterUpdates.size then some scan.counterUpdates else none }

end TskProtocol
