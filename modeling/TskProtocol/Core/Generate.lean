import TskProtocol.Json
import TskProtocol.Lib.Draw
import TskProtocol.Core.KeyGen

namespace TskProtocol

def MIN_SEGMENT_LENGTH : Nat := 8
def MIN_KEY_LENGTH : Nat := 20
def MIN_TUMBLERS : Nat := 1
def MAX_TUMBLERS : Nat := 8
def ALLOWED_WINDOWS : List Int := [30, 60, 120, 300]
def MIN_WINDOW_SEC : Nat := 30
def MAX_WINDOW_SEC : Nat := 300

/-- An array; its length is a number of 32 bits. -/
abbrev JsArray (α : Type) : Type := { items : List α // items.length < 4294967296 }

/-- The options of a call.  A number that is given is `none` when it is not an integer. -/
structure TumblerMapOptions where
  keyLength : Option (Option Int) := none
  minTumblers : Option (Option Int) := none
  maxTumblers : Option (Option Int) := none
  allowedWindows : Option (JsArray (Option Int)) := none
  deriving DecidableEq, Repr

structure RequiredTumblerMapOptions where
  keyLength : Nat
  minTumblers : Nat
  maxTumblers : Nat
  allowedWindows : List Nat
  deriving DecidableEq, Repr

/-- A `RangeError`, or the end of the random bytes that are given. -/
inductive GenerateError
  | keyLength | minTumblers | maxTumblers | tumblerRange | noWindows | windowValue | keyTooSmall
  | randomIntRange | segmentCount | segmentSpace
  | exhausted
  deriving DecidableEq, Repr

def checkedOption (value : Option Int) (inRange : Int → Bool) (e : GenerateError) : Except GenerateError Int :=
  orThrow (value.filter inRange) e

/-- The loop over the windows, which are handed on as they are. -/
def validateWindows : List (Option Int) → Except GenerateError (List Nat)
  | [] => .ok []
  | w :: rest => do
    let n ← checkedOption w (fun n => MIN_WINDOW_SEC ≤ n && n ≤ MAX_WINDOW_SEC) .windowValue
    let windows ← validateWindows rest
    return n.toNat :: windows

def validateOptions (options : TumblerMapOptions) : Except GenerateError RequiredTumblerMapOptions := do
  let keyLength ← checkedOption (options.keyLength.getD (some 64))
    (fun n => MIN_KEY_LENGTH ≤ n && n ≤ MAX_KEY_LENGTH) .keyLength
  let minTumblers ← checkedOption (options.minTumblers.getD (some 2)) (fun n => MIN_TUMBLERS ≤ n) .minTumblers
  let maxTumblers ← checkedOption (options.maxTumblers.getD (some 5)) (fun n => n ≤ MAX_TUMBLERS) .maxTumblers
  require (minTumblers ≤ maxTumblers) .tumblerRange
  let allowedWindows := (options.allowedWindows.map (·.val)).getD (ALLOWED_WINDOWS.map some)
  require (allowedWindows ≠ []) .noWindows
  let windows ← validateWindows allowedWindows
  let numTotalSegments := maxTumblers + 1
  require (numTotalSegments * MIN_SEGMENT_LENGTH + CHECKSUM_LENGTH ≤ keyLength) .keyTooSmall
  -- none of them is negative here
  return ⟨keyLength.toNat, minTumblers.toNat, maxTumblers.toNat, windows⟩

section Random

/-- `randomBytes(n)`. -/
def randomBytes (n : Nat) : Draw GenerateError (List UInt8) := fun tape =>
  if n ≤ tape.length then .ok (tape.take n, tape.drop n) else .error .exhausted

/-- `buffer.toString('hex')`. -/
def hexOfBytes (bytes : List UInt8) : JsString :=
  bytes.flatMap (fun b => [JsString.hexDigit (b.toNat / 16), JsString.hexDigit (b.toNat % 16)])

/-- `buffer.readUInt32BE(0)`. -/
def readUInt32BE (a b c d : UInt8) : Nat := a.toNat * 16777216 + b.toNat * 65536 + c.toNat * 256 + d.toNat

/-- The loop draws again while the value is in the biased tail. -/
def rejectionLoop (max limit : Nat) : Draw GenerateError Nat
  | a :: b :: c :: d :: rest =>
    let val := readUInt32BE a b c d
    if limit ≤ val then rejectionLoop max limit rest else .ok (val % max, rest)
  | _ => .error .exhausted

def secureRandomInt (max : Nat) : Draw GenerateError Nat :=
  if max = 0 ∨ 4294967296 < max then .throw .randomIntRange
  else if max = 1 then pure 0
  else rejectionLoop max (4294967296 - 4294967296 % max)

def generateSharedSecret : Draw GenerateError JsString := do
  let bytes ← randomBytes 32
  return hexOfBytes bytes

def generateSegmentId (idPrefix : String) : Draw GenerateError JsString := do
  let bytes ← randomBytes 4
  return JsString.lit idPrefix ++ JsString.lit "_" ++ hexOfBytes bytes

def generateClientId : Draw GenerateError JsString := do
  let bytes ← randomBytes 8
  return JsString.lit "tsk_" ++ hexOfBytes bytes

end Random

section Segments

/-- The loop of the boundaries, from the `i`-th on, of which `k` are missing; `previous` is the one
before. -/
def drawBoundaries (totalLength count baseSize : Nat) : Nat → Nat → Nat → Draw GenerateError (List Nat)
  | 0, _, _ => pure []
  | k + 1, i, previous => do
    let ideal := i * baseSize
    -- `Math.floor(baseSize * 0.20)`: the product is exact enough for a base size of at most 500
    let maxJitter := baseSize / 5
    let drawn ← secureRandomInt (maxJitter * 2 + 1)
    let jitter : Int := (drawn : Int) - maxJitter
    let minBoundary := previous + MIN_SEGMENT_LENGTH
    let maxBoundary := (totalLength : Int) - ((count : Int) - i) * MIN_SEGMENT_LENGTH
    let boundary := (max (minBoundary : Int) (min maxBoundary (ideal + jitter))).toNat
    let boundaries ← drawBoundaries totalLength count baseSize k (i + 1) boundary
    return boundary :: boundaries

/-- The loop of the shuffle, from index `i` down. -/
def shuffleFrom : Nat → Array Nat → Draw GenerateError (Array Nat)
  | 0, xs => pure xs
  | i + 1, xs => do
    let j ← secureRandomInt (i + 2)
    shuffleFrom i (xs.swapIfInBounds (i + 1) j)

def randomNonOverlappingSegments (totalLength count : Nat) : Draw GenerateError (List (Nat × Nat)) := do
  if count = 0 then .throw .segmentCount
  else if totalLength < count * MIN_SEGMENT_LENGTH then .throw .segmentSpace
  else
    let midBoundaries ← drawBoundaries totalLength count (totalLength / count) (count - 1) 1 0
    let shuffled ← shuffleFrom (midBoundaries.length - 1) midBoundaries.toArray
    let sorted := shuffled.toList.insertionSort (· ≤ ·)
    let finalBoundaries := 0 :: sorted ++ [totalLength]
    return finalBoundaries.zip finalBoundaries.tail

end Segments

/-- `i !== requiredHotpIndex && secureRandomInt(10) >= 3`. -/
def drawIsTotp (requiredHotpIndex i : Nat) : Draw GenerateError Bool := do
  if i ≠ requiredHotpIndex then
    let roll ← secureRandomInt 10
    return decide (3 ≤ roll)
  else return false

/-- The segment at index `i`. -/
def drawSegment (allowedWindows : List Nat) (requiredHotpIndex i : Nat) (pos : Nat × Nat) :
    Draw GenerateError SegmentConfig := do
  let segId ← generateSegmentId (if i = 0 then "id" else "seg")
  if i = 0 then
    return ⟨segId, pos, .static, none, none⟩
  else
    let isTotp ← drawIsTotp requiredHotpIndex i
    let index ← secureRandomInt allowedWindows.length
    let windowSec := allowedWindows[index]?
    return {
      segmentId := segId
      position := pos
      type := if isTotp then .totp else .hotp
      windowSec := if isTotp then windowSec else none
      counter := if isTotp then none else some 0 }

/-- `positions.map(...)`, from index `i` on. -/
def drawSegments (allowedWindows : List Nat) (requiredHotpIndex : Nat) :
    Nat → List (Nat × Nat) → Draw GenerateError (List SegmentConfig)
  | _, [] => pure []
  | i, pos :: positions => do
    let segment ← drawSegment allowedWindows requiredHotpIndex i pos
    let segments ← drawSegments allowedWindows requiredHotpIndex (i + 1) positions
    return segment :: segments

/-- What is drawn for validated options. -/
def drawTumblerMap (options : RequiredTumblerMapOptions) (now : Int) : Draw GenerateError TumblerMap := do
  let clientId ← generateClientId
  let sharedSecret ← generateSharedSecret
  let extra ← secureRandomInt (options.maxTumblers - options.minTumblers + 1)
  let numTumblers := options.minTumblers + extra
  let drawn ← secureRandomInt numTumblers
  let requiredHotpIndex := 1 + drawn
  let checksumStart := options.keyLength - CHECKSUM_LENGTH
  let numSegments := numTumblers + 1
  let positions ← randomNonOverlappingSegments checksumStart numSegments
  let segments ← drawSegments options.allowedWindows requiredHotpIndex 0 positions
  return {
    clientId, sharedSecret, segments
    keyLength := options.keyLength
    checksum := (checksumStart, options.keyLength)
    createdAt := now
    version := JsString.lit "1"
    label := none
    expiresAt := none
    maxRequests := none
    rotationWarningRequests := none
    hotpRotationWarningCounters := none
    requestCount := none
    lastUsedAt := none
    status := none }

def generateTumblerMap (options : TumblerMapOptions) (now : Int) : Draw GenerateError TumblerMap := do
  let options ← Draw.lift (validateOptions options)
  drawTumblerMap options now

end TskProtocol
