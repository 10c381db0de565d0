import TskProtocol.Js

namespace TskProtocol

inductive SegmentType
  | static | totp | hotp
  deriving DecidableEq, Repr

structure SegmentConfig where
  segmentId : JsString
  /-- `[startIndex, endIndex)` in the key string. -/
  position : Nat × Nat
  type : SegmentType
  windowSec : Option Nat
  counter : Option Int
  deriving DecidableEq, Repr

inductive KeyStatus
  | active | expiring | revoked | expired
  deriving DecidableEq, Repr

structure TumblerMap where
  clientId : JsString
  sharedSecret : JsString
  keyLength : Nat
  segments : List SegmentConfig
  /-- `checksum.position`. -/
  checksum : Nat × Nat
  createdAt : Int
  version : JsString
  label : Option JsString
  expiresAt : Option Int
  maxRequests : Option Int
  rotationWarningRequests : Option Int
  hotpRotationWarningCounters : Option Int
  requestCount : Option Nat
  /-- `undefined`, `null` or a timestamp. -/
  lastUsedAt : Option (Option Int)
  status : Option KeyStatus
  deriving DecidableEq, Repr

structure ClientSegmentConfig where
  segmentId : JsString
  type : SegmentType
  segmentLength : Nat
  windowSec : Option Nat
  initialCounter : Option Int
  deriving DecidableEq, Repr

structure TSKProvisionPayload where
  clientId : JsString
  clientSegments : List ClientSegmentConfig
  keyLength : Nat
  checksumLength : Nat
  createdAt : Int
  version : JsString
  deriving DecidableEq, Repr

inductive TSKError
  | clientNotFound | keyLengthMismatch | mapInvalidNoSegments | mapInvalidNoHotp
  | mapInvalidZeroLengthSegment | invalidKey
  deriving DecidableEq, Repr

inductive TSKInternalError
  | checksumInvalid | validationFailed | hotpCounterInvalid | hotpCounterExhausted
  | internalError
  deriving DecidableEq, Repr

structure SegmentResult where
  segmentId : JsString
  type : SegmentType
  valid : Bool
  deriving DecidableEq, Repr

structure TSKConfig where
  totpToleranceWindows : Option Int := none
  hotpLookahead : Option Int := none
  maxKeyLength : Option Int := none
  minKeyLength : Option Int := none
  deriving DecidableEq, Repr

/-- `{ ...DEFAULT_TSK_CONFIG, ...config }`. -/
structure RequiredTSKConfig where
  totpToleranceWindows : Int
  hotpLookahead : Int
  maxKeyLength : Int
  minKeyLength : Int
  deriving DecidableEq, Repr

def DEFAULT_TSK_CONFIG : RequiredTSKConfig where
  totpToleranceWindows := 1
  hotpLookahead := 5
  maxKeyLength := 512
  minKeyLength := 20

def TSKConfig.resolve (config : TSKConfig) : RequiredTSKConfig where
  totpToleranceWindows :=
    config.totpToleranceWindows.getD DEFAULT_TSK_CONFIG.totpToleranceWindows
  hotpLookahead := config.hotpLookahead.getD DEFAULT_TSK_CONFIG.hotpLookahead
  maxKeyLength := config.maxKeyLength.getD DEFAULT_TSK_CONFIG.maxKeyLength
  minKeyLength := config.minKeyLength.getD DEFAULT_TSK_CONFIG.minKeyLength

/-- What the core package throws. -/
inductive CoreError
  | sharedSecretLength (length : Nat)
  | sharedSecretNotHex
  | hotpCounterInvalid (label : JsString)
  | hotpCounterExhausted (label : JsString)
  deriving DecidableEq, Repr

/-- `Number.MAX_SAFE_INTEGER`. -/
def MAX_SAFE_INTEGER : Int := 9007199254740991

def isSafeInteger (n : Int) : Bool := -MAX_SAFE_INTEGER ≤ n && n ≤ MAX_SAFE_INTEGER

/-- The part of a segment no counter update touches. -/
def SegmentConfig.frame (seg : SegmentConfig) : SegmentConfig := { seg with counter := none }

def SegmentConfig.storedCounter (seg : SegmentConfig) : Int := seg.counter.getD 0

def SegmentConfig.length (seg : SegmentConfig) : Nat := seg.position.2 - seg.position.1

/-- The part of a map that validation commits and lifecycle transitions leave alone. -/
def TumblerMap.frame (m : TumblerMap) : TumblerMap :=
  { m with
    segments := m.segments.map SegmentConfig.frame
    requestCount := none
    lastUsedAt := none
    status := none }

def KeyStatus.isTerminal : KeyStatus → Bool
  | .revoked => true
  | .expired => true
  | _ => false

/-- `status === 'revoked' || status === 'expired'`; a missing status is not terminal. -/
def isTerminal (status : Option KeyStatus) : Bool := status.any KeyStatus.isTerminal

end TskProtocol
