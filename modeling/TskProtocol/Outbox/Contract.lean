import TskProtocol.Core.Crypto
import TskProtocol.Json

namespace TskProtocol

def HA_OUTBOX_CONTRACT_VERSION : JsString := JsString.lit "1"
def HA_OUTBOX_DIGEST_DOMAIN : JsString := JsString.lit "selfconnect/ha-outbox/v1"
def CANON_MAX_STRING_BYTES : Nat := 65536
def TSK_HOTP_MAX_COUNTER : Int := 2147483647
def GENESIS_HEAD : JsString := List.replicate 64 48
def STREAM_HEAD_ALGS : List JsString := [JsString.lit "ed25519", JsString.lit "ecdsa-p256-sha256"]

/-- The platform's SHA-256 over bytes, with its `hex` digest. -/
structure Sha256Bytes where
  hex : List UInt8 → JsString
  length_hex : ∀ data, (hex data).length = 64
  lower_hex : ∀ data, ∀ c ∈ hex data, isLowerHexDigit c = true

def toHexDigit (n : Nat) : UInt16 := UInt16.ofNat (if n % 16 < 10 then 48 + n % 16 else 87 + n % 16)

theorem isLowerHexDigit_toHexDigit (n : Nat) : isLowerHexDigit (toHexDigit n) = true := by
  have hn : n % 16 < 16 := Nat.mod_lt n (by decide)
  have hdigits : ∀ d < 16, isLowerHexDigit (UInt16.ofNat (if d < 10 then 48 + d else 87 + d)) := by
    decide
  exact hdigits (n % 16) hn

/-- A stand-in for SHA-256 on concrete data: a checksum that reads every byte. -/
def rollingSha256 : Sha256Bytes where
  hex data :=
    let sum := data.foldl (fun acc byte => (acc * 257 + byte.toNat + 1) % Nat.pow 16 64) 7
    (List.range 64).map (fun i => toHexDigit (sum / Nat.pow 16 i))
  length_hex data := by simp
  lower_hex data c hc := by
    obtain ⟨i, -, rfl⟩ := List.mem_map.mp hc
    exact isLowerHexDigit_toHexDigit _

namespace JsString

/-- A code unit of a surrogate pair without its other half. -/
def hasLoneSurrogate : JsString → Bool
  | [] => false
  | [c] => isHighSurrogate c || isLowSurrogate c
  | c :: d :: rest =>
    if isHighSurrogate c then !isLowSurrogate d || hasLoneSurrogate rest
    else isLowSurrogate c || hasLoneSurrogate (d :: rest)

/-- `length(...)` of the database, which counts code points. -/
def codePointLength : JsString → Nat
  | [] => 0
  | [_] => 1
  | c :: d :: rest =>
    if isHighSurrogate c && isLowSurrogate d then codePointLength rest + 1
    else codePointLength (d :: rest) + 1

/-- A text that fits a column bounded to 512 characters. -/
def fitsIdColumn (s : JsString) : Bool :=
  1 ≤ s.codePointLength && s.codePointLength ≤ 512 && s.all (· ≠ 0)

end JsString

inductive ContractError
  | invalidId | loneSurrogate | invalidSequence | invalidFenceToken | notSafeInteger | stringTooLong
  | unsupportedVersion | invalidOpDigest | invalidPrevHeadDigest | invalidKeyId | unknownAlg
  | headStreamId | headSequence | headOpDigest | headDigestMismatch
  | streamMismatch | noFenceRow | staleFence | leaseNotWritable | backpressure
  | notProvisioned | sequenceExhausted | unsanitizable | counterOutOfRange | invalidTumblerId
  | constraintViolation | headVerificationUnavailable | applierFailed
  | leaseLost | corruptedRow | quarantineConflict | noAffectedRow
  deriving DecidableEq, Repr

def isIdHead (c : UInt16) : Bool :=
  (48 ≤ c && c ≤ 57) || (65 ≤ c && c ≤ 90) || (97 ≤ c && c ≤ 122)

def isIdTail (c : UInt16) : Bool := isIdHead c || c = 58 || c = 46 || c = 95 || c = 47 || c = 45

/-- `ID_PATTERN`, and the pattern of key ids. -/
def matchesIdPattern : JsString → Bool
  | [] => false
  | c :: rest => isIdHead c && rest.length ≤ 127 && rest.all isIdTail

/-- `FENCE_TOKEN_PATTERN`. -/
def matchesFenceTokenPattern : JsString → Bool
  | [] => false
  | c :: rest =>
    (c = 48 && rest = []) || (49 ≤ c && c ≤ 57 && rest.length ≤ 38 && rest.all isDecimalDigit)

/-- `HEX64`. -/
def matchesHex64 (s : JsString) : Bool := s.length = 64 && s.all isLowerHexDigit

structure TskHotpMutation where
  tumblerId : JsString
  counter : Int
  deriving DecidableEq, Repr

structure OutboxRecordHeader where
  contractVersion : JsString
  streamId : JsString
  sourceEpoch : JsString
  sequence : Int
  fenceToken : JsString
  opDigest : JsString
  deriving DecidableEq, Repr

structure OutboxRecord extends OutboxRecordHeader where
  mutation : TskHotpMutation
  deriving DecidableEq, Repr

structure SignedStreamHead where
  streamId : JsString
  sequence : Int
  prevHeadDigest : JsString
  opDigest : JsString
  keyId : JsString
  alg : JsString
  headDigest : JsString
  signature : JsString
  deriving DecidableEq, Repr

inductive ReceiverDecision
  | applied | duplicateOk | rejectGap | rejectFork | rejectStale | rejectEpoch | rejectFence
  | rejectUnsanitized
  deriving DecidableEq, Repr

/-- The sanitizer accepts again what it has produced. -/
structure HotpMutationSanitizer where
  sanitize : TskHotpMutation → Option TskHotpMutation
  assertSanitized : TskHotpMutation → Bool
  sanitized : ∀ raw clean, sanitize raw = some clean → assertSanitized clean = true

structure StreamHeadSigner where
  keyId : JsString
  alg : JsString
  sign : JsString → JsString

def u32be (n : Nat) : List UInt8 :=
  [UInt8.ofNat (n / 16777216), UInt8.ofNat (n / 65536), UInt8.ofNat (n / 256), UInt8.ofNat n]

/-- Every field is far below the ceiling of its length prefix. -/
def framed (fields : List JsString) : List UInt8 :=
  fields.flatMap (fun field => u32be field.utf8.length ++ field.utf8)

def Json.ofHotpMutation (mutation : TskHotpMutation) : Json := .obj
  [(JsString.lit "tumblerId", .str mutation.tumblerId), (JsString.lit "counter", .num mutation.counter)]

/-- `canonicalize` of a sanitized mutation. -/
def canonicalizeMutation (mutation : TskHotpMutation) : Except ContractError JsString := do
  require (isSafeInteger mutation.counter) .notSafeInteger
  require (mutation.tumblerId.hasLoneSurrogate = false) .loneSurrogate
  require (mutation.tumblerId.utf8.length ≤ CANON_MAX_STRING_BYTES) .stringTooLong
  return (Json.ofHotpMutation mutation).canonical

def assertFenceToken (fenceToken : JsString) : Except ContractError Unit :=
  require (matchesFenceTokenPattern fenceToken) .invalidFenceToken

def assertId (value : JsString) : Except ContractError Unit :=
  require (matchesIdPattern value) .invalidId

/-- Sequence 0 is the genesis of an epoch and carries no mutation. -/
def assertSequence (sequence : Int) : Except ContractError Unit :=
  require (isSafeInteger sequence ∧ 1 ≤ sequence) .invalidSequence

def canonicalOpDigest (D : Sha256Bytes) (streamId sourceEpoch : JsString) (sequence : Int)
    (fenceToken : JsString) (mutation : TskHotpMutation) : Except ContractError JsString := do
  assertId streamId
  assertId sourceEpoch
  assertSequence sequence
  assertFenceToken fenceToken
  let canonical ← canonicalizeMutation mutation
  return D.hex (framed [HA_OUTBOX_DIGEST_DOMAIN, HA_OUTBOX_CONTRACT_VERSION, streamId, sourceEpoch,
    JsString.ofInt sequence, fenceToken, canonical])

def streamHeadDigest (D : Sha256Bytes) (streamId : JsString) (sequence : Int)
    (prevHeadDigest opDigest keyId alg : JsString) : Except ContractError JsString := do
  assertId streamId
  assertSequence sequence
  require (matchesHex64 prevHeadDigest) .invalidPrevHeadDigest
  require (matchesHex64 opDigest) .invalidOpDigest
  require (matchesIdPattern keyId) .invalidKeyId
  require (alg ∈ STREAM_HEAD_ALGS) .unknownAlg
  return D.hex (framed [HA_OUTBOX_DIGEST_DOMAIN ++ JsString.lit "/tsk-stream-head",
    HA_OUTBOX_CONTRACT_VERSION, streamId, JsString.ofInt sequence, prevHeadDigest, opDigest, keyId,
    alg])

def assertHeaderConformant (h : OutboxRecordHeader) : Except ContractError Unit := do
  require (h.contractVersion = HA_OUTBOX_CONTRACT_VERSION) .unsupportedVersion
  assertId h.streamId
  assertId h.sourceEpoch
  assertSequence h.sequence
  assertFenceToken h.fenceToken
  require (matchesHex64 h.opDigest) .invalidOpDigest

def assertStreamHeadBinds (D : Sha256Bytes) (record : OutboxRecordHeader) (head : SignedStreamHead) :
    Except ContractError Unit := do
  require (head.streamId = record.streamId) .headStreamId
  require (head.sequence = record.sequence) .headSequence
  require (head.opDigest = record.opDigest) .headOpDigest
  require (head.alg ∈ STREAM_HEAD_ALGS) .unknownAlg
  require (matchesIdPattern head.keyId) .invalidKeyId
  let expect ← streamHeadDigest D head.streamId head.sequence head.prevHeadDigest head.opDigest
    head.keyId head.alg
  require (head.headDigest = expect) .headDigestMismatch

/-- `BigInt(s)` of a decimal text. -/
def bigIntOf (s : JsString) : Nat :=
  Nat.ofDigitChars 10 (s.map (fun c => Char.ofNat c.toNat)) 0

theorem bigIntOf_ofNat (n : Nat) : bigIntOf (JsString.ofNat n) = n := by
  rw [bigIntOf, JsString.map_toChar_ofNat, Nat.ofDigitChars_ten_toDigits]

def fenceTokenToDecimal (fence : Nat) : JsString := JsString.ofNat fence

end TskProtocol
