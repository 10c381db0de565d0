import TskProtocol.Core.Crypto

namespace TskProtocol

/-- `Math.floor(nowMs / 1000 / windowSec)`, which is not finite for a zero window. -/
inductive WindowNumber
  | finite (n : Int)
  | infinity (negative : Bool)
  | nan
  deriving DecidableEq, Repr

def WindowNumber.at (nowMs : Int) (windowSec : Nat) : WindowNumber :=
  if windowSec = 0 then
    if nowMs = 0 then .nan else .infinity (nowMs < 0)
  else .finite (nowMs / (1000 * windowSec))

def WindowNumber.add : WindowNumber → Int → WindowNumber
  | .finite n, d => .finite (n + d)
  | w, _ => w

def WindowNumber.text : WindowNumber → JsString
  | .finite n => JsString.ofInt n
  | .infinity false => JsString.lit "Infinity"
  | .infinity true => JsString.lit "-Infinity"
  | .nan => JsString.lit "NaN"

def staticInput (segmentId : JsString) : JsString := JsString.lit "static:" ++ segmentId

def totpInput (segmentId : JsString) (T : WindowNumber) : JsString :=
  JsString.lit "totp:" ++ segmentId ++ JsString.lit ":" ++ T.text

def hotpInput (segmentId : JsString) (counter : Int) : JsString :=
  JsString.lit "hotp:" ++ segmentId ++ JsString.lit ":" ++ JsString.ofInt counter

def toSecretBuf (sharedSecret : JsString) : Except CoreError (List UInt8) := do
  validateHexSecret sharedSecret
  return bufferFromHex sharedSecret

/-- The padding loop.  Every round adds 43 characters, so `length` rounds suffice. -/
def padRounds (H : HmacSha256) (secretBuf : List UInt8) (length : Nat) :
    Nat → Nat → JsString → JsString
  | 0, _, result => result
  | fuel + 1, round, result =>
    if result.length < length then
      padRounds H secretBuf length fuel (round + 1)
        (result ++ hmacRaw H secretBuf
          (JsString.lit "pad:" ++ JsString.ofNat round ++ JsString.lit ":" ++ result))
    else result

def padOrTruncate (H : HmacSha256) (secretBuf : List UInt8) (s : JsString) (length : Nat) :
    JsString :=
  if length ≤ s.length then s.slice 0 length
  else (padRounds H secretBuf length length 0 s).slice 0 length

def deriveSegmentValue (H : HmacSha256) (sharedSecret : JsString) (seg : SegmentConfig)
    (nowMs : Int) : Except CoreError JsString := do
  let derivationInput ← match seg.type with
    | .static => pure (staticInput seg.segmentId)
    | .totp => pure (totpInput seg.segmentId (WindowNumber.at nowMs (seg.windowSec.getD 60)))
    | .hotp => do
      assertUsableHOTPDerivationCounter seg.storedCounter (counterLabel seg.segmentId)
      pure (hotpInput seg.segmentId seg.storedCounter)
  let secretBuf ← toSecretBuf sharedSecret
  return padOrTruncate H secretBuf (hmacRaw H secretBuf derivationInput) seg.length

def deriveSegmentForWindow (H : HmacSha256) (sharedSecret : JsString) (seg : SegmentConfig)
    (T : WindowNumber) : Except CoreError JsString := do
  let secretBuf ← toSecretBuf sharedSecret
  return padOrTruncate H secretBuf (hmacRaw H secretBuf (totpInput seg.segmentId T)) seg.length

def deriveSegmentForCounter (H : HmacSha256) (sharedSecret : JsString) (seg : SegmentConfig)
    (counter : Int) : Except CoreError JsString := do
  assertUsableHOTPDerivationCounter counter (counterLabel seg.segmentId)
  let secretBuf ← toSecretBuf sharedSecret
  return padOrTruncate H secretBuf (hmacRaw H secretBuf (hotpInput seg.segmentId counter)) seg.length

/-- The text of a segment of `length` characters derived from `input`. -/
def segmentText (H : HmacSha256) (sharedSecret input : JsString) (length : Nat) : JsString :=
  padOrTruncate H (bufferFromHex sharedSecret) (hmacRaw H (bufferFromHex sharedSecret) input) length

def hotpText (H : HmacSha256) (sharedSecret : JsString) (seg : SegmentConfig) (counter : Int) :
    JsString :=
  segmentText H sharedSecret (hotpInput seg.segmentId counter) seg.length

theorem toSecretBuf_ok {secret : JsString} (h : validateHexSecret secret = .ok ()) :
    toSecretBuf secret = .ok (bufferFromHex secret) := by
  simp only [toSecretBuf, h]; rfl

theorem deriveSegmentForWindow_ok {H : HmacSha256} {secret : JsString}
    (h : validateHexSecret secret = .ok ()) (seg : SegmentConfig) (T : WindowNumber) :
    deriveSegmentForWindow H secret seg T =
      .ok (segmentText H secret (totpInput seg.segmentId T) seg.length) := by
  simp only [deriveSegmentForWindow, toSecretBuf_ok h]; rfl

theorem deriveSegmentForCounter_ok {H : HmacSha256} {secret : JsString}
    (h : validateHexSecret secret = .ok ()) (seg : SegmentConfig) {counter : Int}
    (hc : isUsableHOTPDerivationCounter counter = true) :
    deriveSegmentForCounter H secret seg counter = .ok (hotpText H secret seg counter) := by
  simp only [deriveSegmentForCounter, assertUsable_ok hc, toSecretBuf_ok h]; rfl

@[simp] theorem hotpText_frame (H : HmacSha256) (secret : JsString) (seg : SegmentConfig)
    (counter : Int) : hotpText H secret seg.frame counter = hotpText H secret seg counter := rfl

section Text

variable (H : HmacSha256) (buf : List UInt8)

theorem le_length_padRounds {length fuel round : Nat} {result : JsString}
    (h : length ≤ result.length + 43 * fuel) :
    length ≤ (padRounds H buf length fuel round result).length := by
  induction fuel generalizing round result with
  | zero => simpa [padRounds] using h
  | succ fuel ih =>
    simp only [padRounds]
    split
    · apply ih
      simp only [List.length_append, hmacRaw, H.length_digest]
      omega
    · omega

theorem length_padOrTruncate (s : JsString) (length : Nat) :
    (padOrTruncate H buf s length).length = length := by
  simp only [padOrTruncate]
  split
  · next h => simp only [JsString.slice, List.drop_zero, List.length_take]; omega
  · have hpad : length ≤ (padRounds H buf length length 0 s).length :=
      le_length_padRounds H buf (by omega)
    simp only [JsString.slice, List.drop_zero, List.length_take]
    omega

theorem base64url_padRounds {length fuel round : Nat} {result : JsString}
    (h : ∀ c ∈ result, isBase64Url c = true) :
    ∀ c ∈ padRounds H buf length fuel round result, isBase64Url c = true := by
  induction fuel generalizing round result with
  | zero => exact h
  | succ fuel ih =>
    simp only [padRounds]
    split
    · apply ih
      intro c hc
      rcases List.mem_append.mp hc with hc | hc
      · exact h c hc
      · exact H.base64url_digest _ _ c hc
    · exact h

theorem base64url_padOrTruncate {s : JsString} (h : ∀ c ∈ s, isBase64Url c = true)
    (length : Nat) : ∀ c ∈ padOrTruncate H buf s length, isBase64Url c = true := by
  intro c hc
  simp only [padOrTruncate, JsString.slice] at hc
  split at hc
  · exact h c (List.mem_of_mem_take (List.mem_of_mem_drop hc))
  · exact base64url_padRounds H buf h c (List.mem_of_mem_take (List.mem_of_mem_drop hc))

end Text

theorem length_segmentText (H : HmacSha256) (secret input : JsString) (length : Nat) :
    (segmentText H secret input length).length = length := length_padOrTruncate ..

theorem ascii_segmentText (H : HmacSha256) (secret input : JsString) (length : Nat) :
    ∀ c ∈ segmentText H secret input length, JsString.isAscii c = true := fun c hc =>
  isAscii_of_isBase64Url
    (base64url_padOrTruncate H _ (H.base64url_digest _ _) length c hc)

end TskProtocol
