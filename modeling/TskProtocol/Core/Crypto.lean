import TskProtocol.Core.HotpCounter

namespace TskProtocol

def isHexDigit (c : UInt16) : Bool :=
  (48 ≤ c && c ≤ 57) || (97 ≤ c && c ≤ 102) || (65 ≤ c && c ≤ 70)

def validateHexSecret (secret : JsString) : Except CoreError Unit :=
  if secret.length ≠ 64 then throw (.sharedSecretLength secret.length)
  else if secret.all isHexDigit then pure () else throw .sharedSecretNotHex

def hexValue (c : UInt16) : UInt8 :=
  if c ≤ 57 then UInt8.ofNat (c.toNat - 48)
  else if 97 ≤ c then UInt8.ofNat (c.toNat - 87)
  else UInt8.ofNat (c.toNat - 55)

/-- `Buffer.from(secret, 'hex')` of a validated secret. -/
def bufferFromHex : JsString → List UInt8
  | hi :: lo :: rest => (16 * hexValue hi + hexValue lo) :: bufferFromHex rest
  | _ => []

def isBase64Url (c : UInt16) : Bool :=
  (48 ≤ c && c ≤ 57) || (65 ≤ c && c ≤ 90) || (97 ≤ c && c ≤ 122) || c = 45 || c = 95

/-- The platform's HMAC-SHA-256 with its `base64url` digest: 32 bytes are written as
43 unpadded characters. -/
structure HmacSha256 where
  digest : List UInt8 → JsString → JsString
  length_digest : ∀ key data, (digest key data).length = 43
  base64url_digest : ∀ key data, ∀ c ∈ digest key data, isBase64Url c = true

def isLowerHexDigit (c : UInt16) : Bool := (48 ≤ c && c ≤ 57) || (97 ≤ c && c ≤ 102)

/-- The platform's SHA-256 with its `hex` digest. -/
structure Sha256 where
  hex : JsString → JsString
  length_hex : ∀ data, (hex data).length = 64
  lower_hex : ∀ data, ∀ c ∈ hex data, isLowerHexDigit c = true

def hmac (H : HmacSha256) (secret data : JsString) : Except CoreError JsString := do
  validateHexSecret secret
  return H.digest (bufferFromHex secret) data

def hmacRaw (H : HmacSha256) (secretBuf : List UInt8) (data : JsString) : JsString :=
  H.digest secretBuf data

/-- Equality of the UTF-8 encodings; the length test only decides which primitive runs. -/
def constantTimeEqual (a b : JsString) : Bool :=
  let bufA := a.utf8
  let bufB := b.utf8
  if bufA.length ≠ bufB.length then false else bufA = bufB

theorem constantTimeEqual_iff {a b : JsString} :
    constantTimeEqual a b = true ↔ a.utf8 = b.utf8 := by
  by_cases h : a.utf8.length = b.utf8.length
  · simp [constantTimeEqual, h]
  · have hne : a.utf8 ≠ b.utf8 := fun he => h (congrArg List.length he)
    simp [constantTimeEqual, h, hne]

theorem isAscii_of_isBase64Url {c : UInt16} (h : isBase64Url c = true) :
    JsString.isAscii c = true := by
  simp only [isBase64Url, Bool.or_eq_true, Bool.and_eq_true, decide_eq_true_eq,
    UInt16.le_iff_toNat_le] at h
  simp only [JsString.isAscii, decide_eq_true_eq, UInt16.lt_iff_toNat_lt]
  rcases h with (((h | h) | h) | rfl) | rfl
  all_goals simp at *; try omega

end TskProtocol
