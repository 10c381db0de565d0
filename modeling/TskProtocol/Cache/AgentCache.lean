import TskProtocol.Cache.CanonicalJson
import TskProtocol.Lib.Base64Url
import TskProtocol.Outbox.Utf8
import TskProtocol.Principal.Session

namespace TskProtocol

def JsDecimal.value (d : JsDecimal) : Rat :=
  (if d.negative then -1 else 1) * bigIntOf d.digits * (10 : Rat) ^ (d.point - d.digits.length)

namespace PlainNumber

/-- `Number.isFinite`. -/
def isFinite : PlainNumber → Bool
  | .nan | .infinity _ => false
  | .negativeZero | .int _ | .dec _ => true

/-- The value of a finite number. -/
def value : PlainNumber → Rat
  | .int n => n
  | .dec d => d.value
  | .nan | .infinity _ | .negativeZero => 0

/-- `m <= n`. -/
def le (m n : PlainNumber) : Bool :=
  match m, n with
  | .nan, _ | _, .nan => false
  | .infinity true, _ | _, .infinity false => true
  | .infinity false, _ | _, .infinity true => false
  | m, n => m.value ≤ n.value

end PlainNumber

/-- What the cache throws.  `thrown` is an error of the protector that is none of the cache's own. -/
inductive AgentCacheError
  | expired | tampered (what : String) | unavailable | thrown
  deriving DecidableEq, Repr

def CURRENT_USER : JsString := JsString.lit "CurrentUser"

structure DpapiProtector where
  scope : JsString
  protect : List UInt8 → Except AgentCacheError (List UInt8)
  unprotect : List UInt8 → Except AgentCacheError (List UInt8)

structure AgentCredentialCacheExpectedState where
  principalId : JsString
  bindingHash : JsString
  policyDigest : JsString
  permissionsHash : JsString
  deriving DecidableEq

structure CreateAgentCredentialCacheEntryInput extends AgentCredentialCacheExpectedState where
  expiresAt : PlainNumber
  /-- `none` when the input has no such property. -/
  credentialMaterial : Option PlainValue
  distinct : ∀ material ∈ credentialMaterial, material.Distinct

structure AgentCredentialCacheEntry where
  principal_id : JsString
  binding_hash : JsString
  policy_digest : JsString
  permissions_hash : JsString
  expires_at : PlainNumber
  sealed_at : PlainNumber
  credential_material : PlainValue

structure SealedAgentCredentialCache where
  version : JsString
  scope : JsString
  protected_at : PlainNumber
  ciphertext_b64 : JsString

def requireNonEmptyString (value : Option JsString) (fieldName : String) : Except AgentCacheError JsString :=
  orThrow (value.filter fun s => !isBlank s) (.tampered fieldName)

def requireFiniteTimestamp (value : Option PlainNumber) (fieldName : String) :
    Except AgentCacheError PlainNumber :=
  orThrow (value.filter PlainNumber.isFinite) (.tampered fieldName)

def createAgentCredentialCacheEntry (input : CreateAgentCredentialCacheEntryInput) (now : PlainNumber) :
    Except AgentCacheError AgentCredentialCacheEntry := do
  let entry : AgentCredentialCacheEntry := {
    principal_id := ← requireNonEmptyString (some input.principalId) "principalId"
    binding_hash := ← requireNonEmptyString (some input.bindingHash) "bindingHash"
    policy_digest := ← requireNonEmptyString (some input.policyDigest) "policyDigest"
    permissions_hash := ← requireNonEmptyString (some input.permissionsHash) "permissionsHash"
    expires_at := ← requireFiniteTimestamp (some input.expiresAt) "expiresAt"
    sealed_at := ← requireFiniteTimestamp (some now) "nowMs"
    credential_material := input.credentialMaterial.getD .undefined }
  require (input.credentialMaterial.isSome = true) (.tampered "credential material")
  return entry

def AgentCredentialCacheEntry.members (entry : AgentCredentialCacheEntry) : List (JsString × PlainValue) :=
  [(JsString.lit "version", .str (JsString.lit "1")),
    (JsString.lit "principal_id", .str entry.principal_id),
    (JsString.lit "binding_hash", .str entry.binding_hash),
    (JsString.lit "policy_digest", .str entry.policy_digest),
    (JsString.lit "permissions_hash", .str entry.permissions_hash),
    (JsString.lit "expires_at", .num entry.expires_at),
    (JsString.lit "sealed_at", .num entry.sealed_at),
    (JsString.lit "credential_material", entry.credential_material)]

/-- What `JSON.stringify(entry)` writes. -/
def AgentCredentialCacheEntry.json (entry : AgentCredentialCacheEntry) : Json :=
  .obj (PlainValue.membersToJson entry.members)

def sealAgentCredentialCacheEntry (input : CreateAgentCredentialCacheEntryInput) (now : PlainNumber)
    (protector : DpapiProtector) : Except AgentCacheError SealedAgentCredentialCache := do
  require (protector.scope = CURRENT_USER) .unavailable
  let entry ← createAgentCredentialCacheEntry input now
  let ciphertext ← protector.protect entry.json.stringify.utf8
  return {
    version := JsString.lit "1"
    scope := CURRENT_USER
    protected_at := entry.sealed_at
    ciphertext_b64 := Base64Url.encodeStandard ciphertext }

def validateSealedEnvelope (cache : SealedAgentCredentialCache) : Except AgentCacheError Unit := do
  require (cache.version = JsString.lit "1") (.tampered "version")
  require (cache.scope = CURRENT_USER) (.tampered "scope")
  let _ ← requireNonEmptyString (some cache.ciphertext_b64) "ciphertext_b64"
  let _ ← requireFiniteTimestamp (some cache.protected_at) "protected_at"

def Json.asNumber : Json → Option PlainNumber
  | .num n => some (.int n)
  | .dec d => some (.dec d)
  | _ => none

def parseCacheEntry (serialized : JsString) : Except AgentCacheError AgentCredentialCacheEntry := do
  let parsed ← orThrow (Json.parse serialized) (.tampered "payload is not valid JSON")
  require (parsed.isObject = true) (.tampered "payload")
  let entry : AgentCredentialCacheEntry := {
    principal_id := ← requireNonEmptyString (parsed.strField "principal_id") "principal_id"
    binding_hash := ← requireNonEmptyString (parsed.strField "binding_hash") "binding_hash"
    policy_digest := ← requireNonEmptyString (parsed.strField "policy_digest") "policy_digest"
    permissions_hash := ← requireNonEmptyString (parsed.strField "permissions_hash") "permissions_hash"
    expires_at := ← requireFiniteTimestamp ((parsed.field "expires_at").bind Json.asNumber) "expires_at"
    sealed_at := ← requireFiniteTimestamp ((parsed.field "sealed_at").bind Json.asNumber) "sealed_at"
    credential_material := ((parsed.field "credential_material").map PlainValue.ofJson).getD .undefined }
  require (parsed.strField "version" = some (JsString.lit "1")) (.tampered "payload version")
  require ((parsed.field "credential_material").isSome = true) (.tampered "credential material")
  return entry

/-- An error of the protector's own is one of tampering. -/
def AgentCacheError.rethrown : AgentCacheError → AgentCacheError
  | .thrown => .tampered "could not be unsealed"
  | e => e

section Opening

variable (S : Sha256Bytes)

/-- Equality of the digests of the UTF-8 encodings. -/
def constantTimeStringEqual (a b : JsString) : Bool := S.hex a.utf8 = S.hex b.utf8

def assertSameField (actual expected : JsString) (fieldName : String) : Except AgentCacheError Unit := do
  let expected ← requireNonEmptyString (some expected) fieldName
  require (constantTimeStringEqual S actual expected = true) (.tampered fieldName)

def validateEntryAgainstCurrentState (entry : AgentCredentialCacheEntry)
    (expected : AgentCredentialCacheExpectedState) (now : PlainNumber) : Except AgentCacheError Unit := do
  require (entry.expires_at.le now = false) .expired
  assertSameField S entry.principal_id expected.principalId "principal_id"
  assertSameField S entry.binding_hash expected.bindingHash "binding_hash"
  assertSameField S entry.policy_digest expected.policyDigest "policy_digest"
  assertSameField S entry.permissions_hash expected.permissionsHash "permissions_hash"

def openAgentCredentialCacheEntry (sealedCache : SealedAgentCredentialCache)
    (expected : AgentCredentialCacheExpectedState) (now : PlainNumber) (protector : DpapiProtector) :
    Except AgentCacheError AgentCredentialCacheEntry := do
  validateSealedEnvelope sealedCache
  require (protector.scope = CURRENT_USER) .unavailable
  let plaintext ← (protector.unprotect (Base64Url.decode sealedCache.ciphertext_b64)).mapError
    AgentCacheError.rethrown
  let entry ← parseCacheEntry (JsString.decodeUtf8 plaintext)
  validateEntryAgainstCurrentState S entry expected now
  return entry

end Opening

end TskProtocol
