import TskProtocol.Cache.CanonicalJson
import TskProtocol.Core.MirrorHmac
import TskProtocol.Principal.Session

namespace TskProtocol

inductive CacheSource
  | replica | sealed_cache
  deriving DecidableEq, Repr

def CacheSource.text : CacheSource → JsString
  | .replica => JsString.lit "replica"
  | .sealed_cache => JsString.lit "sealed_cache"

/-- What the seal of a cache covers. -/
structure SealedCacheBody where
  source : CacheSource
  principalId : JsString
  policyDigest : JsString
  checkpointHash : JsString
  issuedAt : Int
  expiresAt : Int
  consumedNonceDigests : List JsString := []
  authorizationContext : List (JsString × PlainValue) := []

structure SealedPrincipalCache extends SealedCacheBody where
  cacheSeal : JsString

inductive FallbackError
  | cache_seal_invalid | cache_not_yet_valid | cache_expired | policy_mismatch | checkpoint_mismatch
  | fresh_proof_required | nonce_too_short | nonce_replay
  deriving DecidableEq, Repr

structure FallbackAuthorizationInput where
  cache : SealedPrincipalCache
  sealKey : JsString
  requestedPolicyDigest : JsString
  expectedCheckpointHash : JsString
  challengeNonce : JsString
  proofVerified : Bool

def SealedCacheBody.value (cache : SealedCacheBody) : PlainValue := .obj
  [(JsString.lit "version", .str (JsString.lit "1")),
    (JsString.lit "source", .str cache.source.text),
    (JsString.lit "principalId", .str cache.principalId),
    (JsString.lit "policyDigest", .str cache.policyDigest),
    (JsString.lit "checkpointHash", .str cache.checkpointHash),
    (JsString.lit "issuedAt", .num (.int cache.issuedAt)),
    (JsString.lit "expiresAt", .num (.int cache.expiresAt)),
    (JsString.lit "consumedNonceDigests", .arr (cache.consumedNonceDigests.map .str)),
    (JsString.lit "authorizationContext", .obj cache.authorizationContext)]

section Hashing

variable (S : Sha256) (H : HmacSha256)

def computePermissionsHash (authorizationContext : PlainValue) : Except PrincipalError JsString := do
  return JsString.lit "sha256:" ++ S.hex (← orThrow authorizationContext.canonicalJson .unserializable)

def computeCacheSeal (cache : PlainValue) (sealKey : JsString) : Except PrincipalError JsString := do
  (validateHexSecret sealKey).mapError .core
  (hmac H sealKey (← orThrow cache.canonicalJson .unserializable)).mapError .core

def sealPrincipalCache (cache : SealedCacheBody) (sealKey : JsString) :
    Except PrincipalError SealedPrincipalCache := do
  return { cache with cacheSeal := ← computeCacheSeal H cache.value sealKey }

def verifyFallbackAuthorization (input : FallbackAuthorizationInput) (now : Int) :
    Except PrincipalError (Except FallbackError (CacheSource × List (JsString × PlainValue))) := do
  let expectedSeal ← computeCacheSeal H input.cache.value input.sealKey
  return do
    require (constantTimeEqual input.cache.cacheSeal expectedSeal) .cache_seal_invalid
    require (input.cache.issuedAt ≤ now) .cache_not_yet_valid
    require (now < input.cache.expiresAt) .cache_expired
    require (input.cache.policyDigest = input.requestedPolicyDigest) .policy_mismatch
    require (input.cache.checkpointHash = input.expectedCheckpointHash) .checkpoint_mismatch
    require (input.proofVerified = true) .fresh_proof_required
    require (16 ≤ input.challengeNonce.length) .nonce_too_short
    require (S.hex input.challengeNonce ∉ input.cache.consumedNonceDigests) .nonce_replay
    return (input.cache.source, input.cache.authorizationContext)

end Hashing

section Binding

variable {S : Sha256} {H : HmacSha256} {sealKey : JsString} {v w : PlainValue}

theorem computePermissionsHash_eq (hv : v.Parsed) : computePermissionsHash S v =
    .ok (JsString.lit "sha256:" ++ S.hex (v.written.sorted propertyLe).stringify) := by
  rw [computePermissionsHash, PlainValue.canonicalJson_eq hv]
  rfl

theorem computeCacheSeal_eq (hv : v.Parsed) (hkey : validateHexSecret sealKey = .ok ()) :
    computeCacheSeal H v sealKey =
      .ok (H.digest (bufferFromHex sealKey) (v.written.sorted propertyLe).stringify) := by
  simp only [computeCacheSeal, PlainValue.canonicalJson_eq hv, hmac, hkey]
  rfl

/-- The canonical text of two values, and what is hashed of it, tells them apart up to the order of
members. -/
structure SealBinds (S : Sha256) (H : HmacSha256) (sealKey : JsString) (v w : PlainValue) : Prop where
  text : v.canonicalJson = w.canonicalJson ↔ v.Reordered w
  permissionsHash : computePermissionsHash S v = computePermissionsHash S w ↔ v.Reordered w
  cacheSeal : computeCacheSeal H v sealKey = computeCacheSeal H w sealKey ↔ v.Reordered w

/-- No two of the texts have one digest. -/
def TellsApart (digest : JsString → JsString) (v w : PlainValue) : Prop :=
  ∀ text ∈ v.canonicalJson, ∀ text' ∈ w.canonicalJson, digest text = digest text' → text = text'

theorem permissionsHash_eq_iff (hv : v.Parsed) (hw : w.Parsed) (hsha : TellsApart S.hex v w) :
    computePermissionsHash S v = computePermissionsHash S w ↔ v.canonicalJson = w.canonicalJson := by
  have htexts := hsha _ (PlainValue.canonicalJson_eq hv) _ (PlainValue.canonicalJson_eq hw)
  rw [computePermissionsHash_eq hv, computePermissionsHash_eq hw, PlainValue.canonicalJson_eq hv,
    PlainValue.canonicalJson_eq hw, Except.ok.injEq, Option.some.injEq, List.append_cancel_left_eq]
  exact ⟨htexts, congrArg S.hex⟩

theorem cacheSeal_eq_iff (hv : v.Parsed) (hw : w.Parsed) (hkey : validateHexSecret sealKey = .ok ())
    (hhmac : TellsApart (H.digest (bufferFromHex sealKey)) v w) :
    computeCacheSeal H v sealKey = computeCacheSeal H w sealKey ↔ v.canonicalJson = w.canonicalJson := by
  have htexts := hhmac _ (PlainValue.canonicalJson_eq hv) _ (PlainValue.canonicalJson_eq hw)
  rw [computeCacheSeal_eq hv hkey, computeCacheSeal_eq hw hkey, PlainValue.canonicalJson_eq hv,
    PlainValue.canonicalJson_eq hw, Except.ok.injEq, Option.some.injEq]
  exact ⟨htexts, congrArg _⟩

/-- Where the hashes do not collide, two values are told apart unless they differ in what their
canonical text leaves out alone; of every value that it leaves something out of there is another
with the same text. -/
theorem binds_exact (hv : v.Parsed) (hw : w.Parsed) (hkey : validateHexSecret sealKey = .ok ())
    (hsha : TellsApart S.hex v w) (hhmac : TellsApart (H.digest (bufferFromHex sealKey)) v w) :
    (SealBinds S H sealKey v w ↔ (v.kept.Reordered w.kept → v.Reordered w)) ∧
      (v.Intact → w.Intact → SealBinds S H sealKey v w) ∧
      (¬ v.Intact → v.kept.Parsed ∧ ¬ SealBinds S H sealKey v v.kept) := by
  have hexact : SealBinds S H sealKey v w ↔ (v.kept.Reordered w.kept → v.Reordered w) := by
    have htext := PlainValue.canonicalJson_eq_iff hv hw
    constructor
    · exact fun hbinds hkept => hbinds.text.mp (htext.mpr hkept)
    · intro hkept
      have hiff : v.canonicalJson = w.canonicalJson ↔ v.Reordered w :=
        htext.trans ⟨hkept, PlainValue.Reordered.kept⟩
      exact ⟨hiff, (permissionsHash_eq_iff hv hw hsha).trans hiff,
        (cacheSeal_eq_iff hv hw hkey hhmac).trans hiff⟩
  refine ⟨hexact, fun hv' hw' => ?_, fun hv' => ?_⟩
  · rw [hexact]
    exact fun hkept => (hv'.kept.trans hkept).trans hw'.kept.symm
  · have hparsed := hv.kept
    refine ⟨hparsed, fun hbinds => hv' ?_⟩
    have hkept : v.canonicalJson = v.kept.canonicalJson := by
      rw [PlainValue.canonicalJson_eq_iff hv hparsed, PlainValue.kept, PlainValue.kept,
        PlainValue.written_kept]
      exact .refl _
    exact (hbinds.text.mp hkept).intact.mpr (PlainValue.intact_kept v)

/-- A cache that is accepted under the seal of another agrees with it in all that is kept of them. -/
theorem verifyFallbackAuthorization_binds {body : SealedCacheBody} {sealed : SealedPrincipalCache}
    {input : FallbackAuthorizationInput} {now : Int} {result : CacheSource × List (JsString × PlainValue)}
    (hbody : body.value.Parsed) (hcache : input.cache.value.Parsed)
    (hkey : validateHexSecret input.sealKey = .ok ())
    (hhmac : TellsApart (H.digest (bufferFromHex input.sealKey)) input.cache.value body.value)
    (hsealed : sealPrincipalCache H body input.sealKey = .ok sealed)
    (hseal : input.cache.cacheSeal = sealed.cacheSeal)
    (h : verifyFallbackAuthorization S H input now = .ok (.ok result)) :
    input.cache.value.kept.Reordered body.value.kept := by
  rw [sealPrincipalCache, computeCacheSeal_eq hbody hkey, bind_ok, pure_eq_ok] at hsealed
  obtain rfl := Except.ok.inj hsealed
  rw [verifyFallbackAuthorization, computeCacheSeal_eq hcache hkey, bind_ok, pure_eq_ok] at h
  obtain ⟨_, hequal, -⟩ := bind_eq_ok.mp (Except.ok.inj h)
  rw [require_eq_ok, constantTimeEqual_iff, hseal] at hequal
  have hdigest := JsString.utf8_inj_of_ascii
    (fun c hc => isAscii_of_isBase64Url (H.base64url_digest _ _ c hc))
    (fun c hc => isAscii_of_isBase64Url (H.base64url_digest _ _ c hc)) hequal
  rw [← PlainValue.canonicalJson_eq_iff hcache hbody, ← cacheSeal_eq_iff hcache hbody hkey hhmac,
    computeCacheSeal_eq hcache hkey, computeCacheSeal_eq hbody hkey, hdigest]

end Binding

/-- `JSON.parse('{"role":1,"__proto__":true}')`. -/
def sampleCacheGrant : PlainValue :=
  .obj [(JsString.lit "role", .num (.int 1)), (PROTO, .bool true)]

theorem sampleCacheGrant_parsed : sampleCacheGrant.Parsed := by
  simp [sampleCacheGrant, PlainValue.Parsed, PlainValue.MembersParsed, PROTO, JsString.lit]

theorem sampleCacheGrant_not_intact : ¬ sampleCacheGrant.Intact := by
  simp [sampleCacheGrant, PlainValue.Intact, PlainValue.MembersIntact]

theorem binds_exact_sample : ¬ SealBinds mirrorSha256 mirrorHmac (List.replicate 64 97) sampleCacheGrant sampleCacheGrant.kept :=
  have htext : sampleCacheGrant.canonicalJson = sampleCacheGrant.kept.canonicalJson := by decide
  have hapart (digest : JsString → JsString) : TellsApart digest sampleCacheGrant sampleCacheGrant.kept :=
    fun _ h _ h' _ => Option.some.inj (h.symm.trans (htext.trans h'))
  ((binds_exact sampleCacheGrant_parsed sampleCacheGrant_parsed.kept (by decide) (hapart _) (hapart _)).2.2
    sampleCacheGrant_not_intact).2

theorem canonicalJson_not_injective : ¬ ∀ v w : PlainValue, v.Parsed → w.Parsed →
    (v.canonicalJson = w.canonicalJson ↔ v.Reordered w) := by
  intro h
  have htext : sampleCacheGrant.canonicalJson =
      (PlainValue.obj [(JsString.lit "role", .num (.int 1))]).canonicalJson := by decide
  have hsame := (h sampleCacheGrant (.obj [(JsString.lit "role", .num (.int 1))]) sampleCacheGrant_parsed
    (by simp [PlainValue.Parsed, PlainValue.MembersParsed])).mp htext
  refine sampleCacheGrant_not_intact (hsame.intact.mpr ?_)
  simp [PlainValue.Intact, PlainValue.MembersIntact, PROTO, JsString.lit]

end TskProtocol
