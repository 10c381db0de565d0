import TskProtocol.SourceFence.Signing

namespace TskProtocol

inductive LeaseStatus
  | active | revoked
  deriving DecidableEq, Repr

def LeaseStatus.text : LeaseStatus → JsString
  | .active => JsString.lit "active"
  | .revoked => JsString.lit "revoked"

structure BareLeaseGrant where
  streamId : JsString
  leaseEpoch : Nat
  leaseStatus : LeaseStatus
  holderNodeId : JsString
  leaseId : JsString
  commandId : JsString
  leaseExpiresAtMs : Nat
  leaseGrantSeq : Nat
  prevGrantDigest : Option JsString
  deriving DecidableEq, Repr

structure LeaseGrant extends BareLeaseGrant where
  grantDigest : JsString
  guardKeyId : JsString
  guardSignature : JsString
  deriving DecidableEq, Repr

/-- The digest is empty while it is being computed. -/
def leaseGrantMsg (g : BareLeaseGrant) (digest : JsString) : List UInt8 :=
  frame [some (JsString.lit "tsk_source_lease/v1"), some g.streamId, num g.leaseEpoch,
    some g.leaseStatus.text, some g.holderNodeId, some g.leaseId, some g.commandId,
    num g.leaseExpiresAtMs, num g.leaseGrantSeq, g.prevGrantDigest, some digest]

def grantDigestOf (D : Sha256Bytes) (g : BareLeaseGrant) : JsString := D.hex (leaseGrantMsg g [])

/-- The grammar and the bounds that signing and verifying share. -/
def checkLeaseGrant (g : BareLeaseGrant) : Except FenceError Unit := do
  let _ ← vId g.streamId (matchesStreamId 512) "streamId"
  let _ ← vId g.holderNodeId matchesId "holderNodeId"
  let _ ← vId g.leaseId matchesId "leaseId"
  let _ ← vId g.commandId matchesId "commandId"
  let _ ← vInt g.leaseEpoch "leaseEpoch" 0 MAX_EPOCH
  let _ ← vInt g.leaseGrantSeq "leaseGrantSeq" 1 MAX_SEQ
  let _ ← vInt g.leaseExpiresAtMs "leaseExpiresAtMs" 0 MAX_MS
  let _ ← vNullableDigest g.prevGrantDigest "prevGrantDigest"

structure BareLeaseGrant.Conformant (g : BareLeaseGrant) : Prop where
  streamId : matchesStreamId 512 g.streamId = true
  holderNodeId : matchesId g.holderNodeId = true
  leaseId : matchesId g.leaseId = true
  commandId : matchesId g.commandId = true
  leaseEpoch : g.leaseEpoch ≤ MAX_EPOCH
  leaseGrantSeq : 1 ≤ g.leaseGrantSeq ∧ g.leaseGrantSeq ≤ MAX_SEQ
  leaseExpiresAtMs : g.leaseExpiresAtMs ≤ MAX_MS
  prevGrantDigest : ∀ digest ∈ g.prevGrantDigest, matchesHex64 digest = true

theorem checkLeaseGrant_eq_ok {g : BareLeaseGrant} {u : Unit} :
    checkLeaseGrant g = .ok u ↔ g.Conformant := by
  simp only [checkLeaseGrant, bind_eq_ok, vId_eq_ok, vInt_eq_ok, vNullableDigest_eq_ok, pure_eq_ok]
  constructor
  · rintro ⟨_, ⟨h1, -⟩, _, ⟨h2, -⟩, _, ⟨h3, -⟩, _, ⟨h4, -⟩, _, ⟨⟨-, h5⟩, -⟩, _, ⟨h6, -⟩, _,
      ⟨⟨-, h7⟩, -⟩, _, ⟨h8, -⟩, -⟩
    exact ⟨h1, h2, h3, h4, h5, h6, h7, h8⟩
  · intro h
    exact ⟨_, ⟨h.streamId, rfl⟩, _, ⟨h.holderNodeId, rfl⟩, _, ⟨h.leaseId, rfl⟩, _,
      ⟨h.commandId, rfl⟩, _, ⟨⟨Nat.zero_le _, h.leaseEpoch⟩, rfl⟩, _, ⟨h.leaseGrantSeq, rfl⟩, _,
      ⟨⟨Nat.zero_le _, h.leaseExpiresAtMs⟩, rfl⟩, _, ⟨h.prevGrantDigest, rfl⟩, trivial⟩

theorem LeaseStatus.text_inj {a b : LeaseStatus} (h : a.text = b.text) : a = b := by
  cases a <;> cases b <;> first | rfl | exact absurd h (by decide)

/-- The message of a conformant grant leaves nothing out of it. -/
theorem leaseGrantMsg_injective {a b : BareLeaseGrant} (ha : a.Conformant) (hb : b.Conformant)
    (h : leaseGrantMsg a [] = leaseGrantMsg b []) : a = b := by
  have hplain : ∀ g : BareLeaseGrant, g.Conformant → ∀ x ∈ [some (JsString.lit "tsk_source_lease/v1"),
      some g.streamId, num g.leaseEpoch, some g.leaseStatus.text, some g.holderNodeId, some g.leaseId,
      some g.commandId, num g.leaseExpiresAtMs, num g.leaseGrantSeq, g.prevGrantDigest, some []],
      ∀ s ∈ x, Plain s := by
    intro g hg
    have hstatus : Plain g.leaseStatus.text := by
      cases g.leaseStatus <;> exact plain_of_all (by decide)
    have hnum : ∀ n, n ≤ MAX_MS → ∀ s ∈ num n, Plain s := by
      intro n hn s hs
      rw [← Option.some.inj hs]
      exact plain_ofNat (hn.trans_lt (by decide))
    simp only [List.forall_mem_cons, Option.mem_some_iff, forall_eq', List.not_mem_nil, false_imp_iff,
      implies_true, and_true]
    exact ⟨plain_of_all (by decide), plain_of_matchesStreamId hg.streamId (by decide),
      hnum _ (hg.leaseEpoch.trans (by decide)), hstatus, plain_of_matchesId hg.holderNodeId,
      plain_of_matchesId hg.leaseId, plain_of_matchesId hg.commandId, hnum _ hg.leaseExpiresAtMs,
      hnum _ (hg.leaseGrantSeq.2.trans (by decide)),
      fun digest hdigest => plain_of_matchesHex64 (hg.prevGrantDigest digest hdigest), plain_nil⟩
  have hparts := frame_injective (hplain a ha) (hplain b hb) h
  simp only [List.cons.injEq, Option.some.injEq, num_inj, and_true, true_and] at hparts
  obtain ⟨h1, h2, h3, h4, h5, h6, h7, h8, h9⟩ := hparts
  cases a
  cases b
  rw [BareLeaseGrant.mk.injEq]
  exact ⟨h1, h2, LeaseStatus.text_inj h3, h4, h5, h6, h7, h8, h9⟩

def signLeaseGrant (E : Ed25519) (D : Sha256Bytes) (guardKeyId : JsString)
    (guardPrivateKey : E.PrivateKey) (bare : BareLeaseGrant) : Except FenceError LeaseGrant := do
  require (matchesKeyId guardKeyId) .invalidKeyId
  checkLeaseGrant bare
  let digest := grantDigestOf D bare
  let signature ← edSignB64u E guardKeyId guardPrivateKey (leaseGrantMsg bare digest)
  return { bare with grantDigest := digest, guardKeyId, guardSignature := signature }

def verifyLeaseGrant (E : Ed25519) (D : Sha256Bytes) (resolver : SourceVerifyKeyResolver E)
    (g : LeaseGrant) : Except FenceError Unit := do
  checkLeaseGrant g.toBareLeaseGrant
  require (grantDigestOf D g.toBareLeaseGrant = g.grantDigest) .grantDigestMismatch
  verifySig E resolver g.guardKeyId (leaseGrantMsg g.toBareLeaseGrant g.grantDigest)
    g.guardSignature

variable {E : Ed25519} {D : Sha256Bytes} {resolver : SourceVerifyKeyResolver E}

/-- What is known of a grant that verifies. -/
theorem verifyLeaseGrant_ok {g : LeaseGrant} (h : verifyLeaseGrant E D resolver g = .ok ()) :
    g.Conformant ∧ grantDigestOf D g.toBareLeaseGrant = g.grantDigest := by
  simp only [verifyLeaseGrant, bind_eq_ok, checkLeaseGrant_eq_ok, require_eq_ok] at h
  obtain ⟨_, hconf, _, hdigest, -⟩ := h
  exact ⟨hconf, hdigest⟩

theorem signLeaseGrant_ok {kid : JsString} {key : E.PrivateKey} {bare : BareLeaseGrant}
    {g : LeaseGrant} (h : signLeaseGrant E D kid key bare = .ok g) :
    bare.Conformant ∧ g.toBareLeaseGrant = bare ∧ g.guardKeyId = kid ∧
      g.grantDigest = grantDigestOf D bare := by
  simp only [signLeaseGrant, bind_eq_ok, require_eq_ok, checkLeaseGrant_eq_ok, pure_eq_ok] at h
  obtain ⟨_, -, _, hconf, signature, -, hg⟩ := h
  cases hg
  exact ⟨hconf, rfl, rfl, rfl⟩

/-- A grant verifies wherever the key of its guard is known. -/
theorem verifyLeaseGrant_of_sign {kid : JsString} {key : E.PrivateKey} {bare : BareLeaseGrant}
    {g : LeaseGrant} (h : signLeaseGrant E D kid key bare = .ok g)
    (hresolve : resolver kid = some (E.publicKey key)) :
    verifyLeaseGrant E D resolver g = .ok () := by
  simp only [signLeaseGrant, bind_eq_ok, require_eq_ok, checkLeaseGrant_eq_ok, pure_eq_ok] at h
  obtain ⟨_, -, _, hconf, signature, hsign, hg⟩ := h
  cases hg
  simp only [verifyLeaseGrant, bind_eq_ok, checkLeaseGrant_eq_ok, require_eq_ok]
  exact ⟨(), hconf, (), trivial, verifySig_of_sign hsign hresolve⟩

/-- A guard signs whatever conforms. -/
theorem signLeaseGrant_of_conformant (E : Ed25519) (D : Sha256Bytes) {kid : JsString}
    (key : E.PrivateKey) {bare : BareLeaseGrant} (hkey : matchesKeyId kid = true)
    (hconf : bare.Conformant) :
    ∃ g, signLeaseGrant E D kid key bare = .ok g ∧ g.toBareLeaseGrant = bare := by
  have hcheck := (checkLeaseGrant_eq_ok (u := ())).mpr hconf
  refine ⟨{ bare with
    grantDigest := grantDigestOf D bare
    guardKeyId := kid
    guardSignature :=
      E.sign key (withKey "tsk_src_key" kid (leaseGrantMsg bare (grantDigestOf D bare))) }, ?_, rfl⟩
  simp [signLeaseGrant, hcheck, edSignB64u, hkey, require]

/-- Signed by the key that `k` names. -/
def sampleGuardGrant (bare : BareLeaseGrant) : LeaseGrant :=
  let digest := grantDigestOf rollingSha256 bare
  { bare with
    grantDigest := digest
    guardKeyId := JsString.lit "k"
    guardSignature := rollingSha256.hex ([3] ++
      withKey "tsk_src_key" (JsString.lit "k") (leaseGrantMsg bare digest)) }

structure SourceFrozenReceipt where
  streamId : JsString
  commandId : JsString
  epoch : Nat
  n : Nat
  signedHeadDigestAtN : JsString
  sourceStateDigestAtN : JsString
  sourceNodeId : JsString
  revokeCommandId : JsString
  leaseId : JsString
  leaseGrantDigest : JsString
  receiptDigest : JsString
  sourceKeyId : JsString
  sourceSignature : JsString
  deriving DecidableEq, Repr

def frozenReceiptMsg (r : SourceFrozenReceipt) (digest : JsString) : List UInt8 :=
  frame [some (JsString.lit "tsk_source_frozen/v2"), some r.streamId, some r.commandId, num r.epoch,
    num r.n, some r.signedHeadDigestAtN, some r.sourceStateDigestAtN, some r.sourceNodeId,
    some r.revokeCommandId, some r.leaseId, some r.leaseGrantDigest, some digest]

def verifySourceFrozenReceipt (E : Ed25519) (D : Sha256Bytes) (resolver : SourceVerifyKeyResolver E)
    (r : SourceFrozenReceipt) : Except FenceError Unit := do
  require (D.hex (frozenReceiptMsg r []) = r.receiptDigest) .frozenReceiptDigestMismatch
  verifySig E resolver r.sourceKeyId (frozenReceiptMsg r r.receiptDigest) r.sourceSignature

structure BFinalizedReceipt where
  streamId : JsString
  commandId : JsString
  epoch : Nat
  sourceEpoch : JsString
  n : Nat
  generationId : JsString
  frozenReceiptDigest : JsString
  manifestDigest : JsString
  manifestRoot : JsString
  sourceSystemId : JsString
  sourceKeyId : JsString
  sourceSignature : JsString
  guardKeyId : JsString
  guardSignature : JsString
  signedHeadDigestAtN : JsString
  sourceStateDigestAtN : JsString
  bSystemId : JsString
  receiptDigest : JsString
  bKeyId : JsString
  bSignature : JsString
  deriving DecidableEq, Repr

def bFinalizedMsg (r : BFinalizedReceipt) (digest : JsString) : List UInt8 :=
  frame [some (JsString.lit "tsk_b_finalized/v2"), some r.streamId, some r.commandId, num r.epoch,
    some r.sourceEpoch, num r.n, some r.generationId, some r.frozenReceiptDigest,
    some r.manifestDigest, some r.manifestRoot, some r.sourceSystemId, some r.sourceKeyId,
    some r.sourceSignature, some r.guardKeyId, some r.guardSignature, some r.signedHeadDigestAtN,
    some r.sourceStateDigestAtN, some r.bSystemId, some digest]

def verifyBFinalizedReceipt (E : Ed25519) (D : Sha256Bytes) (resolver : SourceVerifyKeyResolver E)
    (r : BFinalizedReceipt) : Except FenceError Unit := do
  require (D.hex (bFinalizedMsg r []) = r.receiptDigest) .bFinalizedReceiptDigestMismatch
  verifySig E resolver r.bKeyId (bFinalizedMsg r r.receiptDigest) r.bSignature

theorem matchesHex64_hex (D : Sha256Bytes) (data : List UInt8) : matchesHex64 (D.hex data) = true := by
  simp only [matchesHex64, Bool.and_eq_true, decide_eq_true_eq, List.all_eq_true]
  exact ⟨D.length_hex data, D.lower_hex data⟩

theorem matchesHex64_of_verifyBFinalizedReceipt {r : BFinalizedReceipt}
    (h : verifyBFinalizedReceipt E D resolver r = .ok ()) : matchesHex64 r.receiptDigest = true := by
  simp only [verifyBFinalizedReceipt, bind_eq_ok, require_eq_ok] at h
  obtain ⟨_, hdigest, -⟩ := h
  rw [← hdigest, matchesHex64_hex]

theorem matchesKeyId_of_verifyBFinalizedReceipt {r : BFinalizedReceipt}
    (h : verifyBFinalizedReceipt E D resolver r = .ok ()) : matchesKeyId r.bKeyId = true := by
  simp only [verifyBFinalizedReceipt, verifySig, bind_eq_ok, require_eq_ok] at h
  exact h.choose_spec.2.choose_spec.1

end TskProtocol
