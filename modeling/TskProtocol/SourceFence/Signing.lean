import TskProtocol.Lib.Framing
import TskProtocol.Lib.SignedChain
import TskProtocol.Outbox.Utf8

namespace TskProtocol

def MAX_EPOCH : Nat := 1099511627776
def MAX_SEQ : Nat := 1099511627776
def MAX_MS : Nat := 8640000000000000
def MAX_SKEW_MS : Nat := 3600000

/-- `STREAM_ID_RE` with its bound on the length. -/
def matchesStreamId (n : Nat) (s : JsString) : Bool :=
  1 ≤ s.length && s.length ≤ n && s.all isIdTail

/-- `ID_RE`. -/
def matchesId (s : JsString) : Bool :=
  1 ≤ s.length && s.length ≤ 128 && s.all (fun c => isIdTail c && c ≠ 47)

/-- `KEY_ID_RE`. -/
def matchesKeyId (s : JsString) : Bool :=
  1 ≤ s.length && s.length ≤ 64 && s.all (fun c => isIdTail c && c ≠ 47 && c ≠ 58)

/-- `B64U_CANON`. -/
def matchesBase64Url (s : JsString) : Bool := 1 ≤ s.length && s.all isBase64Url

inductive FenceError
  | outOfRange (label : String) | invalidId (label : String) | invalidDigest (label : String)
  | invalidKeyId | invalidSignatureEncoding | unknownKeyId | invalidSignature
  | grantDigestMismatch | frozenReceiptDigestMismatch | bFinalizedReceiptDigestMismatch
  | history (label : String) | noLease
  -- the source database
  | leaseCommandReused | leaseEpochRegresses | leaseIdentityChanges | leaseEpochRevoked
  | leaseSeqNotNext | leasePrevNotHead | leaseNotActive | leaseEpochMismatch | leaseElapsed
  | leaseHolderMismatch | leaseIdMismatch | leaseGrantMismatch
  | freezeEpochMismatch | freezeNotRevoked | freezeHolderMismatch | freezeNoCheckpoint
  | constraintViolation | noAffectedRow
  -- the activation of a finalized receiver
  | activationBinding | targetSystemMismatch | ledgerImport | targetFenceAhead
  -- the external witness
  | checkpointReceiptDigestMismatch | witnessSystemChanged | witnessGrantRegresses
  | witnessHeightRegresses | witnessPriorSeq | witnessPriorHead
  -- the signed ledger of the outbox
  | contract (e : ContractError) | ledgerSequence | ledgerSourceEpoch | ledgerAlg | ledgerLink
  | ledgerGap | checkpointDiverges | checkpointAtGenesis | witnessedHeightAhead | witnessedRowMissing
  -- the export and its replay
  | frameTooLong | exportEmpty | exportGap | exportSequence | exportSourceEpoch | payloadNotJson
  | payloadRefused | payloadNotCanonical | opDigestMismatch | stateCount | statePair | chunkDigest
  | inventory (label : String) | manifest (label : String)
  -- the receiver's generations
  | staging (label : String) | notDistinct | otherGeneration
  deriving DecidableEq, Repr

/-- `vInt` of a non-negative integer; everything else it is given is refused. -/
def vInt (v : Nat) (label : String) (min max : Nat) : Except FenceError Nat := do
  require (min ≤ v ∧ v ≤ max) (.outOfRange label)
  return v

def vId (v : JsString) (re : JsString → Bool) (label : String) : Except FenceError JsString := do
  require (re v) (.invalidId label)
  return v

def vNullableDigest (v : Option JsString) (label : String) : Except FenceError (Option JsString) := do
  require (∀ digest ∈ v, matchesHex64 digest) (.invalidDigest label)
  return v

@[simp] theorem vInt_eq_ok {v w min max : Nat} {label : String} :
    vInt v label min max = .ok w ↔ (min ≤ v ∧ v ≤ max) ∧ v = w := by
  simp [vInt, bind_eq_ok]

@[simp] theorem vId_eq_ok {v w : JsString} {re : JsString → Bool} {label : String} :
    vId v re label = .ok w ↔ re v = true ∧ v = w := by
  simp [vId, bind_eq_ok]

@[simp] theorem vNullableDigest_eq_ok {v w : Option JsString} {label : String} :
    vNullableDigest v label = .ok w ↔ (∀ digest ∈ v, matchesHex64 digest = true) ∧ v = w := by
  simp [vNullableDigest, bind_eq_ok]

/-- What a reader of rows finds wrong, as an error of the source. -/
def chainCheck (label : String) (x : Except ChainFault Unit) : Except FenceError Unit :=
  match x with
  | .error _ => .error (.history label)
  | .ok () => .ok ()

@[simp] theorem chainCheck_eq_ok {label : String} {x : Except ChainFault Unit} {u : Unit} :
    chainCheck label x = .ok u ↔ x = .ok () := by
  cases x <;> simp [chainCheck]

theorem isAscii_of_isIdTail {c : UInt16} (h : isIdTail c = true) : JsString.isAscii c = true := by
  simp only [isIdTail, isIdHead, Bool.or_eq_true, Bool.and_eq_true, decide_eq_true_eq,
    UInt16.le_iff_toNat_le] at h
  simp only [JsString.isAscii, decide_eq_true_eq, UInt16.lt_iff_toNat_lt]
  rcases h with ((((((h | h) | h) | rfl) | rfl) | rfl) | rfl) | rfl
  all_goals simp at *; try omega

theorem ascii_of_matchesId {s : JsString} (h : matchesId s = true) :
    ∀ c ∈ s, JsString.isAscii c = true := by
  simp only [matchesId, Bool.and_eq_true, List.all_eq_true] at h
  exact fun c hc => isAscii_of_isIdTail (h.2 c hc).1

theorem ascii_of_matchesStreamId {n : Nat} {s : JsString} (h : matchesStreamId n s = true) :
    ∀ c ∈ s, JsString.isAscii c = true := by
  simp only [matchesStreamId, Bool.and_eq_true, List.all_eq_true] at h
  exact fun c hc => isAscii_of_isIdTail (h.2 c hc)

/-- Every key id is an id. -/
theorem matchesId_of_matchesKeyId {s : JsString} (h : matchesKeyId s = true) :
    matchesId s = true := by
  simp only [matchesKeyId, matchesId, Bool.and_eq_true, decide_eq_true_eq, List.all_eq_true] at h ⊢
  exact ⟨⟨h.1.1, by omega⟩, fun c hc => (h.2 c hc).1⟩

/-- `frame(...parts)`; a number stands as its decimal text. -/
def frame (parts : List (Option JsString)) : List UInt8 :=
  Framing.encode (parts.map (fun part => part.map JsString.utf8))

/-- A numeric part of a frame. -/
def num (n : Nat) : Option JsString := some (JsString.ofNat n)

/-- ASCII text whose length fits a frame. -/
structure Plain (s : JsString) : Prop where
  ascii : ∀ c ∈ s, JsString.isAscii c = true
  length : s.length < 4294967296

theorem plain_nil : Plain [] := ⟨by simp, by simp⟩

/-- What a literal is checked by. -/
theorem plain_of_all {s : JsString}
    (h : (s.all JsString.isAscii && s.length < 4294967296) = true) : Plain s := by
  simp only [Bool.and_eq_true, decide_eq_true_eq, List.all_eq_true] at h
  exact ⟨h.1, h.2⟩

theorem plain_of_matchesId {s : JsString} (h : matchesId s = true) : Plain s := by
  refine ⟨ascii_of_matchesId h, ?_⟩
  simp only [matchesId, Bool.and_eq_true, decide_eq_true_eq] at h
  omega

theorem plain_of_matchesStreamId {n : Nat} {s : JsString} (h : matchesStreamId n s = true)
    (hn : n < 4294967296) : Plain s := by
  refine ⟨ascii_of_matchesStreamId h, ?_⟩
  simp only [matchesStreamId, Bool.and_eq_true, decide_eq_true_eq] at h
  omega

theorem plain_of_matchesHex64 {s : JsString} (h : matchesHex64 s = true) : Plain s := by
  simp only [matchesHex64, Bool.and_eq_true, decide_eq_true_eq, List.all_eq_true] at h
  refine ⟨fun c hc => ?_, by omega⟩
  have hhex := h.2 c hc
  simp only [isLowerHexDigit, Bool.or_eq_true, Bool.and_eq_true, decide_eq_true_eq,
    UInt16.le_iff_toNat_le] at hhex
  simp only [JsString.isAscii, decide_eq_true_eq, UInt16.lt_iff_toNat_lt]
  simp at hhex ⊢
  omega

theorem plain_ofNat {n : Nat} (h : n < 10000000000000000) : Plain (JsString.ofNat n) where
  ascii _ := JsString.isAscii_of_mem_ofNat
  length := (JsString.length_ofNat_le (by decide : 0 < 16) h).trans_lt (by decide)

theorem num_inj {m n : Nat} : num m = num n ↔ m = n :=
  ⟨fun h => JsString.ofNat_injective (Option.some.inj h), fun h => h ▸ rfl⟩

/-- Text that its encoding determines, and whose length fits a frame. -/
structure FrameText (s : JsString) : Prop where
  wellFormed : s.WellFormed
  length : s.utf8.length < 4294967296

theorem Plain.frameText {s : JsString} (h : Plain s) : FrameText s := by
  refine ⟨.of_ascii h.ascii, ?_⟩
  rw [JsString.utf8_ascii h.ascii, List.length_map]
  exact h.length

/-- The parts of a frame can be read back. -/
theorem frame_injective_of_text {xs ys : List (Option JsString)} (hxs : ∀ x ∈ xs, ∀ s ∈ x, FrameText s)
    (hys : ∀ y ∈ ys, ∀ s ∈ y, FrameText s) (h : frame xs = frame ys) : xs = ys := by
  have hshort : ∀ zs : List (Option JsString), (∀ z ∈ zs, ∀ s ∈ z, FrameText s) →
      ∀ f ∈ zs.map (fun part => part.map JsString.utf8), Framing.Short f := by
    intro zs hzs f hf bytes hbytes
    obtain ⟨z, hz, rfl⟩ := List.mem_map.mp hf
    obtain ⟨s, hs, rfl⟩ := Option.map_eq_some_iff.mp hbytes
    exact (hzs z hz s hs).length
  have hmap := Framing.encode_injective (hshort xs hxs) (hshort ys hys) h
  clear h
  induction xs generalizing ys with
  | nil =>
    symm
    simpa using hmap
  | cons x xs ih =>
    cases ys with
    | nil => simp at hmap
    | cons y ys =>
      obtain ⟨hhead, htail⟩ := List.cons.inj hmap
      have hxy : x = y := by
        cases x <;> cases y <;> simp at hhead ⊢
        exact JsString.utf8_injective (hxs _ List.mem_cons_self _ rfl).wellFormed
          (hys _ List.mem_cons_self _ rfl).wellFormed hhead
      rw [hxy, ih (fun z hz => hxs z (List.mem_cons_of_mem x hz))
        (fun z hz => hys z (List.mem_cons_of_mem y hz)) htail]

theorem frame_injective {xs ys : List (Option JsString)} (hxs : ∀ x ∈ xs, ∀ s ∈ x, Plain s)
    (hys : ∀ y ∈ ys, ∀ s ∈ y, Plain s) (h : frame xs = frame ys) : xs = ys :=
  frame_injective_of_text (fun x hx s hs => (hxs x hx s hs).frameText)
    (fun y hy s hs => (hys y hy s hs).frameText) h

/-- The platform's Ed25519; signatures stand in `base64url`. -/
structure Ed25519 where
  PrivateKey : Type
  PublicKey : Type
  publicKey : PrivateKey → PublicKey
  sign : PrivateKey → List UInt8 → JsString
  verify : PublicKey → List UInt8 → JsString → Bool
  base64url_sign : ∀ key msg, matchesBase64Url (sign key msg) = true
  verify_sign : ∀ key msg, verify (publicKey key) msg (sign key msg) = true

abbrev SourceVerifyKeyResolver (E : Ed25519) := JsString → Option E.PublicKey

def withKey (domain : String) (keyId : JsString) (msg : List UInt8) : List UInt8 :=
  frame [some (JsString.lit domain), some keyId] ++ msg

def edSignB64u (E : Ed25519) (keyId : JsString) (privateKey : E.PrivateKey) (msg : List UInt8) :
    Except FenceError JsString := do
  require (matchesKeyId keyId) .invalidKeyId
  return E.sign privateKey (withKey "tsk_src_key" keyId msg)

def verifySig (E : Ed25519) (resolver : SourceVerifyKeyResolver E) (keyId : JsString)
    (msg : List UInt8) (signature : JsString) : Except FenceError Unit := do
  require (matchesKeyId keyId) .invalidKeyId
  require (matchesBase64Url signature) .invalidSignatureEncoding
  let pub ← orThrow (resolver keyId) .unknownKeyId
  require (E.verify pub (withKey "tsk_src_key" keyId msg) signature) .invalidSignature

/-- A signature verifies wherever its key is known. -/
theorem verifySig_of_sign {E : Ed25519} {resolver : SourceVerifyKeyResolver E}
    {keyId signature : JsString} {privateKey : E.PrivateKey} {msg : List UInt8}
    (h : edSignB64u E keyId privateKey msg = .ok signature)
    (hresolve : resolver keyId = some (E.publicKey privateKey)) :
    verifySig E resolver keyId msg signature = .ok () := by
  simp only [edSignB64u, bind_eq_ok, require_eq_ok, pure_eq_ok] at h
  obtain ⟨_, hkey, hsign⟩ := h
  cases hsign
  simp [verifySig, bind_eq_ok, hkey, hresolve, E.base64url_sign, E.verify_sign]

/-- A stand-in on concrete data: a key signs with a checksum of itself and the message. -/
def sampleEd25519 : Ed25519 where
  PrivateKey := List UInt8
  PublicKey := List UInt8
  publicKey key := key
  sign key msg := rollingSha256.hex (key ++ msg)
  verify key msg signature := signature = rollingSha256.hex (key ++ msg)
  base64url_sign key msg := by
    have hlen := rollingSha256.length_hex (key ++ msg)
    simp only [matchesBase64Url, hlen, Bool.and_eq_true, List.all_eq_true]
    refine ⟨by decide, fun c hc => ?_⟩
    have hhex := rollingSha256.lower_hex (key ++ msg) c hc
    simp only [isLowerHexDigit, isBase64Url, Bool.or_eq_true, Bool.and_eq_true,
      decide_eq_true_eq, UInt16.le_iff_toNat_le] at hhex ⊢
    simp at hhex ⊢
    omega
  verify_sign key msg := by simp

end TskProtocol
