import TskProtocol.Outbox.CanonicalValues
import TskProtocol.Outbox.Exchange
import TskProtocol.SourceFence.Bundle

namespace TskProtocol

open JsString

/-- What `canonicalOpDigest` takes, with the objects that the mutation refers to. -/
structure OpInput where
  streamId : JsString
  sourceEpoch : JsString
  sequence : Int
  fenceToken : JsString
  heap : JsHeap
  mutation : JsValue

/-- What `epochTransitionDigest` takes. -/
structure EpochTransitionInput where
  streamId : JsString
  fromEpoch : JsString
  fromEpochIndex : Int
  toEpoch : JsString
  toEpochIndex : Int
  snapshotSequence : Int
  snapshotDigest : JsString
  fenceToken : JsString
  deriving DecidableEq

/-- What `streamHeadDigest` takes. -/
structure StreamHeadInput where
  streamId : JsString
  sequence : Int
  prevHeadDigest : JsString
  opDigest : JsString
  keyId : JsString
  alg : JsString
  deriving DecidableEq

inductive DigestError
  | contract (e : ContractError)
  | canonicalization (e : CanonicalizationError)
  | sameEpoch | invalidFromEpochIndex | skippedEpoch | invalidSnapshotSequence | invalidSnapshotDigest
  deriving DecidableEq, Repr

namespace OpInput

def fields (o : OpInput) : Except DigestError (List JsString) := do
  (assertId o.streamId).mapError .contract
  (assertId o.sourceEpoch).mapError .contract
  (assertSequence o.sequence).mapError .contract
  (assertFenceToken o.fenceToken).mapError .contract
  let canonical ← (o.heap.canonicalize o.mutation).mapError .canonicalization
  return [HA_OUTBOX_DIGEST_DOMAIN, HA_OUTBOX_CONTRACT_VERSION, o.streamId, o.sourceEpoch, JsString.ofInt o.sequence,
    o.fenceToken, canonical]

end OpInput

namespace EpochTransitionInput

def fields (t : EpochTransitionInput) : Except DigestError (List JsString) := do
  (assertId t.streamId).mapError .contract
  (assertId t.fromEpoch).mapError .contract
  (assertId t.toEpoch).mapError .contract
  require (t.fromEpoch ≠ t.toEpoch) .sameEpoch
  require (isSafeInteger t.fromEpochIndex ∧ 0 ≤ t.fromEpochIndex) .invalidFromEpochIndex
  require (t.toEpochIndex = t.fromEpochIndex + 1) .skippedEpoch
  require (isSafeInteger t.snapshotSequence ∧ 0 ≤ t.snapshotSequence) .invalidSnapshotSequence
  require (matchesHex64 t.snapshotDigest) .invalidSnapshotDigest
  (assertFenceToken t.fenceToken).mapError .contract
  return [HA_OUTBOX_DIGEST_DOMAIN ++ JsString.lit "/epoch-transition", HA_OUTBOX_CONTRACT_VERSION, t.streamId,
    t.fromEpoch, JsString.ofInt t.fromEpochIndex, t.toEpoch, JsString.ofInt t.toEpochIndex,
    JsString.ofInt t.snapshotSequence, t.snapshotDigest, t.fenceToken]

end EpochTransitionInput

namespace StreamHeadInput

def fields (h : StreamHeadInput) : Except DigestError (List JsString) := do
  (assertId h.streamId).mapError .contract
  (assertSequence h.sequence).mapError .contract
  require (matchesHex64 h.prevHeadDigest) (.contract .invalidPrevHeadDigest)
  require (matchesHex64 h.opDigest) (.contract .invalidOpDigest)
  require (matchesIdPattern h.keyId) (.contract .invalidKeyId)
  require (h.alg ∈ STREAM_HEAD_ALGS) (.contract .unknownAlg)
  return [HA_OUTBOX_DIGEST_DOMAIN ++ JsString.lit "/tsk-stream-head", HA_OUTBOX_CONTRACT_VERSION, h.streamId,
    JsString.ofInt h.sequence, h.prevHeadDigest, h.opDigest, h.keyId, h.alg]

end StreamHeadInput

/-- One call of a digest function. -/
inductive DigestInput
  | op (o : OpInput)
  | transition (t : EpochTransitionInput)
  | head (h : StreamHeadInput)

namespace DigestInput

def fields : DigestInput → Except DigestError (List JsString)
  | .op o => o.fields
  | .transition t => t.fields
  | .head h => h.fields

/-- The bytes that the hash is fed with. -/
def preimage (x : DigestInput) : Except DigestError (List UInt8) := x.fields.map framed

/-- The result of the call. -/
def digest (D : Sha256Bytes) (x : DigestInput) : Except DigestError JsString := x.preimage.map D.hex

/-- The same function with the same fields; payloads are compared as JSON values. -/
inductive Same : DigestInput → DigestInput → Prop
  | op {o o' : OpInput} (streamId : o.streamId = o'.streamId) (sourceEpoch : o.sourceEpoch = o'.sourceEpoch)
      (sequence : o.sequence = o'.sequence) (fenceToken : o.fenceToken = o'.fenceToken) (value : Json)
      (mutation : value.IsOf JsObject.Reads o.heap o.mutation)
      (mutation' : value.IsOf JsObject.Reads o'.heap o'.mutation) : Same (.op o) (.op o')
  | transition (t : EpochTransitionInput) : Same (.transition t) (.transition t)
  | head (h : StreamHeadInput) : Same (.head h) (.head h)

end DigestInput

/-- Text that a frame keeps apart from all other such text. -/
structure Framable (s : JsString) : Prop where
  fits : Fits s
  wellFormed : s.WellFormed

section Framable

theorem framed_injective {fields fields' : List JsString} (h : ∀ s ∈ fields, Framable s)
    (h' : ∀ s ∈ fields', Framable s) (heq : framed fields = framed fields') : fields = fields' := by
  have hutf8 := framed_inj (fun s hs => (h s hs).fits) (fun s hs => (h' s hs).fits) heq
  clear heq
  induction fields generalizing fields' with
  | nil => exact (List.map_eq_nil_iff.mp hutf8.symm).symm
  | cons s fields ih =>
    cases fields' with
    | nil => cases hutf8
    | cons s' fields' =>
      rw [List.forall_mem_cons] at h h'
      rw [List.map_cons, List.map_cons, List.cons.injEq] at hutf8
      rw [utf8_injective h.1.wellFormed h'.1.wellFormed hutf8.1, ih h.2 h'.2 hutf8.2]

theorem framable_of_length {s : JsString} (h : s.length < MAX_STRING_LENGTH) (hs : s.WellFormed) : Framable s :=
  ⟨.of_length h, hs⟩

theorem framable_id {s : JsString} (h : matchesIdPattern s = true) : Framable s := by
  refine framable_of_length ?_ (wellFormed_of_idPattern h)
  cases s with
  | nil => decide
  | cons c rest =>
    simp only [matchesIdPattern, Bool.and_eq_true, decide_eq_true_eq] at h
    rw [List.length_cons, MAX_STRING_LENGTH]
    omega

theorem framable_fenceToken {s : JsString} (h : matchesFenceTokenPattern s = true) : Framable s := by
  refine framable_of_length ?_ (wellFormed_of_fenceToken h)
  cases s with
  | nil => decide
  | cons c rest =>
    simp only [matchesFenceTokenPattern, Bool.or_eq_true, Bool.and_eq_true, decide_eq_true_eq] at h
    rw [List.length_cons, MAX_STRING_LENGTH]
    rcases h with ⟨-, rfl⟩ | ⟨⟨-, hlength⟩, -⟩
    · decide
    · omega

theorem framable_hex64 {s : JsString} (h : matchesHex64 s = true) : Framable s := by
  refine framable_of_length ?_ (wellFormed_of_hex64 h)
  simp only [matchesHex64, Bool.and_eq_true, decide_eq_true_eq] at h
  rw [h.1]
  decide

theorem framable_ofInt {n : Int} (hn : 0 ≤ n) (hle : n ≤ MAX_SAFE_INTEGER + 1) : Framable (ofInt n) := by
  refine framable_of_length ?_ (wellFormed_ofInt n)
  obtain ⟨k, rfl⟩ := Int.eq_ofNat_of_zero_le hn
  rw [MAX_SAFE_INTEGER] at hle
  have hlength : (ofNat k).length ≤ 16 := length_ofNat_le (by decide) (by norm_num; omega)
  rw [MAX_STRING_LENGTH]
  exact Nat.lt_of_le_of_lt hlength (by decide)

theorem framable_lit {s : JsString} (h : (s.all isAscii && s.length < 1000) = true) : Framable s := by
  rw [Bool.and_eq_true, decide_eq_true_eq] at h
  refine framable_of_length ?_ (.of_all_ascii h.1)
  rw [MAX_STRING_LENGTH]
  omega

theorem framable_canonicalize {heap : JsHeap} {v : JsValue} {text : JsString} (h : heap.canonicalize v = .ok text) :
    Framable text := by
  obtain ⟨value, -, hbounds, rfl⟩ := canonicalize_eq_ok.mp h
  have hle := hbounds.bytes_le
  refine ⟨?_, Json.wellFormed_stringify value⟩
  rw [CANON_MAX_TOTAL_BYTES] at hle
  rw [Fits]
  omega

end Framable

section Fields

theorem OpInput.fields_eq_ok {o : OpInput} {fields : List JsString} : o.fields = .ok fields ↔
    matchesIdPattern o.streamId = true ∧ matchesIdPattern o.sourceEpoch = true ∧
      (isSafeInteger o.sequence = true ∧ 1 ≤ o.sequence) ∧ matchesFenceTokenPattern o.fenceToken = true ∧
      ∃ canonical, o.heap.canonicalize o.mutation = .ok canonical ∧
        [HA_OUTBOX_DIGEST_DOMAIN, HA_OUTBOX_CONTRACT_VERSION, o.streamId, o.sourceEpoch, ofInt o.sequence,
          o.fenceToken, canonical] = fields := by
  simp only [OpInput.fields, assertId, assertSequence, assertFenceToken, bind_eq_ok, mapError_eq_ok, require_eq_ok,
    exists_const, pure_eq_ok, Except.ok.injEq]

theorem EpochTransitionInput.fields_eq_ok {t : EpochTransitionInput} {fields : List JsString} :
    t.fields = .ok fields ↔
      matchesIdPattern t.streamId = true ∧ matchesIdPattern t.fromEpoch = true ∧ matchesIdPattern t.toEpoch = true ∧
      t.fromEpoch ≠ t.toEpoch ∧ (isSafeInteger t.fromEpochIndex = true ∧ 0 ≤ t.fromEpochIndex) ∧
      t.toEpochIndex = t.fromEpochIndex + 1 ∧
      (isSafeInteger t.snapshotSequence = true ∧ 0 ≤ t.snapshotSequence) ∧
      matchesHex64 t.snapshotDigest = true ∧ matchesFenceTokenPattern t.fenceToken = true ∧
      [HA_OUTBOX_DIGEST_DOMAIN ++ lit "/epoch-transition", HA_OUTBOX_CONTRACT_VERSION, t.streamId, t.fromEpoch,
        ofInt t.fromEpochIndex, t.toEpoch, ofInt t.toEpochIndex, ofInt t.snapshotSequence, t.snapshotDigest,
        t.fenceToken] = fields := by
  simp only [EpochTransitionInput.fields, assertId, assertFenceToken, bind_eq_ok, mapError_eq_ok, require_eq_ok,
    exists_const, pure_eq_ok, Except.ok.injEq]

theorem StreamHeadInput.fields_eq_ok {h : StreamHeadInput} {fields : List JsString} : h.fields = .ok fields ↔
    matchesIdPattern h.streamId = true ∧ (isSafeInteger h.sequence = true ∧ 1 ≤ h.sequence) ∧
      matchesHex64 h.prevHeadDigest = true ∧ matchesHex64 h.opDigest = true ∧ matchesIdPattern h.keyId = true ∧
      h.alg ∈ STREAM_HEAD_ALGS ∧
      [HA_OUTBOX_DIGEST_DOMAIN ++ lit "/tsk-stream-head", HA_OUTBOX_CONTRACT_VERSION, h.streamId, ofInt h.sequence,
        h.prevHeadDigest, h.opDigest, h.keyId, h.alg] = fields := by
  simp only [StreamHeadInput.fields, assertId, assertSequence, bind_eq_ok, mapError_eq_ok, require_eq_ok,
    exists_const, pure_eq_ok, Except.ok.injEq]

theorem le_of_isSafeInteger {n : Int} (h : isSafeInteger n = true) : n ≤ MAX_SAFE_INTEGER := by
  rw [isSafeInteger, Bool.and_eq_true, decide_eq_true_eq, decide_eq_true_eq] at h
  exact h.2

theorem framable_fields {x : DigestInput} {fields : List JsString} (h : x.fields = .ok fields) :
    ∀ s ∈ fields, Framable s := by
  have hversion : Framable HA_OUTBOX_CONTRACT_VERSION := framable_lit (by decide)
  cases x with
  | op o =>
    obtain ⟨hstream, hepoch, ⟨hsafe, hone⟩, hfence, canonical, hcanonical, rfl⟩ := OpInput.fields_eq_ok.mp h
    have hsequence := framable_ofInt (by omega : 0 ≤ o.sequence) (by have := le_of_isSafeInteger hsafe; omega)
    simp only [List.forall_mem_cons, List.not_mem_nil, false_implies, implies_true, and_true]
    exact ⟨framable_lit (by decide), hversion, framable_id hstream, framable_id hepoch, hsequence,
      framable_fenceToken hfence, framable_canonicalize hcanonical⟩
  | transition t =>
    obtain ⟨hstream, hfrom, hto, -, ⟨hsafe, hzero⟩, hindex, ⟨hsafe', hzero'⟩, hdigest, hfence, rfl⟩ :=
      EpochTransitionInput.fields_eq_ok.mp h
    have hle := le_of_isSafeInteger hsafe
    have hle' := le_of_isSafeInteger hsafe'
    simp only [List.forall_mem_cons, List.not_mem_nil, false_implies, implies_true, and_true]
    exact ⟨framable_lit (by decide), hversion, framable_id hstream, framable_id hfrom,
      framable_ofInt hzero (by omega), framable_id hto, framable_ofInt (by omega) (by omega),
      framable_ofInt hzero' (by omega), framable_hex64 hdigest, framable_fenceToken hfence⟩
  | head h' =>
    obtain ⟨hstream, ⟨hsafe, hone⟩, hprev, hop, hkey, halg, rfl⟩ := StreamHeadInput.fields_eq_ok.mp h
    have hsequence := framable_ofInt (by omega : 0 ≤ h'.sequence) (by have := le_of_isSafeInteger hsafe; omega)
    have halg : Framable h'.alg := by
      simp only [STREAM_HEAD_ALGS, List.mem_cons, List.not_mem_nil, or_false] at halg
      rcases halg with halg | halg
      · exact halg ▸ framable_lit (by decide)
      · exact halg ▸ framable_lit (by decide)
    simp only [List.forall_mem_cons, List.not_mem_nil, false_implies, implies_true, and_true]
    exact ⟨framable_lit (by decide), hversion, framable_id hstream, hsequence, framable_hex64 hprev,
      framable_hex64 hop, framable_id hkey, halg⟩

/-- The three functions frame different numbers of fields. -/
theorem length_fields {x : DigestInput} {fields : List JsString} (h : x.fields = .ok fields) :
    fields.length = match x with
      | .op _ => 7
      | .transition _ => 10
      | .head _ => 8 := by
  cases x with
  | op o =>
    obtain ⟨-, -, -, -, canonical, -, rfl⟩ := OpInput.fields_eq_ok.mp h
    rfl
  | transition t =>
    obtain ⟨-, -, -, -, -, -, -, -, -, rfl⟩ := EpochTransitionInput.fields_eq_ok.mp h
    rfl
  | head h' =>
    obtain ⟨-, -, -, -, -, -, rfl⟩ := StreamHeadInput.fields_eq_ok.mp h
    rfl

/-- Two calls that feed the hash with the same fields are the same call. -/
theorem same_of_fields {x y : DigestInput} {fields : List JsString} (hx : x.fields = .ok fields)
    (hy : y.fields = .ok fields) : x.Same y := by
  have hlength := (length_fields hx).symm.trans (length_fields hy)
  cases x with
  | op o =>
    cases y with
    | op o' =>
      obtain ⟨-, -, -, -, canonical, hcanonical, rfl⟩ := OpInput.fields_eq_ok.mp hx
      obtain ⟨-, -, -, -, canonical', hcanonical', heq⟩ := OpInput.fields_eq_ok.mp hy
      simp only [List.cons.injEq, and_true, true_and] at heq
      obtain ⟨hstream, hepoch, hsequence, hfence, rfl⟩ := heq
      obtain ⟨value, hof, -, rfl⟩ := canonicalize_eq_ok.mp hcanonical
      obtain ⟨value', hof', -, htext⟩ := canonicalize_eq_ok.mp hcanonical'
      obtain rfl := Json.stringify_injective hof.distinct hof'.distinct htext
      exact .op hstream.symm hepoch.symm (ofInt_injective hsequence).symm hfence.symm value hof hof'
    | transition t => cases hlength
    | head h => cases hlength
  | transition t =>
    cases y with
    | op o => cases hlength
    | transition t' =>
      obtain ⟨-, -, -, -, -, -, -, -, -, rfl⟩ := EpochTransitionInput.fields_eq_ok.mp hx
      obtain ⟨-, -, -, -, -, -, -, -, -, heq⟩ := EpochTransitionInput.fields_eq_ok.mp hy
      cases t
      cases t'
      simp only [List.cons.injEq, and_true, true_and] at heq
      obtain ⟨rfl, rfl, hfrom, rfl, hto, hsnapshot, rfl, rfl⟩ := heq
      obtain rfl := ofInt_injective hfrom
      obtain rfl := ofInt_injective hto
      obtain rfl := ofInt_injective hsnapshot
      exact .transition _
    | head h => cases hlength
  | head h =>
    cases y with
    | op o => cases hlength
    | transition t => cases hlength
    | head h' =>
      obtain ⟨-, -, -, -, -, -, rfl⟩ := StreamHeadInput.fields_eq_ok.mp hx
      obtain ⟨-, -, -, -, -, -, heq⟩ := StreamHeadInput.fields_eq_ok.mp hy
      cases h
      cases h'
      simp only [List.cons.injEq, and_true, true_and] at heq
      obtain ⟨rfl, hsequence, rfl, rfl, rfl, rfl⟩ := heq
      obtain rfl := ofInt_injective hsequence
      exact .head _

end Fields

section Links

variable (D : Sha256Bytes)

theorem digest_eq_ok {x : DigestInput} {text : JsString} :
    x.digest D = .ok text ↔ ∃ fields, x.fields = .ok fields ∧ D.hex (framed fields) = text := by
  rw [DigestInput.digest, DigestInput.preimage, map_eq_ok]
  simp only [map_eq_ok]
  constructor
  · rintro ⟨_, ⟨fields, hfields, rfl⟩, rfl⟩
    exact ⟨fields, hfields, rfl⟩
  · rintro ⟨fields, hfields, rfl⟩
    exact ⟨_, ⟨fields, hfields, rfl⟩, rfl⟩

/-- The digest of a stream head is that of its call. -/
theorem streamHeadDigest_eq (h : StreamHeadInput) :
    (streamHeadDigest D h.streamId h.sequence h.prevHeadDigest h.opDigest h.keyId h.alg).toOption =
      ((DigestInput.head h).digest D).toOption := by
  apply Option.ext
  intro text
  rw [toOption_eq_some, toOption_eq_some, digest_eq_ok]
  simp only [DigestInput.fields, StreamHeadInput.fields_eq_ok, streamHeadDigest, assertId, assertSequence, bind_eq_ok,
    require_eq_ok, exists_const, pure_eq_ok, Except.ok.injEq]
  constructor
  · rintro ⟨hstream, hsequence, hprev, hop, hkey, halg, rfl⟩
    exact ⟨_, ⟨hstream, hsequence, hprev, hop, hkey, halg, rfl⟩, rfl⟩
  · rintro ⟨_, ⟨hstream, hsequence, hprev, hop, hkey, halg, rfl⟩, rfl⟩
    exact ⟨hstream, hsequence, hprev, hop, hkey, halg, rfl⟩

/-- A mutation of the tumbler protocol as an object. -/
def hotpObject (m : TskHotpMutation) : JsObject where
  kind := .object
  prototype := .objectPrototype
  properties := [(lit "tumblerId", .data (.str m.tumblerId) true), (lit "counter", .data (.num (.int m.counter)) true)]
  nodup := by
    change [lit "tumblerId", lit "counter"].Nodup
    decide

def hotpHeap (m : TskHotpMutation) : JsHeap := fun _ => hotpObject m

/-- The mutation as its canonical text reads. -/
def hotpJson (m : TskHotpMutation) : Json :=
  .obj [(lit "counter", .num m.counter), (lit "tumblerId", .str m.tumblerId)]

theorem reads_hotpObject (m : TskHotpMutation) : (hotpObject m).Reads
    (.members [(lit "counter", .num (.int m.counter)), (lit "tumblerId", .str m.tumblerId)]) := by
  have hle : (lit "tumblerId").le (lit "counter") = false := by decide
  have hnames : lit "tumblerId" ≠ lit "__proto__" ∧ lit "counter" ≠ lit "__proto__" := by decide
  refine JsObject.reads_members.mpr ⟨rfl, rfl, rfl,
    [(lit "tumblerId", .str m.tumblerId), (lit "counter", .num (.int m.counter))], rfl, ?_, ?_⟩
  · exact List.forall_mem_cons.mpr ⟨hnames.1, List.forall_mem_singleton.mpr hnames.2⟩
  · simp [JsObject.sortNames, hle]

theorem isOf_hotp {m : TskHotpMutation} {value : Json} :
    value.IsOf JsObject.Reads (hotpHeap m) (.ref 0) ↔ value = hotpJson m := by
  constructor
  · intro h
    cases value with
    | obj members =>
      obtain ⟨_, values, ⟨⟩, hreads, hmembers⟩ := h
      cases hreads.unique (reads_hotpObject m)
      obtain ⟨⟨_, counter⟩, _, ⟨rfl, hcounter⟩, hrest, rfl⟩ := List.forall₂_cons_right_iff.mp (haveOf_iff.mp hmembers)
      obtain ⟨⟨_, tumblerId⟩, _, ⟨rfl, htumblerId⟩, hnil, rfl⟩ := List.forall₂_cons_right_iff.mp hrest
      obtain rfl := List.forall₂_nil_right_iff.mp hnil
      have hcounter : counter = .num m.counter := by
        cases counter <;> simp_all [Json.IsOf, JsNumber.toInt?]
      have htumblerId : tumblerId = .str m.tumblerId := by
        cases tumblerId <;> simp_all [Json.IsOf]
      rw [hcounter, htumblerId]
      rfl
    | arr items =>
      obtain ⟨_, values, ⟨⟩, hreads, -⟩ := h
      cases hreads.unique (reads_hotpObject m)
    | _ => simp_all [Json.IsOf]
  · rintro rfl
    exact ⟨0, _, rfl, reads_hotpObject m, _, _, rfl, ⟨.int m.counter, rfl, rfl⟩, _, _, rfl, rfl, rfl⟩

theorem stringify_hotpJson (m : TskHotpMutation) : (hotpJson m).stringify = (Json.ofHotpMutation m).canonical := by
  have hle : (lit "tumblerId").le (lit "counter") = false := by decide
  rw [Json.canonical_eq]
  simp [Json.ofHotpMutation, Json.sorted, Json.sortedMembers, hle, hotpJson]

theorem length_ofInt_le {n : Int} (h : isSafeInteger n = true) : (ofInt n).length ≤ 17 := by
  rw [isSafeInteger, Bool.and_eq_true, decide_eq_true_eq, decide_eq_true_eq, MAX_SAFE_INTEGER] at h
  cases n with
  | ofNat n =>
    rw [Int.ofNat_eq_natCast] at h
    have hlt : n < Nat.pow 10 17 := by norm_num; omega
    exact length_ofNat_le (by decide) hlt
  | negSucc n =>
    have hlt : n + 1 < Nat.pow 10 16 := by norm_num; omega
    exact Nat.succ_le_succ (length_ofNat_le (by decide) hlt)

/-- The limit of a whole text is far above that of its only long string. -/
theorem length_utf8_mutationText_le {m : TskHotpMutation} (hsafe : isSafeInteger m.counter = true)
    (hlength : m.tumblerId.utf8.length ≤ CANON_MAX_STRING_BYTES) :
    (mutationText m).utf8.length ≤ CANON_MAX_TOTAL_BYTES := by
  have hfront : (lit "\x7b\"counter\":" ++ ofInt m.counter ++ lit ",\"tumblerId\":").WellFormed :=
    ((WellFormed.of_all_ascii (by decide)).append (wellFormed_ofInt _)).append (.of_all_ascii (by decide))
  have hle := length_utf8_le (lit "\x7b\"counter\":" ++ ofInt m.counter ++ lit ",\"tumblerId\":")
  have hopen : (lit "\x7b\"counter\":").length = 11 := by decide
  have hnext : (lit ",\"tumblerId\":").length = 13 := by decide
  have hclose : (lit "\x7d").utf8.length = 1 := by decide
  have hinteger := length_ofInt_le hsafe
  have hquote := m.tumblerId.length_utf8_quote_le
  rw [CANON_MAX_STRING_BYTES] at hlength
  rw [mutationText, (hfront.append (wellFormed_quote _)).utf8_append, hfront.utf8_append, List.length_append,
    List.length_append, hclose, CANON_MAX_TOTAL_BYTES]
  rw [List.length_append, List.length_append, hopen, hnext] at hle
  omega

theorem canonicalize_hotp {m : TskHotpMutation} {text : JsString} :
    (hotpHeap m).canonicalize (.ref 0) = .ok text ↔ canonicalizeMutation m = .ok text := by
  simp only [canonicalize_eq_ok, isOf_hotp, exists_eq_left, canonicalizeMutation, bind_eq_ok, require_eq_ok, exists_const,
    pure_eq_ok, Except.ok.injEq, stringify_hotpJson, @eq_comm _ text]
  have hkeys : isCanonicalText (lit "counter") = true ∧ isCanonicalText (lit "tumblerId") = true := by decide
  have htext : isCanonicalText m.tumblerId = true ↔
      m.tumblerId.hasLoneSurrogate = false ∧ m.tumblerId.utf8.length ≤ CANON_MAX_STRING_BYTES := by
    rw [isCanonicalText, Bool.and_eq_true, Bool.not_eq_true', decide_eq_true_eq]
  have hcanonical : (hotpJson m).isCanonical = true ↔ isSafeInteger m.counter = true ∧
      m.tumblerId.hasLoneSurrogate = false ∧ m.tumblerId.utf8.length ≤ CANON_MAX_STRING_BYTES := by
    simp [hotpJson, Json.isCanonical, Json.haveCanonical, hkeys, htext]
  constructor
  · rintro ⟨hbounds, htext⟩
    obtain ⟨hsafe, hlone, hlength⟩ := hcanonical.mp hbounds.canonical
    exact ⟨hsafe, hlone, hlength, htext⟩
  · rintro ⟨hsafe, hlone, hlength, htext⟩
    have hdepth : 1 ≤ CANON_MAX_DEPTH := by decide
    have hnodes : 3 ≤ CANON_MAX_NODES := by decide
    refine ⟨⟨hcanonical.mpr ⟨hsafe, hlone, hlength⟩, hdepth, hnodes, ?_⟩, htext⟩
    rw [stringify_hotpJson, canonical_ofHotpMutation]
    exact length_utf8_mutationText_le hsafe hlength

/-- The digest of an operation is that of its call. -/
theorem canonicalOpDigest_eq (streamId sourceEpoch : JsString) (sequence : Int) (fenceToken : JsString)
    (m : TskHotpMutation) :
    (canonicalOpDigest D streamId sourceEpoch sequence fenceToken m).toOption =
      ((DigestInput.op ⟨streamId, sourceEpoch, sequence, fenceToken, hotpHeap m, .ref 0⟩).digest D).toOption := by
  apply Option.ext
  intro text
  rw [toOption_eq_some, toOption_eq_some, digest_eq_ok]
  simp only [DigestInput.fields, OpInput.fields_eq_ok, canonicalOpDigest, assertId, assertSequence, assertFenceToken,
    bind_eq_ok, require_eq_ok, exists_const, pure_eq_ok, Except.ok.injEq, canonicalize_hotp]
  constructor
  · rintro ⟨hstream, hepoch, hsequence, hfence, canonical, hcanonical, rfl⟩
    exact ⟨_, ⟨hstream, hepoch, hsequence, hfence, canonical, hcanonical, rfl⟩, rfl⟩
  · rintro ⟨_, ⟨hstream, hepoch, hsequence, hfence, canonical, hcanonical, rfl⟩, rfl⟩
    exact ⟨hstream, hepoch, hsequence, hfence, canonical, hcanonical, rfl⟩

end Links

/-- The preimages of the three digests are injective, and those of different functions are apart. -/
theorem preimage_injective {x y : DigestInput} {bytes : List UInt8} (hx : x.preimage = .ok bytes)
    (hy : y.preimage = .ok bytes) : x.Same y := by
  obtain ⟨fields, hfields, rfl⟩ := map_eq_ok.mp hx
  obtain ⟨fields', hfields', heq⟩ := map_eq_ok.mp hy
  obtain rfl := framed_injective (framable_fields hfields) (framable_fields hfields') heq.symm
  exact same_of_fields hfields hfields'

/-- The mutation with its properties the other way round. -/
def sampleSwapped : JsHeap := fun _ =>
  { kind := .object, prototype := .null,
    properties := [(lit "counter", .data (.num (.int 5)) true), (lit "tumblerId", .data (.str (lit "t")) true)],
    nodup := by decide }

def sampleOpInput (heap : JsHeap) : DigestInput :=
  .op ⟨lit "stream", lit "epoch", 1, lit "7", heap, .ref 0⟩

theorem preimage_injective_sample : (sampleOpInput (hotpHeap ⟨lit "t", 5⟩)).Same (sampleOpInput sampleSwapped) := by
  obtain ⟨bytes, hx⟩ : ∃ bytes, (sampleOpInput (hotpHeap ⟨lit "t", 5⟩)).preimage = .ok bytes :=
    exists_ok_of_toBool (by decide +kernel)
  have hsame : (sampleOpInput sampleSwapped).preimage.toOption =
      (sampleOpInput (hotpHeap ⟨lit "t", 5⟩)).preimage.toOption := by
    decide +kernel
  rw [hx] at hsame
  exact preimage_injective hx (toOption_eq_some.mp hsame)

end TskProtocol
