import TskProtocol.Control.Tables
import TskProtocol.Outbox.Numerals

namespace TskProtocol

inductive EvidenceError
  | encoding | frame (fault : Framing.ReadFault) | layout | proofMode | field (e : FenceError)
  deriving DecidableEq, Repr

/-- The fields as text; an absent one is empty. -/
def unframe (buf : List UInt8) : Except EvidenceError (List JsString) :=
  match Framing.read buf with
  | .error fault => .error (.frame fault)
  | .ok fields => .ok (fields.map fun field => (field.map JsString.decodeUtf8).getD [])

/-- `vInt` of a text. -/
def vIntText (v : JsString) (label : String) (min max : Nat) : Except FenceError Nat := do
  let n ← orThrow v.toSafeInteger (.outOfRange label)
  require ((min : Int) ≤ n ∧ n ≤ max) (.outOfRange label)
  return n.toNat

def vDigest (v : JsString) (label : String) : Except FenceError JsString := do
  require (matchesHex64 v) (.invalidDigest label)
  return v

/-- The numeric fields of an evidence, as text. -/
structure EvidenceNumerals where
  grantSeq : JsString
  maxExpiryMs : JsString
  controlNowMs : JsString
  safetyMarginMs : JsString
  redisEpoch : JsString
  redisExpiresMs : JsString
  witnessFrom : JsString
  witnessTo : JsString

def evidenceFields (holderNodeId grantDigest redisNodeId redisClaimDigest : JsString) (numerals : EvidenceNumerals) :
    Except FenceError FenceEvidence := do
  let holderNodeId ← vId holderNodeId matchesId "evidence.holderNodeId"
  let grantSeq ← vIntText numerals.grantSeq "evidence.grantSeq" 1 MAX_SEQ
  let grantDigest ← vDigest grantDigest "evidence.grantDigest"
  let maxExpiryMs ← vIntText numerals.maxExpiryMs "evidence.maxExpiryMs" 0 MAX_MS
  let controlNowMs ← vIntText numerals.controlNowMs "evidence.controlNowMs" 0 MAX_MS
  let safetyMarginMs ← vIntText numerals.safetyMarginMs "evidence.safetyMarginMs" 0 MAX_SAFETY_MARGIN_MS
  let redisNodeId ← vId redisNodeId matchesId "evidence.redisNodeId"
  let redisEpoch ← vIntText numerals.redisEpoch "evidence.redisEpoch" 1 MAX_EPOCH
  let redisExpiresMs ← vIntText numerals.redisExpiresMs "evidence.redisExpiresMs" 0 MAX_MS
  let redisClaimDigest ← vDigest redisClaimDigest "evidence.redisClaimDigest"
  let witnessFrom ← vIntText numerals.witnessFrom "evidence.witnessFrom" 0 MAX_EPOCH
  let witnessTo ← vIntText numerals.witnessTo "evidence.witnessTo" 1 MAX_EPOCH
  return {
    holderNodeId
    grantSeq
    grantDigest
    maxExpiryMs
    controlNowMs
    safetyMarginMs
    redisNodeId
    redisEpoch
    redisExpiresMs
    redisClaimDigest
    witnessFrom
    witnessTo }

def decodeEvidence (s : JsString) : Except EvidenceError FenceEvidence := do
  require (matchesBase64Url s) .encoding
  match ← unframe (Base64Url.decode s) with
  | [layout, holderNodeId, grantSeq, grantDigest, maxExpiryMs, controlNowMs, safetyMarginMs, redisNodeId, redisEpoch,
      redisExpiresMs, redisClaimDigest, witnessFrom, witnessTo, proofMode] => do
    require (layout = JsString.lit "tsk_ha_evidence/v1") .layout
    require (proofMode = JsString.lit "lease-expiry-control-clock") .proofMode
    (evidenceFields holderNodeId grantDigest redisNodeId redisClaimDigest ⟨grantSeq, maxExpiryMs, controlNowMs,
      safetyMarginMs, redisEpoch, redisExpiresMs, witnessFrom, witnessTo⟩).mapError .field
  | _ => .error .layout

/-- An evidence that the checks of its reader let through. -/
structure FenceEvidence.Valid (e : FenceEvidence) : Prop where
  holderNodeId : matchesId e.holderNodeId = true
  grantSeq : 1 ≤ e.grantSeq ∧ e.grantSeq ≤ MAX_SEQ
  grantDigest : matchesHex64 e.grantDigest = true
  maxExpiryMs : e.maxExpiryMs ≤ MAX_MS
  controlNowMs : e.controlNowMs ≤ MAX_MS
  safetyMarginMs : e.safetyMarginMs ≤ MAX_SAFETY_MARGIN_MS
  redisNodeId : matchesId e.redisNodeId = true
  redisEpoch : 1 ≤ e.redisEpoch ∧ e.redisEpoch ≤ MAX_EPOCH
  redisExpiresMs : 0 ≤ e.redisExpiresMs ∧ e.redisExpiresMs ≤ MAX_MS
  redisClaimDigest : matchesHex64 e.redisClaimDigest = true
  witnessFrom : e.witnessFrom ≤ MAX_EPOCH
  witnessTo : 1 ≤ e.witnessTo ∧ e.witnessTo ≤ MAX_EPOCH

namespace EvidenceNumerals

def texts (numerals : EvidenceNumerals) : List JsString :=
  [numerals.grantSeq, numerals.maxExpiryMs, numerals.controlNowMs, numerals.safetyMarginMs, numerals.redisEpoch,
    numerals.redisExpiresMs, numerals.witnessFrom, numerals.witnessTo]

theorem texts_injective {numerals numerals' : EvidenceNumerals} (h : numerals.texts = numerals'.texts) :
    numerals = numerals' := by
  cases numerals
  cases numerals'
  simpa [texts] using h

/-- Numerals in plain decimal. -/
def Decimal (numerals : EvidenceNumerals) : Prop := ∀ text ∈ numerals.texts, ∃ n : Nat, text = JsString.ofNat n

end EvidenceNumerals

namespace FenceEvidence

def numbers (e : FenceEvidence) : List Int :=
  [e.grantSeq, e.maxExpiryMs, e.controlNowMs, e.safetyMarginMs, e.redisEpoch, e.redisExpiresMs, e.witnessFrom,
    e.witnessTo]

def numerals (e : FenceEvidence) : EvidenceNumerals where
  grantSeq := JsString.ofNat e.grantSeq
  maxExpiryMs := JsString.ofNat e.maxExpiryMs
  controlNowMs := JsString.ofNat e.controlNowMs
  safetyMarginMs := JsString.ofNat e.safetyMarginMs
  redisEpoch := JsString.ofInt e.redisEpoch
  redisExpiresMs := JsString.ofInt e.redisExpiresMs
  witnessFrom := JsString.ofNat e.witnessFrom
  witnessTo := JsString.ofNat e.witnessTo

/-- The fields of an evidence whose numbers are spelled in some way. -/
def fieldsAs (e : FenceEvidence) (numerals : EvidenceNumerals) : List JsString :=
  [JsString.lit "tsk_ha_evidence/v1", e.holderNodeId, numerals.grantSeq, e.grantDigest, numerals.maxExpiryMs,
    numerals.controlNowMs, numerals.safetyMarginMs, e.redisNodeId, numerals.redisEpoch, numerals.redisExpiresMs,
    e.redisClaimDigest, numerals.witnessFrom, numerals.witnessTo, JsString.lit "lease-expiry-control-clock"]

end FenceEvidence

/-- The numerals stand for the numbers of the evidence. -/
def EvidenceNumerals.Denote (numerals : EvidenceNumerals) (e : FenceEvidence) : Prop :=
  numerals.texts.map JsString.toSafeInteger = e.numbers.map some

theorem encodeEvidence_eq (e : FenceEvidence) :
    encodeEvidence e = Base64Url.encode (frame ((e.fieldsAs e.numerals).map some)) := rfl

theorem vIntText_eq_ok {v : JsString} {label : String} {min max n : Nat} :
    vIntText v label min max = .ok n ↔ v.toSafeInteger = some (n : Int) ∧ min ≤ n ∧ n ≤ max := by
  simp only [vIntText, bind_eq_ok, orThrow_eq_ok, require_eq_ok, exists_const, pure_eq_ok, Except.ok.injEq]
  constructor
  · rintro ⟨m, hm, ⟨hmin, hmax⟩, rfl⟩
    refine ⟨?_, by omega, by omega⟩
    rw [Int.toNat_of_nonneg (by omega)]
    exact hm
  · rintro ⟨hn, hmin, hmax⟩
    exact ⟨n, hn, by omega, Int.toNat_natCast n⟩

theorem vDigest_eq_ok {v w : JsString} {label : String} :
    vDigest v label = .ok w ↔ matchesHex64 v = true ∧ v = w := by
  simp [vDigest, bind_eq_ok]

theorem EvidenceNumerals.denote_iff {numerals : EvidenceNumerals} {e : FenceEvidence} : numerals.Denote e ↔
    numerals.grantSeq.toSafeInteger = some (e.grantSeq : Int) ∧
    numerals.maxExpiryMs.toSafeInteger = some (e.maxExpiryMs : Int) ∧
    numerals.controlNowMs.toSafeInteger = some (e.controlNowMs : Int) ∧
    numerals.safetyMarginMs.toSafeInteger = some (e.safetyMarginMs : Int) ∧
    numerals.redisEpoch.toSafeInteger = some e.redisEpoch ∧
    numerals.redisExpiresMs.toSafeInteger = some e.redisExpiresMs ∧
    numerals.witnessFrom.toSafeInteger = some (e.witnessFrom : Int) ∧
    numerals.witnessTo.toSafeInteger = some (e.witnessTo : Int) := by
  simp only [Denote, texts, FenceEvidence.numbers, List.map_cons, List.map_nil, List.cons.injEq, and_true]

theorem FenceEvidence.Valid.nonneg {e : FenceEvidence} (h : e.Valid) :
    (∃ n : Nat, e.redisEpoch = n) ∧ ∃ n : Nat, e.redisExpiresMs = n :=
  ⟨Int.eq_ofNat_of_zero_le (h.redisEpoch.1.trans' (by decide)), Int.eq_ofNat_of_zero_le h.redisExpiresMs.1⟩

theorem evidenceFields_eq_ok {holderNodeId grantDigest redisNodeId redisClaimDigest : JsString}
    {numerals : EvidenceNumerals} {e : FenceEvidence} :
    evidenceFields holderNodeId grantDigest redisNodeId redisClaimDigest numerals = .ok e ↔
      e.Valid ∧ numerals.Denote e ∧ holderNodeId = e.holderNodeId ∧ grantDigest = e.grantDigest ∧
        redisNodeId = e.redisNodeId ∧ redisClaimDigest = e.redisClaimDigest := by
  simp only [evidenceFields, bind_eq_ok, vId_eq_ok, vIntText_eq_ok, vDigest_eq_ok, pure_eq_ok, Except.ok.injEq]
  constructor
  · rintro ⟨_, ⟨holder, rfl⟩, _, grantSeq, _, ⟨grantDigest, rfl⟩, _, maxExpiryMs, _, controlNowMs, _, safetyMarginMs,
      _, ⟨redisNode, rfl⟩, _, redisEpoch, _, redisExpiresMs, _, ⟨redisClaim, rfl⟩, _, witnessFrom, _, witnessTo, rfl⟩
    refine ⟨⟨holder, grantSeq.2, grantDigest, maxExpiryMs.2.2, controlNowMs.2.2, safetyMarginMs.2.2, redisNode, ?_, ?_,
      redisClaim, witnessFrom.2.2, witnessTo.2⟩, EvidenceNumerals.denote_iff.mpr ⟨grantSeq.1, maxExpiryMs.1,
      controlNowMs.1, safetyMarginMs.1, redisEpoch.1, redisExpiresMs.1, witnessFrom.1, witnessTo.1⟩, rfl, rfl, rfl, rfl⟩
    · dsimp only
      exact_mod_cast redisEpoch.2
    · dsimp only
      exact_mod_cast redisExpiresMs.2
  · rintro ⟨hvalid, hdenote, rfl, rfl, rfl, rfl⟩
    obtain ⟨⟨epoch, hepoch⟩, expires, hexpires⟩ := hvalid.nonneg
    have hredisEpoch := hvalid.redisEpoch
    have hredisExpires := hvalid.redisExpiresMs
    obtain ⟨grantSeq, maxExpiryMs, controlNowMs, safetyMarginMs, redisEpoch, redisExpiresMs, witnessFrom, witnessTo⟩ :=
      EvidenceNumerals.denote_iff.mp hdenote
    rw [hepoch] at hredisEpoch redisEpoch
    rw [hexpires] at hredisExpires redisExpiresMs
    refine ⟨_, ⟨hvalid.holderNodeId, rfl⟩, _, ⟨grantSeq, hvalid.grantSeq⟩, _, ⟨hvalid.grantDigest, rfl⟩, _,
      ⟨maxExpiryMs, Nat.zero_le _, hvalid.maxExpiryMs⟩, _, ⟨controlNowMs, Nat.zero_le _, hvalid.controlNowMs⟩, _,
      ⟨safetyMarginMs, Nat.zero_le _, hvalid.safetyMarginMs⟩, _, ⟨hvalid.redisNodeId, rfl⟩, epoch,
      ⟨redisEpoch, by exact_mod_cast hredisEpoch⟩, expires, ⟨redisExpiresMs, by exact_mod_cast hredisExpires⟩, _,
      ⟨hvalid.redisClaimDigest, rfl⟩, _, ⟨witnessFrom, Nat.zero_le _, hvalid.witnessFrom⟩, _,
      ⟨witnessTo, hvalid.witnessTo⟩, ?_⟩
    rw [← hepoch, ← hexpires]

theorem unframe_eq_ok {buf : List UInt8} {texts : List JsString} :
    unframe buf = .ok texts ↔ ∃ fields, Framing.read buf = .ok fields ∧
      fields.map (fun field => (field.map JsString.decodeUtf8).getD []) = texts := by
  rw [unframe]
  cases Framing.read buf <;> simp

theorem decodeEvidence_eq_ok {s : JsString} {e : FenceEvidence} :
    decodeEvidence s = .ok e ↔ matchesBase64Url s = true ∧ e.Valid ∧
      ∃ numerals : EvidenceNumerals, numerals.Denote e ∧
        unframe (Base64Url.decode s) = .ok (e.fieldsAs numerals) := by
  simp only [decodeEvidence, bind_eq_ok, require_eq_ok, exists_const]
  refine and_congr_right fun _ => ?_
  constructor
  · rintro ⟨texts, htexts, h⟩
    split at h
    · simp only [bind_eq_ok, require_eq_ok, exists_const, mapError_eq_ok, evidenceFields_eq_ok] at h
      obtain ⟨rfl, rfl, hvalid, hdenote, rfl, rfl, rfl, rfl⟩ := h
      exact ⟨hvalid, _, hdenote, htexts⟩
    · cases h
  · rintro ⟨hvalid, numerals, hdenote, htexts⟩
    refine ⟨_, htexts, ?_⟩
    simp only [FenceEvidence.fieldsAs, bind_eq_ok, require_eq_ok, exists_const, mapError_eq_ok, evidenceFields_eq_ok,
      true_and, and_true]
    exact ⟨hvalid, hdenote⟩

/-- The text is none, or the one field that it frames is no evidence. -/
example : decodeEvidence (JsString.lit "?") = .error .encoding ∧
    decodeEvidence (Base64Url.encode (frame [none])) = .error .layout := by decide +kernel

theorem unframe_frame {texts : List JsString} (h : ∀ t ∈ texts, Plain t) :
    unframe (frame (texts.map some)) = .ok texts := by
  refine unframe_eq_ok.mpr ⟨_, Framing.read_encode ?_, ?_⟩
  · intro x hx bytes hbytes
    obtain ⟨_, hpart, rfl⟩ := List.mem_map.mp hx
    obtain ⟨t, ht, rfl⟩ := List.mem_map.mp hpart
    obtain rfl := Option.some.inj hbytes
    rw [JsString.utf8_ascii (h t ht).ascii, List.length_map]
    exact (h t ht).length
  · rw [List.map_map, List.map_map]
    conv_rhs => rw [← List.map_id texts]
    refine List.map_congr_left fun t ht => ?_
    exact JsString.decodeUtf8_utf8 (.of_ascii (h t ht).ascii)

/-- Fields of ASCII text have come out of the frame of these texts. -/
theorem frame_of_unframe {buf : List UInt8} {texts : List JsString} (h : unframe buf = .ok texts)
    (hne : ∀ t ∈ texts, t ≠ []) (hascii : ∀ t ∈ texts, ∀ c ∈ t, JsString.isAscii c = true) :
    frame (texts.map some) = buf := by
  obtain ⟨fields, hread, rfl⟩ := unframe_eq_ok.mp h
  rw [← Framing.encode_read hread, frame, List.map_map, List.map_map]
  congr 1
  conv_rhs => rw [← List.map_id fields]
  refine List.map_congr_left fun field hfield => ?_
  have hmem := List.mem_map_of_mem (f := fun field => (field.map JsString.decodeUtf8).getD []) hfield
  cases field with
  | none => exact (hne _ hmem rfl).elim
  | some body => exact congrArg some (JsString.utf8_decodeUtf8 (hascii _ hmem))

theorem matchesBase64Url_encode {data : List UInt8} (h : data ≠ []) : matchesBase64Url (Base64Url.encode data) = true := by
  simp only [matchesBase64Url, Bool.and_eq_true, decide_eq_true_eq, List.all_eq_true]
  constructor
  · rw [Base64Url.encode, List.length_map]
    cases data with
    | nil => exact (h rfl).elim
    | cons a rest => rcases rest with _ | ⟨b, _ | ⟨c, rest⟩⟩ <;> simp [Base64Url.sextets]
  · intro c hc
    obtain ⟨n, hn, rfl⟩ := List.mem_map.mp hc
    have hall : ∀ m < 64, isBase64Url (Base64Url.digit m) = true := by decide
    exact hall n (Base64Url.sextets_lt hn)

variable {e : FenceEvidence} {numerals : EvidenceNumerals}

theorem FenceEvidence.Valid.forall_fields (h : e.Valid) {p : JsString → Prop}
    (hid : ∀ t, matchesId t = true → p t) (hhex : ∀ t, matchesHex64 t = true → p t)
    (hlayout : p (JsString.lit "tsk_ha_evidence/v1")) (hmode : p (JsString.lit "lease-expiry-control-clock"))
    (hnumerals : ∀ t ∈ numerals.texts, p t) : ∀ t ∈ e.fieldsAs numerals, p t := by
  simp only [EvidenceNumerals.texts, FenceEvidence.fieldsAs, List.forall_mem_cons, List.not_mem_nil, false_imp_iff,
    implies_true, and_true] at hnumerals ⊢
  obtain ⟨h1, h2, h3, h4, h5, h6, h7, h8⟩ := hnumerals
  exact ⟨hlayout, hid _ h.holderNodeId, h1, hhex _ h.grantDigest, h2, h3, h4, hid _ h.redisNodeId, h5, h6,
    hhex _ h.redisClaimDigest, h7, h8, hmode⟩

/-- However its numbers are spelled, an evidence is read from its fields. -/
theorem decodeEvidence_fieldsAs (h : e.Valid) (hdenote : numerals.Denote e)
    (hplain : ∀ t ∈ numerals.texts, Plain t) :
    decodeEvidence (Base64Url.encode (frame ((e.fieldsAs numerals).map some))) = .ok e := by
  have hfields : ∀ t ∈ e.fieldsAs numerals, Plain t :=
    h.forall_fields (fun _ => plain_of_matchesId) (fun _ => plain_of_matchesHex64) (plain_of_all (by decide))
      (plain_of_all (by decide)) hplain
  refine decodeEvidence_eq_ok.mpr ⟨matchesBase64Url_encode (by simp [frame, FenceEvidence.fieldsAs, Framing.field]), h,
    numerals, hdenote, ?_⟩
  rw [Base64Url.decode_encode, unframe_frame hfields]

/-- The numbers of a valid evidence are within the range of a date. -/
theorem FenceEvidence.Valid.numbers (h : e.Valid) : ∀ n ∈ e.numbers, ∃ m : Nat, n = m ∧ m ≤ MAX_MS := by
  obtain ⟨⟨epoch, hepoch⟩, expires, hexpires⟩ := h.nonneg
  have hredisEpoch := h.redisEpoch.2
  have hredisExpires := h.redisExpiresMs.2
  rw [hepoch] at hredisEpoch
  rw [hexpires] at hredisExpires
  have hms : MAX_EPOCH ≤ MAX_MS ∧ MAX_SEQ ≤ MAX_MS ∧ MAX_SAFETY_MARGIN_MS ≤ MAX_MS := by decide
  simp only [FenceEvidence.numbers, hepoch, hexpires, List.forall_mem_cons, List.not_mem_nil, false_imp_iff,
    implies_true, and_true]
  exact ⟨⟨_, rfl, h.grantSeq.2.trans hms.2.1⟩, ⟨_, rfl, h.maxExpiryMs⟩, ⟨_, rfl, h.controlNowMs⟩,
    ⟨_, rfl, h.safetyMarginMs.trans hms.2.2⟩, ⟨_, rfl, (Int.ofNat_le.mp hredisEpoch).trans hms.1⟩,
    ⟨_, rfl, Int.ofNat_le.mp hredisExpires⟩, ⟨_, rfl, h.witnessFrom.trans hms.1⟩, _, rfl, h.witnessTo.2.trans hms.1⟩

theorem FenceEvidence.texts_numerals (e : FenceEvidence) : e.numerals.texts = e.numbers.map JsString.ofInt := rfl

theorem FenceEvidence.Valid.forall_texts (h : e.Valid) {p : JsString → Prop}
    (hp : ∀ n : Nat, n ≤ MAX_MS → p (JsString.ofNat n)) : ∀ t ∈ e.numerals.texts, p t := by
  rw [e.texts_numerals]
  intro t ht
  obtain ⟨n, hn, rfl⟩ := List.mem_map.mp ht
  obtain ⟨m, rfl, hm⟩ := h.numbers n hn
  exact hp m hm

theorem FenceEvidence.Valid.denote (h : e.Valid) : e.numerals.Denote e := by
  rw [EvidenceNumerals.Denote, e.texts_numerals, List.map_map]
  refine List.map_congr_left fun n hn => ?_
  obtain ⟨m, rfl, hm⟩ := h.numbers n hn
  have hsafe : (m : Int) ≤ MAX_SAFE_INTEGER := by
    rw [MAX_MS] at hm
    rw [MAX_SAFE_INTEGER]
    omega
  exact JsString.toSafeInteger_ofNat hsafe

/-- Numerals in plain decimal are those of the numbers they denote. -/
theorem EvidenceNumerals.Denote.eq_numerals (h : numerals.Denote e) (hdecimal : numerals.Decimal) :
    numerals = e.numerals := by
  have htexts : ∀ {texts : List JsString} {numbers : List Int}, texts.map JsString.toSafeInteger = numbers.map some →
      (∀ text ∈ texts, ∃ n : Nat, text = JsString.ofNat n) → texts = numbers.map JsString.ofInt := by
    intro texts
    induction texts with
    | nil =>
      intro numbers hread _
      rw [List.map_nil, eq_comm, List.map_eq_nil_iff] at hread
      rw [hread, List.map_nil]
    | cons text texts ih =>
      intro numbers hread hdecimal
      cases numbers with
      | nil => cases hread
      | cons number numbers =>
        obtain ⟨hnumber, hrest⟩ := List.cons.inj hread
        rw [List.forall_mem_cons] at hdecimal
        obtain ⟨⟨n, rfl⟩, hdecimal⟩ := hdecimal
        obtain rfl := JsString.eq_of_toSafeInteger_ofNat hnumber
        rw [List.map_cons, ih hrest hdecimal]
        rfl
  exact EvidenceNumerals.texts_injective (htexts h hdecimal)

/-- The text is the one that its bytes are encoded to, and its numerals are in plain decimal. -/
def CanonicalEvidence (s : JsString) : Prop :=
  Base64Url.encode (Base64Url.decode s) = s ∧
    ∀ fields, unframe (Base64Url.decode s) = .ok fields → ∀ i ∈ [2, 4, 5, 6, 8, 9, 11, 12], ∃ n : Nat,
      fields[i]? = some (JsString.ofNat n)

theorem canonicalEvidence_iff {s : JsString} (h : unframe (Base64Url.decode s) = .ok (e.fieldsAs numerals)) :
    CanonicalEvidence s ↔ Base64Url.encode (Base64Url.decode s) = s ∧ numerals.Decimal := by
  simp [CanonicalEvidence, h, EvidenceNumerals.Decimal, EvidenceNumerals.texts, FenceEvidence.fieldsAs]

theorem plain_ofNat_ms {n : Nat} (hn : n ≤ MAX_MS) : Plain (JsString.ofNat n) := by
  rw [MAX_MS] at hn
  exact plain_ofNat (by omega)

theorem FenceEvidence.Valid.plain (h : e.Valid) : ∀ t ∈ e.fieldsAs e.numerals, Plain t :=
  h.forall_fields (fun _ => plain_of_matchesId) (fun _ => plain_of_matchesHex64) (plain_of_all (by decide))
    (plain_of_all (by decide)) (h.forall_texts fun _ => plain_ofNat_ms)

theorem FenceEvidence.Valid.fields_ne_nil (h : e.Valid) : ∀ t ∈ e.fieldsAs e.numerals, t ≠ [] := by
  refine h.forall_fields (fun t ht => ?_) (fun t ht => ?_) (by decide) (by decide)
    (h.forall_texts fun n _ => JsString.ofNat_ne_nil n)
  · rintro rfl
    cases ht
  · rintro rfl
    cases ht

theorem FenceEvidence.Valid.unframe_encodeEvidence (h : e.Valid) :
    unframe (Base64Url.decode (encodeEvidence e)) = .ok (e.fieldsAs e.numerals) := by
  rw [encodeEvidence_eq, Base64Url.decode_encode, unframe_frame h.plain]

theorem FenceEvidence.Valid.decimal (h : e.Valid) : e.numerals.Decimal :=
  h.forall_texts fun n _ => ⟨n, rfl⟩

theorem FenceEvidence.Valid.decode_encodeEvidence (h : e.Valid) : decodeEvidence (encodeEvidence e) = .ok e := by
  rw [encodeEvidence_eq]
  exact decodeEvidence_fieldsAs h h.denote (h.forall_texts fun _ => plain_ofNat_ms)

theorem canonical_encodeEvidence (h : e.Valid) : CanonicalEvidence (encodeEvidence e) := by
  refine (canonicalEvidence_iff h.unframe_encodeEvidence).mpr ⟨?_, h.decimal⟩
  rw [encodeEvidence_eq, Base64Url.decode_encode]

theorem encodeEvidence_of_canonical {s : JsString} (h : decodeEvidence s = .ok e) (hcanonical : CanonicalEvidence s) :
    encodeEvidence e = s := by
  obtain ⟨-, hvalid, numerals, hdenote, hfields⟩ := decodeEvidence_eq_ok.mp h
  obtain ⟨htext, hdecimal⟩ := (canonicalEvidence_iff hfields).mp hcanonical
  obtain rfl := hdenote.eq_numerals hdecimal
  rw [encodeEvidence_eq, frame_of_unframe hfields hvalid.fields_ne_nil fun t ht => (hvalid.plain t ht).ascii, htext]

/-- A valid evidence is read back from its encoding, and an accepted text is the encoding of what it decodes to
exactly when it is canonical. -/
theorem evidence_codec (e : FenceEvidence) (s : JsString) :
    (e.Valid → decodeEvidence (encodeEvidence e) = .ok e) ∧
    (decodeEvidence s = .ok e → (encodeEvidence e = s ↔ CanonicalEvidence s)) := by
  refine ⟨fun h => h.decode_encodeEvidence, fun h => ⟨?_, encodeEvidence_of_canonical h⟩⟩
  rintro rfl
  exact canonical_encodeEvidence (decodeEvidence_eq_ok.mp h).2.1

section Sample

def sampleEvidence : FenceEvidence where
  holderNodeId := JsString.lit "a"
  grantSeq := 1
  grantDigest := List.replicate 64 97
  maxExpiryMs := 50
  controlNowMs := 60
  safetyMarginMs := 5
  redisNodeId := JsString.lit "b"
  redisEpoch := 1
  redisExpiresMs := 1000
  redisClaimDigest := List.replicate 64 98
  witnessFrom := 0
  witnessTo := 1

theorem sampleEvidence_valid : sampleEvidence.Valid := by
  constructor <;> decide

theorem evidence_codec_sample : decodeEvidence (encodeEvidence sampleEvidence) = .ok sampleEvidence ∧
    CanonicalEvidence (encodeEvidence sampleEvidence) := by
  have hdecode := (evidence_codec sampleEvidence (encodeEvidence sampleEvidence)).1 sampleEvidence_valid
  exact ⟨hdecode, ((evidence_codec sampleEvidence (encodeEvidence sampleEvidence)).2 hdecode).mp rfl⟩

/-- The same evidence, the first number with a leading zero. -/
def sampleNumerals : EvidenceNumerals := { sampleEvidence.numerals with grantSeq := JsString.lit "01" }

theorem sampleNumerals_denote : sampleNumerals.Denote sampleEvidence := by
  rw [EvidenceNumerals.Denote]
  decide +kernel

theorem sampleNumerals_plain : ∀ t ∈ sampleNumerals.texts, Plain t := by
  have hall : sampleNumerals.texts.all (fun t => t.all JsString.isAscii && t.length < 4294967296) = true := by decide
  exact fun t ht => plain_of_all (List.all_eq_true.mp hall t ht)

/-- Two texts are read as one evidence. -/
theorem evidence_two_texts : ¬ ∀ s e, decodeEvidence s = .ok e → encodeEvidence e = s := by
  intro h
  have hsame := h _ _ (decodeEvidence_fieldsAs sampleEvidence_valid sampleNumerals_denote sampleNumerals_plain)
  rw [encodeEvidence_eq] at hsame
  exact absurd hsame (by decide)

end Sample

end TskProtocol
