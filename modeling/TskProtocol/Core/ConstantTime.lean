import TskProtocol.Outbox.Utf8

namespace TskProtocol

namespace JsString

/-- What `Buffer.from` encodes for a code unit that has no partner. -/
def replaceLone (c : UInt16) : UInt16 := if isHighSurrogate c || isLowSurrogate c then 0xFFFD else c

/-- The string with its unpaired surrogates replaced. -/
def toWellFormed : JsString → JsString
  | [] => []
  | [c] => [replaceLone c]
  | c :: d :: rest =>
    if isHighSurrogate c && isLowSurrogate d then c :: d :: toWellFormed rest
    else replaceLone c :: toWellFormed (d :: rest)

theorem not_high_replaceLone (c : UInt16) : isHighSurrogate (replaceLone c) = false := by
  unfold replaceLone
  split
  · rfl
  · next h =>
    simp only [Bool.or_eq_true, not_or, Bool.not_eq_true] at h
    exact h.1

theorem not_low_replaceLone (c : UInt16) : isLowSurrogate (replaceLone c) = false := by
  unfold replaceLone
  split
  · rfl
  · next h =>
    simp only [Bool.or_eq_true, not_or, Bool.not_eq_true] at h
    exact h.2

theorem toNat_replaceLone (c : UInt16) : (replaceLone c).toNat = unitPoint c := by
  unfold replaceLone unitPoint
  split <;> rfl

theorem wellFormed_toWellFormed (s : JsString) : (toWellFormed s).WellFormed := by
  induction s using toWellFormed.induct with
  | case1 => exact .nil
  | case2 c => exact .unit (not_high_replaceLone c) (not_low_replaceLone c) .nil
  | case3 c d rest h ih =>
    rw [toWellFormed, if_pos h]
    rw [Bool.and_eq_true] at h
    exact .pair h.1 h.2 ih
  | case4 c d rest h ih =>
    rw [toWellFormed, if_neg h]
    exact .unit (not_high_replaceLone c) (not_low_replaceLone c) ih

theorem points_replaceLone (c : UInt16) (rest : JsString) :
    points (replaceLone c :: rest) = unitPoint c :: points rest := by
  rw [WellFormed.points_unit (not_high_replaceLone c) (not_low_replaceLone c), toNat_replaceLone]

theorem points_toWellFormed (s : JsString) : points (toWellFormed s) = points s := by
  induction s using toWellFormed.induct with
  | case1 => rfl
  | case2 c => exact points_replaceLone c []
  | case3 c d rest h ih =>
    rw [toWellFormed, if_pos h, points, if_pos h, points, if_pos h, ih]
  | case4 c d rest h ih =>
    rw [toWellFormed, if_neg h, points_replaceLone, points, if_neg h, ih]

/-- The encoder does not see which surrogate was unpaired. -/
theorem utf8_toWellFormed (s : JsString) : (toWellFormed s).utf8 = s.utf8 := by
  rw [utf8_eq, utf8_eq, points_toWellFormed]

theorem utf8_eq_iff_toWellFormed {s t : JsString} : s.utf8 = t.utf8 ↔ s.toWellFormed = t.toWellFormed := by
  rw [← utf8_toWellFormed s, ← utf8_toWellFormed t]
  exact ⟨utf8_injective (wellFormed_toWellFormed s) (wellFormed_toWellFormed t), congrArg utf8⟩

theorem WellFormed.toWellFormed_eq {s : JsString} (h : s.WellFormed) : s.toWellFormed = s :=
  utf8_injective (wellFormed_toWellFormed s) h (utf8_toWellFormed s)

/-- A replacement shows. -/
theorem toWellFormed_eq_of_not_mem {s : JsString} (h : (0xFFFD : UInt16) ∉ s.toWellFormed) : s.toWellFormed = s := by
  have hunit : ∀ c : UInt16, replaceLone c ≠ 0xFFFD → replaceLone c = c := by
    intro c hc
    unfold replaceLone at hc ⊢
    split at hc
    · exact absurd rfl hc
    · next hlone => rw [if_neg hlone]
  induction s using toWellFormed.induct with
  | case1 => rfl
  | case2 c =>
    rw [toWellFormed, List.mem_singleton] at h
    rw [toWellFormed, hunit c fun heq => h heq.symm]
  | case3 c d rest hpair ih =>
    rw [toWellFormed, if_pos hpair] at h ⊢
    rw [ih fun hmem => h (List.mem_cons_of_mem c (List.mem_cons_of_mem d hmem))]
  | case4 c d rest hpair ih =>
    rw [toWellFormed, if_neg hpair] at h ⊢
    rw [List.mem_cons, not_or] at h
    rw [hunit c fun heq => h.1 heq.symm, ih h.2]

end JsString

/-- Two distinct strings pass exactly if they only differ in what the encoder replaces. -/
theorem constantTimeEqual_identical (a b : JsString) :
    (constantTimeEqual a b = true ↔ a = b) ↔ (a = b ∨ a.toWellFormed ≠ b.toWellFormed) := by
  rw [constantTimeEqual_iff, JsString.utf8_eq_iff_toWellFormed]
  constructor
  · intro h
    by_cases heq : a = b
    · exact .inl heq
    · exact .inr fun hwell => heq (h.mp hwell)
  · rintro (rfl | hne)
    · exact ⟨fun _ => rfl, fun _ => rfl⟩
    · exact ⟨fun hwell => absurd hwell hne, fun heq => absurd (congrArg JsString.toWellFormed heq) hne⟩

/-- An unpaired surrogate passes for the replacement character. -/
theorem constantTimeEqual_lone_surrogate : ¬ ∀ a b : JsString, constantTimeEqual a b = true ↔ a = b := by
  intro h
  exact absurd ((h [0xD800] [0xFFFD]).mp (by decide)) (by decide)

/-- What a caller may rely on: an expected value without the replacement character is met only by itself. -/
theorem constantTimeEqual_iff_of_wellFormed {a : JsString} (ha : a.WellFormed) (hmem : (0xFFFD : UInt16) ∉ a)
    (b : JsString) : constantTimeEqual a b = true ↔ a = b := by
  rw [constantTimeEqual_iff]
  constructor
  · intro h
    have hb : a = b.toWellFormed := by
      rw [← ha.toWellFormed_eq]
      exact JsString.utf8_eq_iff_toWellFormed.mp h
    rw [hb, JsString.toWellFormed_eq_of_not_mem (hb ▸ hmem)]
  · rintro rfl
    rfl

/-- A keyed digest is such a value, so a proof is compared exactly. -/
theorem constantTimeEqual_digest (H : HmacSha256) (key : List UInt8) (data b : JsString) :
    constantTimeEqual (H.digest key data) b = true ↔ H.digest key data = b := by
  have hascii : ∀ c ∈ H.digest key data, JsString.isAscii c = true := fun c hc =>
    isAscii_of_isBase64Url (H.base64url_digest key data c hc)
  exact constantTimeEqual_iff_of_wellFormed (.of_ascii hascii) (fun hmem => absurd (hascii _ hmem) (by decide)) b

end TskProtocol
