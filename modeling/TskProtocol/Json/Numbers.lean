import TskProtocol.Json.Parse

namespace TskProtocol

namespace JsString

theorem isDecimalDigit_of_mem_ofNat {n : Nat} {c : UInt16} (h : c ∈ ofNat n) :
    isDecimalDigit c = true := by
  have hdigit := digit_of_mem_ofNat h
  simp only [isDecimalDigit, Bool.and_eq_true, decide_eq_true_eq, UInt16.le_iff_toNat_le]
  exact hdigit

theorem digits_ofNat (n : Nat) : ∀ c ∈ ofNat n, isDecimalDigit c = true :=
  fun _ => isDecimalDigit_of_mem_ofNat

/-- A positive number is written without a leading zero. -/
theorem head?_ofNat {n : Nat} (hn : 0 < n) : (ofNat n).head? ≠ some 48 := by
  induction n using Nat.strongRecOn with
  | ind n ih =>
    rcases Nat.lt_or_ge n 10 with hlt | hge
    · have hall : ∀ n < 10, 0 < n → (ofNat n).head? ≠ some 48 := by decide
      exact hall n hlt hn
    · have hrest := ih (n / 10) (by omega) (by omega)
      have hne : ofNat (n / 10) ≠ [] := by simp [ofNat, Nat.toDigits_ne_nil]
      rw [ofNat, Nat.toDigits_of_base_le (by decide) hge, List.map_append]
      rwa [← ofNat, List.head?_append_of_ne_nil _ hne]

/-- What may follow the digits of an integer. -/
def endsNumber (c : UInt16) : Bool := !isDecimalDigit c && c ≠ 46 && c ≠ 101 && c ≠ 69

/-- What stands behind a value does not go on with a number. -/
def Ends (rest : JsString) : Prop := ∀ c, rest.head? = some c → endsNumber c = true

theorem Ends.nil : Ends [] := fun _ h => by cases h

theorem Ends.cons {c : UInt16} (h : endsNumber c = true) (rest : JsString) : Ends (c :: rest) := by
  rintro _ ⟨⟩
  exact h

theorem takeWhile_digits {digits rest : JsString} (hdigits : ∀ c ∈ digits, isDecimalDigit c = true)
    (hrest : ∀ c, rest.head? = some c → isDecimalDigit c = false) :
    (digits ++ rest).takeWhile isDecimalDigit = digits := by
  rw [List.takeWhile_append_of_pos hdigits]
  cases rest with
  | nil => simp
  | cons c rest => rw [List.takeWhile_cons_of_neg (by simp [hrest c rfl]), List.append_nil]

theorem parseNat_ofNat (n : Nat) {rest : JsString} (h : Ends rest) :
    parseNat (ofNat n ++ rest) = some (n, rest) := by
  have hends (c : UInt16) (hc : rest.head? = some c) :
      isDecimalDigit c = false ∧ c ≠ 46 ∧ c ≠ 101 ∧ c ≠ 69 := by
    have := h c hc
    simp only [endsNumber, Bool.and_eq_true, Bool.not_eq_true', decide_eq_true_eq] at this
    obtain ⟨⟨⟨hdigit, h46⟩, h101⟩, h69⟩ := this
    exact ⟨hdigit, h46, h101, h69⟩
  have hdigits := takeWhile_digits (digits_ofNat n) fun c hc => (hends c hc).1
  have hne : ofNat n ≠ [] := by simp [ofNat, Nat.toDigits_ne_nil]
  have hzero : (ofNat n).head? = some 48 → (ofNat n).length = 1 := by
    rcases Nat.eq_zero_or_pos n with rfl | hn
    · decide
    · exact fun h => (head?_ofNat hn h).elim
  simp only [parseNat, hdigits, List.drop_left]
  rw [if_pos ⟨hne, hzero, fun hc => (hends _ hc).2.1 rfl, fun hc => (hends _ hc).2.2.1 rfl,
    fun hc => (hends _ hc).2.2.2 rfl⟩, bigIntOf_ofNat]

theorem parseInt_ofInt (n : Int) {rest : JsString} (h : Ends rest) :
    parseInt (ofInt n ++ rest) = some (n, rest) := by
  cases n with
  | ofNat n =>
    have hhead : (ofNat n ++ rest).head? ≠ some 45 := by
      intro hc
      have hne : ofNat n ≠ [] := by simp [ofNat, Nat.toDigits_ne_nil]
      rw [List.head?_append_of_ne_nil _ hne] at hc
      exact absurd (digit_of_mem_ofNat (List.mem_of_mem_head? hc)).1 (by decide)
    simp only [ofInt, parseInt, if_neg hhead, parseNat_ofNat n h, Option.map_some, Int.ofNat_eq_natCast]
  | negSucc n =>
    have hnat := parseNat_ofNat (n + 1) h
    simp only [ofInt, parseInt, List.cons_append, List.head?_cons, List.tail_cons, if_true, hnat,
      Option.map_some, Int.negSucc_eq, Int.natCast_add, Int.cast_ofNat_Int]

/-- What stands behind a fraction. -/
def EndsFraction (rest : JsString) : Prop :=
  ∀ c, rest.head? = some c → isDecimalDigit c = false ∧ c ≠ 46

theorem Ends.fraction {rest : JsString} (h : Ends rest) : EndsFraction rest := by
  intro c hc
  have hend := h c hc
  simp only [endsNumber, Bool.and_eq_true, Bool.not_eq_true', decide_eq_true_eq] at hend
  exact ⟨hend.1.1.1, hend.1.1.2⟩

theorem parseFraction_text {fraction rest : JsString}
    (hfraction : ∀ c ∈ fraction, isDecimalDigit c = true) (hrest : EndsFraction rest) :
    parseFraction (JsDecimal.fractionText fraction ++ rest) = some (fraction, rest) := by
  by_cases hempty : fraction = []
  · have hpoint : rest.head? ≠ some 46 := fun hc => (hrest 46 hc).2 rfl
    rw [hempty, JsDecimal.fractionText, if_pos rfl, List.nil_append, parseFraction, if_neg hpoint]
  · have hdigits := takeWhile_digits hfraction fun c hc => (hrest c hc).1
    rw [JsDecimal.fractionText, if_neg hempty]
    simp only [parseFraction, List.cons_append, List.head?_cons, if_true, List.tail_cons, hdigits]
    rw [if_neg hempty, List.drop_left]

theorem parseExponent_ends {rest : JsString} (h : Ends rest) : parseExponent rest = some (0, rest) := by
  rw [parseExponent, if_neg]
  rintro (hc | hc)
  · exact absurd (h 101 hc) (by decide)
  · exact absurd (h 69 hc) (by decide)

theorem parseExponent_text (exponent : Int) {rest : JsString} (h : Ends rest) :
    parseExponent (JsDecimal.exponentText exponent ++ rest) = some (exponent, rest) := by
  have hdigits := takeWhile_digits (digits_ofNat exponent.natAbs) fun c hc => (h.fraction c hc).1
  have hne : ofNat exponent.natAbs ≠ [] := by simp [ofNat, Nat.toDigits_ne_nil]
  by_cases hsign : exponent < 0
  · simp only [JsDecimal.exponentText, if_pos hsign, parseExponent, List.cons_append, List.head?_cons,
      List.tail_cons, true_or, if_true, hdigits, if_neg hne, List.drop_left, bigIntOf_ofNat]
    rw [show -(exponent.natAbs : Int) = exponent by omega]
  · have hplus : ¬ (some (43 : UInt16) = some 45) := by decide
    simp only [JsDecimal.exponentText, if_neg hsign, parseExponent, List.cons_append, List.head?_cons,
      List.tail_cons, true_or, or_true, if_true, hdigits, if_neg hne, if_neg hplus, List.drop_left,
      bigIntOf_ofNat]
    rw [show (exponent.natAbs : Int) = exponent by omega]

end JsString

namespace JsDecimal

open JsString

/-- The parts that a decimal is written in. -/
structure Written (d : JsDecimal) (whole fraction tail : JsString) (exponent : Int) : Prop where
  text : d.unsignedText = whole ++ (fractionText fraction ++ tail)
  whole_digits : ∀ c ∈ whole, isDecimalDigit c = true
  whole_ne : whole ≠ []
  whole_zero : whole.head? = some 48 → whole.length = 1
  fraction_digits : ∀ c ∈ fraction, isDecimalDigit c = true
  tail_eq : tail = [] ∧ exponent = 0 ∧ fraction ≠ [] ∨ tail = exponentText exponent
  value : ∃ zeros : Nat, whole ++ fraction = List.replicate zeros 48 ++ d.digits ∧
    whole.length + exponent = d.point + zeros

theorem mem_digits (d : JsDecimal) : ∀ c ∈ d.digits, isDecimalDigit c = true :=
  List.all_eq_true.mp d.all_digits

theorem digits_pos (d : JsDecimal) : 0 < d.digits.length := List.length_pos_of_ne_nil d.ne_nil

theorem head?_take (d : JsDecimal) {n : Nat} (hn : n ≠ 0) : (d.digits.take n).head? ≠ some 48 := by
  rw [List.head?_take, if_neg hn]
  exact d.head_ne

theorem written (d : JsDecimal) : ∃ whole fraction tail exponent, d.Written whole fraction tail exponent := by
  have hdigits := d.mem_digits
  have hpos := d.digits_pos
  by_cases hinside : 0 < d.point ∧ d.point ≤ 21
  · have hshort : d.point.toNat < d.digits.length := by
      have := d.not_integer
      omega
    refine ⟨d.digits.take d.point.toNat, d.digits.drop d.point.toNat, [], 0, ?_⟩
    constructor
    · rw [unsignedText, if_pos hinside, List.append_nil]
    · exact fun c hc => hdigits c (List.mem_of_mem_take hc)
    · exact List.ne_nil_of_length_pos (by rw [List.length_take]; omega)
    · exact fun h => (d.head?_take (by omega) h).elim
    · exact fun c hc => hdigits c (List.mem_of_mem_drop hc)
    · exact .inl ⟨rfl, rfl, List.ne_nil_of_length_pos (by rw [List.length_drop]; omega)⟩
    · refine ⟨0, List.take_append_drop _ _, ?_⟩
      rw [List.length_take]
      omega
  by_cases hsmall : -6 < d.point ∧ d.point ≤ 0
  · refine ⟨[48], List.replicate d.point.natAbs 48 ++ d.digits, [], 0, ?_⟩
    constructor
    · rw [unsignedText, if_neg hinside, if_pos hsmall, List.append_nil]
    · simp [isDecimalDigit]
    · simp
    · exact fun _ => rfl
    · intro c hc
      rcases List.mem_append.mp hc with hc | hc
      · obtain ⟨-, rfl⟩ := List.mem_replicate.mp hc
        decide
      · exact hdigits c hc
    · exact .inl ⟨rfl, rfl, by simp [d.ne_nil]⟩
    · refine ⟨d.point.natAbs + 1, by rw [List.replicate_succ]; rfl, ?_⟩
      rw [List.length_singleton]
      omega
  · refine ⟨d.digits.take 1, d.digits.drop 1, exponentText (d.point - 1), d.point - 1, ?_⟩
    constructor
    · rw [unsignedText, if_neg hinside, if_neg hsmall, List.append_assoc]
    · exact fun c hc => hdigits c (List.mem_of_mem_take hc)
    · exact List.ne_nil_of_length_pos (by rw [List.length_take]; omega)
    · exact fun h => (d.head?_take (by decide) h).elim
    · exact fun c hc => hdigits c (List.mem_of_mem_drop hc)
    · exact .inr rfl
    · refine ⟨0, List.take_append_drop _ _, ?_⟩
      rw [List.length_take]
      omega

/-- The zeros around the digits are taken off again. -/
theorem ofDecimal_digits (d : JsDecimal) (zeros : Nat) :
    Json.ofDecimal d.negative (List.replicate zeros 48 ++ d.digits) (d.point + zeros) = .dec d := by
  have hfront : (List.replicate zeros (48 : UInt16) ++ d.digits).dropWhile (· = 48) = d.digits := by
    rw [List.dropWhile_append_of_pos (by simp)]
    obtain ⟨c, rest, hdigits⟩ := List.exists_cons_of_ne_nil d.ne_nil
    have hc := d.head_ne
    rw [hdigits, List.head?_cons] at hc
    rw [hdigits, List.dropWhile_cons_of_neg (by simpa using hc)]
  have hcore : d.digits.rdropWhile (· = 48) = d.digits := by
    rw [List.rdropWhile_eq_self_iff]
    intro hne hlast
    apply d.last_ne
    rw [List.getLast?_eq_some_getLast hne]
    exact congrArg some (by simpa using hlast)
  have hpoint : d.point + zeros - ((List.replicate zeros (48 : UInt16) ++ d.digits).length -
      d.digits.length : Nat) = d.point := by
    rw [List.length_append, List.length_replicate]
    omega
  simp only [Json.ofDecimal, hfront, hcore, hpoint]
  exact dif_pos ⟨d.all_digits, d.ne_nil, d.head_ne, d.last_ne, d.not_integer⟩

section Parse

variable {d : JsDecimal} {whole fraction tail rest : JsString} {exponent : Int}

theorem Written.parseExponent_tail (h : d.Written whole fraction tail exponent) (hrest : Ends rest) :
    parseExponent (tail ++ rest) = some (exponent, rest) := by
  rcases h.tail_eq with ⟨rfl, rfl, -⟩ | rfl
  · exact parseExponent_ends hrest
  · exact parseExponent_text exponent hrest

theorem Written.endsFraction (h : d.Written whole fraction tail exponent) (hrest : Ends rest) :
    EndsFraction (tail ++ rest) := by
  rcases h.tail_eq with ⟨rfl, -, -⟩ | rfl
  · exact hrest.fraction
  · rintro c ⟨⟩
    decide

/-- A fraction or an exponent follows the whole part. -/
theorem Written.behind_whole (h : d.Written whole fraction tail exponent) (rest : JsString) :
    (fractionText fraction ++ (tail ++ rest)).head? = some 46 ∨
      (fractionText fraction ++ (tail ++ rest)).head? = some 101 := by
  by_cases hempty : fraction = []
  · rcases h.tail_eq with ⟨-, -, hne⟩ | rfl
    · exact (hne hempty).elim
    · rw [hempty]
      exact .inr rfl
  · rw [fractionText, if_neg hempty]
    exact .inl rfl

theorem Written.takeWhile_whole (h : d.Written whole fraction tail exponent) (rest : JsString) :
    (d.unsignedText ++ rest).takeWhile isDecimalDigit = whole := by
  rw [h.text, List.append_assoc, List.append_assoc]
  refine takeWhile_digits h.whole_digits fun c hc => ?_
  rcases h.behind_whole rest with hnext | hnext
  · obtain rfl := Option.some.inj (hc.symm.trans hnext)
    decide
  · obtain rfl := Option.some.inj (hc.symm.trans hnext)
    decide

/-- A digit begins the text behind the sign. -/
theorem unsignedText_head (d : JsDecimal) :
    ∃ c text, d.unsignedText = c :: text ∧ isDecimalDigit c = true := by
  obtain ⟨whole, fraction, tail, exponent, h⟩ := d.written
  obtain ⟨c, whole, rfl⟩ := List.exists_cons_of_ne_nil h.whole_ne
  exact ⟨c, _, h.text, h.whole_digits c List.mem_cons_self⟩

theorem head?_unsignedText (d : JsDecimal) (rest : JsString) : (d.unsignedText ++ rest).head? ≠ some 45 := by
  obtain ⟨c, text, htext, hc⟩ := d.unsignedText_head
  rw [htext]
  rintro ⟨⟩
  exact absurd hc (by decide)

theorem parseNat_unsignedText (d : JsDecimal) (rest : JsString) : parseNat (d.unsignedText ++ rest) = none := by
  obtain ⟨whole, fraction, tail, exponent, h⟩ := d.written
  simp only [parseNat, h.takeWhile_whole]
  rw [h.text, List.append_assoc, List.append_assoc, List.drop_left, if_neg]
  rintro ⟨-, -, hpoint, hexponent, -⟩
  rcases h.behind_whole rest with hnext | hnext
  · exact hpoint hnext
  · exact hexponent hnext

theorem parseInt_text (d : JsDecimal) (rest : JsString) : parseInt (d.text ++ rest) = none := by
  rw [text]
  split
  · rw [List.cons_append, parseInt, List.head?_cons, if_pos rfl, List.tail_cons, parseNat_unsignedText,
      Option.map_none]
  · rw [parseInt, if_neg (d.head?_unsignedText rest), parseNat_unsignedText, Option.map_none]

theorem parseDecimal_text (d : JsDecimal) (hrest : Ends rest) :
    Json.parseDecimal (d.text ++ rest) = some (.dec d, rest) := by
  obtain ⟨whole, fraction, tail, exponent, h⟩ := d.written
  obtain ⟨zeros, hdigits, hpoint⟩ := h.value
  have hsign : decide ((d.text ++ rest).head? = some 45) = d.negative := by
    rw [text]
    cases d.negative with
    | true => rfl
    | false => exact decide_eq_false (d.head?_unsignedText rest)
  have hunsigned : (if d.negative = true then (d.text ++ rest).tail else d.text ++ rest) =
      d.unsignedText ++ rest := by
    rw [text]
    cases d.negative <;> rfl
  simp only [Json.parseDecimal, hsign, hunsigned, h.takeWhile_whole]
  rw [if_pos ⟨h.whole_ne, h.whole_zero⟩, h.text, List.append_assoc, List.append_assoc, List.drop_left,
    parseFraction_text h.fraction_digits (h.endsFraction hrest)]
  simp only [Option.bind_eq_bind, Option.bind_some, h.parseExponent_tail hrest, hdigits, hpoint,
    ofDecimal_digits]

end Parse

theorem wellFormed_digits {digits : JsString} (h : ∀ c ∈ digits, isDecimalDigit c = true) :
    digits.WellFormed := by
  refine .of_ascii fun c hc => ?_
  have hdigit := h c hc
  simp only [isDecimalDigit, Bool.and_eq_true, decide_eq_true_eq, UInt16.le_iff_toNat_le] at hdigit
  simp only [isAscii, decide_eq_true_eq, UInt16.lt_iff_toNat_lt]
  simp at hdigit ⊢
  omega

theorem wellFormed_fractionText {fraction : JsString} (h : ∀ c ∈ fraction, isDecimalDigit c = true) :
    (fractionText fraction).WellFormed := by
  rw [fractionText]
  split
  · exact .nil
  · exact .unit (by decide) (by decide) (wellFormed_digits h)

theorem wellFormed_exponentText (exponent : Int) : (exponentText exponent).WellFormed := by
  refine .unit (by decide) (by decide) ?_
  split
  · exact .unit (by decide) (by decide) (wellFormed_ofNat _)
  · exact .unit (by decide) (by decide) (wellFormed_ofNat _)

theorem wellFormed_text (d : JsDecimal) : d.text.WellFormed := by
  obtain ⟨whole, fraction, tail, exponent, h⟩ := d.written
  have htail : tail.WellFormed := by
    rcases h.tail_eq with ⟨rfl, -, -⟩ | rfl
    · exact .nil
    · exact wellFormed_exponentText exponent
  have hunsigned : d.unsignedText.WellFormed := by
    rw [h.text]
    exact (wellFormed_digits h.whole_digits).append
      ((wellFormed_fractionText h.fraction_digits).append htail)
  rw [text]
  split
  · exact .unit (by decide) (by decide) hunsigned
  · exact hunsigned

theorem parseNumber_text (d : JsDecimal) {rest : JsString} (hrest : Ends rest) :
    Json.parseNumber (d.text ++ rest) = some (.dec d, rest) := by
  rw [Json.parseNumber, parseInt_text]
  exact d.parseDecimal_text hrest

end JsDecimal

namespace Json

theorem parseNumber_ofInt (n : Int) {rest : JsString} (h : rest.Ends) :
    parseNumber (JsString.ofInt n ++ rest) = some (.num n, rest) := by
  rw [parseNumber, JsString.parseInt_ofInt n h]

/-- What the text of a number begins with. -/
def startsNumber (c : UInt16) : Bool := c = 45 || isDecimalDigit c

theorem startsNumber_ofInt (n : Int) : ∃ c text, JsString.ofInt n = c :: text ∧ startsNumber c = true := by
  cases n with
  | negSucc n => exact ⟨45, _, rfl, rfl⟩
  | ofNat n =>
    obtain ⟨c, digits, hdigits⟩ : ∃ c digits, JsString.ofNat n = c :: digits :=
      List.exists_cons_of_ne_nil (by simp [JsString.ofNat, Nat.toDigits_ne_nil])
    have hc := JsString.digits_ofNat n c (by rw [hdigits]; exact List.mem_cons_self)
    exact ⟨c, digits, hdigits, by rw [startsNumber, hc, Bool.or_true]⟩

theorem startsNumber_text (d : JsDecimal) : ∃ c text, d.text = c :: text ∧ startsNumber c = true := by
  obtain ⟨c, text, htext, hc⟩ := d.unsignedText_head
  rw [JsDecimal.text]
  split
  · exact ⟨45, _, rfl, rfl⟩
  · exact ⟨c, text, htext, by rw [startsNumber, hc, Bool.or_true]⟩

theorem startsNumber_toNat {c : UInt16} (h : startsNumber c = true) :
    c = 45 ∨ 48 ≤ c.toNat ∧ c.toNat ≤ 57 := by
  simpa [startsNumber, isDecimalDigit, UInt16.le_iff_toNat_le] using h

end Json

end TskProtocol
