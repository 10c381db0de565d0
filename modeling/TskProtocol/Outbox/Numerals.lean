import TskProtocol.Json.Numbers
import TskProtocol.Outbox.Handler

namespace TskProtocol

theorem roundHalfEven_intCast (n : Int) : roundHalfEven n = n := by
  simp [roundHalfEven]

theorem floor_le_roundHalfEven (q : Rat) : q.floor ≤ roundHalfEven q := by
  rw [roundHalfEven]
  split <;> omega

/-- Below 2^53 a natural number is a double. -/
theorem nearestDouble_natCast {n : Nat} (hn : n < 2 ^ 53) : nearestDouble n = n := by
  rw [nearestDouble]
  split
  case isTrue h => exact h.symm
  case isFalse h =>
    have hpos : 0 < n := Nat.pos_of_ne_zero fun h0 => h (by simp [h0])
    have hlog : Int.log 2 |(n : Rat)| = Nat.log 2 n := by
      rw [abs_of_nonneg (by positivity), Int.log_natCast]
    have hlt : Nat.log 2 n < 53 := Nat.log_lt_of_lt_pow hpos.ne' hn
    obtain ⟨k, hk⟩ : ∃ k : Nat, max (Int.log 2 |(n : Rat)| - 52) (-1074) = -(k : Int) := by
      refine ⟨52 - Nat.log 2 n, ?_⟩
      rw [hlog]
      omega
    simp only [hk]
    have hscaled : (n : Rat) / 2 ^ (-(k : Int)) = ((n * 2 ^ k : Int) : Rat) := by
      rw [zpow_neg, div_inv_eq_mul]
      push_cast
      norm_cast
    rw [hscaled, roundHalfEven_intCast, zpow_neg]
    push_cast
    rw [zpow_natCast, mul_assoc, mul_inv_cancel₀ (by positivity), mul_one]

/-- From there on its double is no safe integer. -/
theorem le_nearestDouble {n : Nat} (hn : 2 ^ 53 ≤ n) : (2 ^ 53 : Rat) ≤ nearestDouble n := by
  have hne : (n : Rat) ≠ 0 := by
    have : 0 < n := by omega
    positivity
  rw [nearestDouble, if_neg hne]
  have hlog : Int.log 2 |(n : Rat)| = Nat.log 2 n := by
    rw [abs_of_nonneg (by positivity), Int.log_natCast]
  have hle : 53 ≤ Nat.log 2 n := Nat.le_log_of_pow_le (by decide) hn
  obtain ⟨k, hk, hlogk⟩ : ∃ k : Nat,
      max (Int.log 2 |(n : Rat)| - 52) (-1074) = (k + 1 : Nat) ∧ Nat.log 2 n = 52 + (k + 1) := by
    refine ⟨Nat.log 2 n - 53, ?_, by omega⟩
    rw [hlog]
    omega
  simp only [hk, zpow_natCast]
  have hpow : 2 ^ (52 + (k + 1)) ≤ n := hlogk ▸ Nat.pow_log_le_self 2 (by omega)
  have hquotient : (2 ^ 52 : Rat) ≤ n / 2 ^ (k + 1) := by
    rw [le_div_iff₀ (by positivity), ← pow_add]
    exact_mod_cast hpow
  have hrounded : (2 ^ 52 : Int) ≤ roundHalfEven (n / 2 ^ (k + 1)) :=
    (Rat.le_floor_iff.mpr (by exact_mod_cast hquotient)).trans (floor_le_roundHalfEven _)
  calc
    (2 ^ 53 : Rat) = 2 ^ 52 * 2 := by norm_num
    _ ≤ roundHalfEven (n / 2 ^ (k + 1)) * 2 ^ (k + 1) := by
      apply mul_le_mul
      · exact_mod_cast hrounded
      · exact le_self_pow₀ (by norm_num) (by omega)
      · norm_num
      · exact_mod_cast (by positivity : (0 : Int) ≤ 2 ^ 52).trans hrounded

namespace JsString

theorem foldlM_digits (s : JsString) (hs : ∀ c ∈ s, 48 ≤ c.toNat ∧ c.toNat ≤ 57) (n : Nat) :
    s.foldlM (fun n c => (hexValue c).bind fun d => if d < 10 then some (n * 10 + d) else none) n =
      some (Nat.ofDigitChars 10 (s.map fun c => Char.ofNat c.toNat) n) := by
  induction s generalizing n with
  | nil => rfl
  | cons c s ih =>
    rw [List.forall_mem_cons] at hs
    obtain ⟨h0, h1⟩ := hs.1
    have hhex : hexValue c = some (c.toNat - 48) := by
      rw [hexValue, if_pos]
      exact ⟨UInt16.le_iff_toNat_le.mpr h0, UInt16.le_iff_toNat_le.mpr h1⟩
    have hchar : (Char.ofNat c.toNat).toNat = c.toNat := by
      have hall : ∀ m ≤ 57, (Char.ofNat m).toNat = m := by decide
      exact hall _ h1
    have hzero : '0'.toNat = 48 := rfl
    rw [List.foldlM_cons, hhex, Option.bind_some, if_pos (by omega), Option.bind_eq_bind, Option.bind_some, ih hs.2,
      List.map_cons, Nat.ofDigitChars_cons, hchar, hzero, Nat.mul_comm]

theorem ofNat_ne_nil (n : Nat) : ofNat n ≠ [] := by simp [ofNat]

theorem digitsIn_ofNat (n : Nat) : digitsIn 10 (ofNat n) = some n := by
  rw [digitsIn, if_neg (ofNat_ne_nil n), foldlM_digits _ fun c => digit_of_mem_ofNat]
  exact congrArg some (bigIntOf_ofNat n)

theorem unsignedDecimal_ofNat (n : Nat) : unsignedDecimal (ofNat n) = some (n : Rat) := by
  have htake : (ofNat n).takeWhile isDecimalDigit = ofNat n := List.takeWhile_eq_self_iff.mpr (digits_ofNat n)
  have hdrop : (ofNat n).dropWhile isDecimalDigit = [] := List.dropWhile_eq_nil_iff.mpr (digits_ofNat n)
  simp [unsignedDecimal, htake, hdrop, digitsIn_ofNat]

theorem numericLiteral_ofNat (n : Nat) : numericLiteral (ofNat n) = some (n : Rat) := by
  have hvalue := unsignedDecimal_ofNat n
  have hdigits := digits_ofNat n
  rcases Nat.eq_zero_or_pos n with rfl | hn
  · exact hvalue
  have hhead := head?_ofNat hn
  have hne := ofNat_ne_nil n
  generalize ofNat n = s at *
  unfold numericLiteral
  split
  · exact (hne rfl).elim
  · exact absurd (hdigits 43 List.mem_cons_self) (by decide)
  · exact absurd (hdigits 45 List.mem_cons_self) (by decide)
  · exact (hhead rfl).elim
  · exact hvalue

theorem trim_ofNat (n : Nat) : ((ofNat n).dropWhile isJsWhitespace).rdropWhile isJsWhitespace = ofNat n := by
  have hkept : ∀ c ∈ ofNat n, isJsWhitespace c = false := by
    intro c hc
    obtain ⟨h0, h1⟩ := digit_of_mem_ofNat hc
    have hall : ∀ m ≤ 57, 48 ≤ m → isJsWhitespace (UInt16.ofNat m) = false := by decide
    rw [← UInt16.ofNat_toNat (x := c)]
    exact hall _ h1 h0
  have hfront : (ofNat n).dropWhile isJsWhitespace = ofNat n := by
    cases hdigits : ofNat n with
    | nil => rfl
    | cons c rest => rw [List.dropWhile_cons_of_neg (by rw [hkept c (hdigits ▸ List.mem_cons_self)]; decide)]
  rw [hfront, List.rdropWhile_eq_self_iff]
  intro hne
  rw [hkept _ (List.getLast_mem hne)]
  decide

/-- A safe integer is read back from its own text. -/
theorem toSafeInteger_ofNat {n : Nat} (hn : (n : Int) ≤ MAX_SAFE_INTEGER) : toSafeInteger (ofNat n) = some n := by
  have hlt : n < 2 ^ 53 := by
    rw [MAX_SAFE_INTEGER] at hn
    omega
  have hsafe : isSafeInteger n = true := by
    rw [isSafeInteger, Bool.and_eq_true, decide_eq_true_eq, decide_eq_true_eq]
    rw [MAX_SAFE_INTEGER] at hn ⊢
    omega
  simp [toSafeInteger, trim_ofNat, numericLiteral_ofNat, nearestDouble_natCast hlt, hsafe]

/-- Decimal digits stand for no other number. -/
theorem eq_of_toSafeInteger_ofNat {n : Nat} {m : Int} (h : toSafeInteger (ofNat n) = some m) : m = n := by
  rcases Nat.lt_or_ge n (2 ^ 53) with hlt | hge
  · rw [toSafeInteger_ofNat (by rw [MAX_SAFE_INTEGER]; omega)] at h
    exact (Option.some.inj h).symm
  · simp only [toSafeInteger, trim_ofNat, numericLiteral_ofNat, Option.bind_eq_bind, Option.bind_some] at h
    split at h
    case isFalse => cases h
    case isTrue hsafe =>
      obtain ⟨hden, hsafe⟩ := hsafe
      rw [isSafeInteger, Bool.and_eq_true, decide_eq_true_eq, decide_eq_true_eq, MAX_SAFE_INTEGER] at hsafe
      have hle := le_nearestDouble hge
      have hnum : nearestDouble n = ((nearestDouble n).num : Rat) := ((Rat.den_eq_one_iff _).mp hden).symm
      rw [hnum] at hle
      have : (2 ^ 53 : Int) ≤ (nearestDouble n).num := by exact_mod_cast hle
      omega

end JsString

end TskProtocol
