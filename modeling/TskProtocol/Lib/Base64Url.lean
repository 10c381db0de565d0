import Mathlib.Data.List.Basic
import Mathlib.Data.List.TakeWhile
import Mathlib.Tactic.Common

/-- Unpadded base64url of bytes, as UTF-16 code units. -/
def Base64Url.digit (n : Nat) : UInt16 :=
  if n < 26 then UInt16.ofNat (65 + n)
  else if n < 52 then UInt16.ofNat (71 + n)
  else if n < 62 then UInt16.ofNat (n - 4)
  else if n = 62 then 45
  else 95

namespace Base64Url

/-- The digits of both alphabets are read. -/
def sextet (c : UInt16) : Option Nat :=
  if 65 ≤ c ∧ c ≤ 90 then some (c.toNat - 65)
  else if 97 ≤ c ∧ c ≤ 122 then some (c.toNat - 71)
  else if 48 ≤ c ∧ c ≤ 57 then some (c.toNat + 4)
  else if c = 45 ∨ c = 43 then some 62
  else if c = 95 ∨ c = 47 then some 63
  else none

def sextets : List UInt8 → List Nat
  | [] => []
  | [a] => [a.toNat / 4, a.toNat % 4 * 16]
  | [a, b] => [a.toNat / 4, a.toNat % 4 * 16 + b.toNat / 16, b.toNat % 16 * 4]
  | a :: b :: c :: rest =>
    [a.toNat / 4, a.toNat % 4 * 16 + b.toNat / 16, b.toNat % 16 * 4 + c.toNat / 64,
      c.toNat % 64] ++ sextets rest

def bytes : List Nat → List UInt8
  | a :: b :: c :: d :: rest =>
    [UInt8.ofNat (a * 4 + b / 16), UInt8.ofNat (b % 16 * 16 + c / 4), UInt8.ofNat (c % 4 * 64 + d)] ++
      bytes rest
  | [a, b, c] => [UInt8.ofNat (a * 4 + b / 16), UInt8.ofNat (b % 16 * 16 + c / 4)]
  | [a, b] => [UInt8.ofNat (a * 4 + b / 16)]
  | _ => []

def encode (data : List UInt8) : List UInt16 := (sextets data).map digit

/-- Padded base64 of the other alphabet. -/
def standardDigit (n : Nat) : UInt16 := if n = 62 then 43 else if n = 63 then 47 else digit n

def encodeStandard (data : List UInt8) : List UInt16 :=
  (sextets data).map standardDigit ++ List.replicate ((3 - data.length % 3) % 3) 61

/-- Reading stops at the first padding character and skips what is no digit. -/
def decode (text : List UInt16) : List UInt8 :=
  bytes ((text.takeWhile (· ≠ 61)).filterMap sextet)

theorem sextet_digit {n : Nat} (h : n < 64) : sextet (digit n) = some n ∧ digit n ≠ 61 := by
  have hall : ∀ m < 64, sextet (digit m) = some m ∧ digit m ≠ 61 := by decide
  exact hall n h

theorem sextets_lt {data : List UInt8} {n : Nat} (h : n ∈ sextets data) : n < 64 := by
  have hlt : ∀ x : UInt8, x.toNat < 256 := UInt8.toNat_lt
  induction data using sextets.induct with
  | case1 => simp [sextets] at h
  | case2 a =>
    have := hlt a
    simp only [sextets, List.mem_cons, List.not_mem_nil, or_false] at h
    omega
  | case3 a b =>
    have := hlt a
    have := hlt b
    simp only [sextets, List.mem_cons, List.not_mem_nil, or_false] at h
    omega
  | case4 a b c rest ih =>
    have := hlt a
    have := hlt b
    have := hlt c
    simp only [sextets, List.cons_append, List.nil_append, List.mem_cons] at h
    rcases h with h | h | h | h | h
    · omega
    · omega
    · omega
    · omega
    · exact ih h

theorem ofNat_eq {n : Nat} {x : UInt8} (h : n = x.toNat) : UInt8.ofNat n = x := by
  subst h
  exact UInt8.ofNat_toNat

theorem bytes_sextets (data : List UInt8) : bytes (sextets data) = data := by
  have hlt : ∀ x : UInt8, x.toNat < 256 := UInt8.toNat_lt
  induction data using sextets.induct with
  | case1 => rfl
  | case2 a =>
    have := hlt a
    simp only [sextets, bytes, List.cons.injEq, and_true]
    exact ofNat_eq (by omega)
  | case3 a b =>
    have := hlt a
    have := hlt b
    simp only [sextets, bytes, List.cons.injEq, and_true]
    exact ⟨ofNat_eq (by omega), ofNat_eq (by omega)⟩
  | case4 a b c rest ih =>
    have := hlt a
    have := hlt b
    have := hlt c
    simp only [sextets, List.cons_append, List.nil_append, bytes, ih, List.cons.injEq, and_true]
    exact ⟨ofNat_eq (by omega), ofNat_eq (by omega), ofNat_eq (by omega)⟩

/-- Digits in front of padding are read back, whatever their alphabet. -/
theorem decode_digits {digit : Nat → UInt16} (hdigit : ∀ n < 64, sextet (digit n) = some n ∧ digit n ≠ 61)
    (data : List UInt8) (padding : Nat) :
    decode ((sextets data).map digit ++ List.replicate padding 61) = data := by
  have hdigits : ∀ c ∈ (sextets data).map digit, decide (c ≠ 61) = true := by
    intro c hc
    obtain ⟨n, hn, rfl⟩ := List.mem_map.mp hc
    simpa using (hdigit n (sextets_lt hn)).2
  have hpadding : (List.replicate padding (61 : UInt16)).takeWhile (fun c => decide (c ≠ 61)) = [] := by
    cases padding <;> simp [List.replicate_succ]
  have hread : ((sextets data).map digit).filterMap sextet = sextets data := by
    rw [List.filterMap_map]
    conv_rhs => rw [← List.filterMap_some (l := sextets data)]
    refine List.filterMap_congr (fun n hn => ?_)
    exact (hdigit n (sextets_lt hn)).1
  rw [decode, List.takeWhile_append_of_pos hdigits, hpadding, List.append_nil, hread, bytes_sextets]

theorem decode_encode (data : List UInt8) : decode (encode data) = data := by
  have h := decode_digits (fun n hn => sextet_digit hn) data 0
  rwa [List.replicate_zero, List.append_nil] at h

theorem decode_encodeStandard (data : List UInt8) : decode (encodeStandard data) = data := by
  refine decode_digits (fun n hn => ?_) data _
  have hall : ∀ m < 64, sextet (standardDigit m) = some m ∧ standardDigit m ≠ 61 := by decide
  exact hall n hn

end Base64Url
