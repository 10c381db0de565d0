import Mathlib.Data.List.Basic
import Mathlib.Tactic.Common

namespace TskProtocol

/-- A computation that may throw returns only if both of its parts do. -/
theorem bind_eq_ok {ε : Type u} {α β : Type v} {x : Except ε α} {f : α → Except ε β} {b : β} :
    (x >>= f) = .ok b ↔ ∃ a, x = .ok a ∧ f a = .ok b := by
  cases x with
  | error e => simp [bind, Except.bind]
  | ok a => simp [bind, Except.bind]

@[simp] theorem bind_ok {ε : Type u} {α β : Type v} (a : α) (f : α → Except ε β) :
    ((.ok a : Except ε α) >>= f) = f a := rfl

@[simp] theorem bind_error {ε : Type u} {α β : Type v} (e : ε) (f : α → Except ε β) :
    ((.error e : Except ε α) >>= f) = .error e := rfl

@[simp] theorem pure_eq_ok {ε : Type u} {α : Type v} (a : α) :
    (pure a : Except ε α) = .ok a := rfl

/-- `if (!p) throw e`. -/
def require {ε : Type u} (p : Prop) [Decidable p] (e : ε) : Except ε Unit :=
  if p then .ok () else .error e

@[simp] theorem require_eq_ok {ε : Type u} {p : Prop} [Decidable p] {e : ε} {u : Unit} :
    require p e = .ok u ↔ p := by
  by_cases hp : p <;> simp [require, hp]

theorem require_pos {ε : Type u} {p : Prop} [Decidable p] {e : ε} (hp : p) : require p e = .ok () :=
  if_pos hp

theorem require_neg {ε : Type u} {p : Prop} [Decidable p] {e : ε} (hp : ¬ p) :
    require p e = .error e := if_neg hp

/-- The row that a query has found, or a throw. -/
def orThrow {ε : Type u} {α : Type v} (x : Option α) (e : ε) : Except ε α :=
  match x with
  | some a => .ok a
  | none => .error e

@[simp] theorem orThrow_eq_ok {ε : Type u} {α : Type v} {x : Option α} {e : ε} {a : α} :
    orThrow x e = .ok a ↔ x = some a := by
  cases x <;> simp [orThrow]

/-- What a failed check throws. -/
theorem require_eq_error {ε : Type u} {p : Prop} [Decidable p] {e e' : ε} :
    require p e = .error e' ↔ ¬ p ∧ e = e' := by
  by_cases hp : p <;> simp [require, hp]

theorem orThrow_eq_error {ε : Type u} {α : Type v} {x : Option α} {e e' : ε} :
    orThrow x e = .error e' ↔ x = none ∧ e = e' := by
  cases x <;> simp [orThrow]

/-- A computation fails in its first part or in its second. -/
theorem bind_eq_error {ε : Type u} {α β : Type v} {x : Except ε α} {f : α → Except ε β} {e : ε} :
    (x >>= f) = .error e ↔ x = .error e ∨ ∃ a, x = .ok a ∧ f a = .error e := by
  cases x <;> simp

theorem mapM_forall₂ {ε α β : Type} {f : α → Except ε β} {xs : List α} {ys : List β}
    (h : xs.mapM f = .ok ys) : List.Forall₂ (fun x y => f x = .ok y) xs ys := by
  induction xs generalizing ys with
  | nil =>
    simp only [List.mapM_nil, pure_eq_ok, Except.ok.injEq] at h
    exact h ▸ .nil
  | cons x xs ih =>
    simp only [List.mapM_cons, bind_eq_ok, pure_eq_ok, Except.ok.injEq] at h
    obtain ⟨y, hy, rest, hrest, rfl⟩ := h
    exact .cons hy (ih hrest)

theorem mapM_of_forall₂ {ε α β : Type} {f : α → Except ε β} {xs : List α} {ys : List β}
    (h : List.Forall₂ (fun x y => f x = .ok y) xs ys) : xs.mapM f = .ok ys := by
  induction h with
  | nil => rfl
  | cons hxy _ ih => rw [List.mapM_cons, hxy, bind_ok, ih, bind_ok, pure_eq_ok]

/-- A computation that only throws errors of a kind. -/
def ThrowsOnly {ε : Type u} {α : Type v} (kind : ε → Prop) (x : Except ε α) : Prop :=
  ∀ e, x = .error e → kind e

namespace ThrowsOnly

variable {ε : Type u} {α β : Type v} {kind : ε → Prop}

theorem bind {x : Except ε α} {f : α → Except ε β} (hx : ThrowsOnly kind x)
    (hf : ∀ a, ThrowsOnly kind (f a)) : ThrowsOnly kind (x >>= f) := by
  intro e h
  rcases bind_eq_error.mp h with h | ⟨a, -, h⟩
  · exact hx e h
  · exact hf a e h

theorem throws {e : ε} (he : kind e) : ThrowsOnly kind (.error e : Except ε α) := by
  intro e' h
  obtain rfl := Except.error.inj h
  exact he

theorem returns (a : α) : ThrowsOnly kind (.ok a) := by
  intro e h
  cases h

theorem ofOption {x : Option α} {e : ε} (he : kind e) : ThrowsOnly kind (orThrow x e) := by
  intro e' h
  obtain ⟨-, rfl⟩ := orThrow_eq_error.mp h
  exact he

theorem check {p : Prop} [Decidable p] {e : ε} (he : kind e) : ThrowsOnly kind (require p e) := by
  intro e' h
  obtain ⟨-, rfl⟩ := require_eq_error.mp h
  exact he

end ThrowsOnly

theorem forM_eq_ok {ε : Type u} {α : Type v} {f : α → Except ε PUnit} {xs : List α} {u : PUnit} :
    xs.forM f = .ok u ↔ ∀ x ∈ xs, f x = .ok u := by
  induction xs with
  | nil => simp
  | cons x xs ih =>
    have hcons : (x :: xs).forM f = f x >>= fun _ => xs.forM f := rfl
    rw [hcons, bind_eq_ok, List.forall_mem_cons, ← ih]
    exact ⟨fun ⟨_, hx, hxs⟩ => ⟨hx, hxs⟩, fun ⟨hx, hxs⟩ => ⟨u, hx, hxs⟩⟩

theorem mapError_eq_ok {ε : Type u} {δ : Type w} {α : Type v} {f : ε → δ} {x : Except ε α} {a : α} :
    x.mapError f = .ok a ↔ x = .ok a := by
  cases x <;> simp [Except.mapError]

theorem map_eq_ok {ε : Type u} {α : Type v} {β : Type w} {x : Except ε α} {f : α → β} {b : β} :
    x.map f = .ok b ↔ ∃ a, x = .ok a ∧ f a = b := by
  cases x <;> simp [Except.map]

theorem toOption_eq_some {ε : Type u} {α : Type v} {x : Except ε α} {a : α} :
    x.toOption = some a ↔ x = .ok a := by
  cases x <;> simp [Except.toOption]

theorem exists_ok_of_toBool {ε : Type u} {α : Type v} {x : Except ε α} (h : x.toBool = true) :
    ∃ a, x = .ok a := by
  cases x with
  | error e => cases h
  | ok a => exact ⟨a, rfl⟩

/-- A JavaScript string is its sequence of UTF-16 code units. -/
abbrev JsString := List UInt16

/-- What `String.prototype.trim` removes. -/
def isJsWhitespace (c : UInt16) : Bool :=
  (9 ≤ c && c ≤ 13) || c = 32 || c = 160 || c = 0x1680 || (0x2000 ≤ c && c ≤ 0x200A) ||
    c = 0x2028 || c = 0x2029 || c = 0x202F || c = 0x205F || c = 0x3000 || c = 0xFEFF

def isDecimalDigit (c : UInt16) : Bool := 48 ≤ c && c ≤ 57

def toLowerAscii (c : UInt16) : UInt16 := if 65 ≤ c ∧ c ≤ 90 then c + 32 else c

namespace JsString

/-- Found at once, wherever membership of a string is decided. -/
instance instLawfulBEq : LawfulBEq JsString := List.instLawfulBEq

/-- A string literal of the source; every literal there is ASCII. -/
def lit (s : String) : JsString := s.toList.map (fun c => UInt16.ofNat c.toNat)

/-- `String(n)` of a non-negative integer. -/
def ofNat (n : Nat) : JsString := (Nat.toDigits 10 n).map (fun c => UInt16.ofNat c.toNat)

def ofInt : Int → JsString
  | .ofNat n => ofNat n
  | .negSucc n => 45 :: ofNat (n + 1)

/-- `s.slice(start, stop)` for non-negative indices. -/
def slice (s : JsString) (start stop : Nat) : JsString := (s.take stop).drop start

def isHighSurrogate (c : UInt16) : Bool := 0xD800 ≤ c && c ≤ 0xDBFF
def isLowSurrogate (c : UInt16) : Bool := 0xDC00 ≤ c && c ≤ 0xDFFF

/-- The UTF-8 bytes of one code point. -/
def encodePoint (n : Nat) : List UInt8 :=
  if n < 0x80 then [UInt8.ofNat n]
  else if n < 0x800 then [UInt8.ofNat (0xC0 + n / 64), UInt8.ofNat (0x80 + n % 64)]
  else if n < 0x10000 then
    [UInt8.ofNat (0xE0 + n / 4096), UInt8.ofNat (0x80 + n / 64 % 64), UInt8.ofNat (0x80 + n % 64)]
  else
    [UInt8.ofNat (0xF0 + n / 262144), UInt8.ofNat (0x80 + n / 4096 % 64),
      UInt8.ofNat (0x80 + n / 64 % 64), UInt8.ofNat (0x80 + n % 64)]

/-- A code unit on its own; a lone surrogate is written as U+FFFD. -/
def encodeUnit (c : UInt16) : List UInt8 :=
  if isHighSurrogate c || isLowSurrogate c then encodePoint 0xFFFD else encodePoint c.toNat

/-- `Buffer.from(s, 'utf8')`. -/
def utf8 : JsString → List UInt8
  | [] => []
  | [c] => encodeUnit c
  | c :: d :: rest =>
    if isHighSurrogate c && isLowSurrogate d then
      encodePoint (0x10000 + (c.toNat - 0xD800) * 1024 + (d.toNat - 0xDC00)) ++ utf8 rest
    else encodeUnit c ++ utf8 (d :: rest)

def isAscii (c : UInt16) : Bool := c < 0x80

theorem length_slice_le (s : JsString) (start stop : Nat) :
    (s.slice start stop).length ≤ stop - start := by
  simp only [slice, List.length_drop, List.length_take]
  omega

theorem encodeUnit_ascii {c : UInt16} (h : isAscii c = true) :
    encodeUnit c = [UInt8.ofNat c.toNat] := by
  have hc : c.toNat < 0x80 := by simpa [isAscii, UInt16.lt_iff_toNat_lt] using h
  have hhigh : isHighSurrogate c = false := by
    simp only [isHighSurrogate, Bool.and_eq_false_iff, decide_eq_false_iff_not,
      UInt16.le_iff_toNat_le]
    left
    have : (0xD800 : UInt16).toNat = 0xD800 := rfl
    omega
  have hlow : isLowSurrogate c = false := by
    simp only [isLowSurrogate, Bool.and_eq_false_iff, decide_eq_false_iff_not,
      UInt16.le_iff_toNat_le]
    left
    have : (0xDC00 : UInt16).toNat = 0xDC00 := rfl
    omega
  simp [encodeUnit, hhigh, hlow, encodePoint, hc]

theorem not_high_of_ascii {c : UInt16} (h : isAscii c = true) : isHighSurrogate c = false := by
  have hc : c.toNat < 0x80 := by simpa [isAscii, UInt16.lt_iff_toNat_lt] using h
  simp only [isHighSurrogate, Bool.and_eq_false_iff, decide_eq_false_iff_not,
    UInt16.le_iff_toNat_le]
  left
  have : (0xD800 : UInt16).toNat = 0xD800 := rfl
  omega

/-- On ASCII text the encoding is one byte per code unit. -/
theorem utf8_ascii {s : JsString} (h : ∀ c ∈ s, isAscii c = true) :
    utf8 s = s.map (fun c => UInt8.ofNat c.toNat) := by
  induction s with
  | nil => rfl
  | cons c s ih =>
    have hc := h c List.mem_cons_self
    have hs := ih (fun d hd => h d (List.mem_cons_of_mem c hd))
    cases s with
    | nil => simp [utf8, encodeUnit_ascii hc]
    | cons d rest => simp [utf8, not_high_of_ascii hc, encodeUnit_ascii hc, hs]

theorem ascii_byte_inj {c d : UInt16} (hc : isAscii c = true) (hd : isAscii d = true)
    (h : UInt8.ofNat c.toNat = UInt8.ofNat d.toNat) : c = d := by
  have hc' : c.toNat < 0x80 := by simpa [isAscii, UInt16.lt_iff_toNat_lt] using hc
  have hd' : d.toNat < 0x80 := by simpa [isAscii, UInt16.lt_iff_toNat_lt] using hd
  have hn := congrArg UInt8.toNat h
  simp only [UInt8.toNat_ofNat'] at hn
  apply UInt16.toNat_inj.mp
  omega

theorem utf8_inj_of_ascii {s t : JsString} (hs : ∀ c ∈ s, isAscii c = true)
    (ht : ∀ c ∈ t, isAscii c = true) (h : utf8 s = utf8 t) : s = t := by
  rw [utf8_ascii hs, utf8_ascii ht] at h
  induction s generalizing t with
  | nil => cases t with
    | nil => rfl
    | cons d t => simp at h
  | cons c s ih => cases t with
    | nil => simp at h
    | cons d t =>
      simp only [List.map_cons, List.cons.injEq] at h
      have hcd := ascii_byte_inj (hs c List.mem_cons_self) (ht d List.mem_cons_self) h.1
      have hst := ih (fun x hx => hs x (List.mem_cons_of_mem c hx))
        (fun x hx => ht x (List.mem_cons_of_mem d hx)) h.2
      rw [hcd, hst]

theorem toNat_of_isDigit {c : Char} (h : c.isDigit = true) :
    48 ≤ c.toNat ∧ c.toNat ≤ 57 := by
  simp only [Char.isDigit, Bool.and_eq_true, decide_eq_true_eq, ge_iff_le,
    UInt32.le_iff_toNat_le] at h
  exact h

theorem digit_of_mem_ofNat {n : Nat} {c : UInt16} (h : c ∈ ofNat n) :
    48 ≤ c.toNat ∧ c.toNat ≤ 57 := by
  obtain ⟨d, hd, rfl⟩ := List.mem_map.mp h
  have hdigit := toNat_of_isDigit (Nat.isDigit_of_mem_toDigits (by decide) (by decide) hd)
  simp only [UInt16.toNat_ofNat']
  omega

theorem map_toChar_ofNat (n : Nat) :
    (ofNat n).map (fun c => Char.ofNat c.toNat) = Nat.toDigits 10 n := by
  rw [ofNat, List.map_map]
  conv_rhs => rw [← List.map_id (Nat.toDigits 10 n)]
  apply List.map_congr_left
  intro c hc
  have hdigit := toNat_of_isDigit (Nat.isDigit_of_mem_toDigits (by decide) (by decide) hc)
  have hmod : c.toNat % 2 ^ 16 = c.toNat := Nat.mod_eq_of_lt (by omega)
  simp only [Function.comp_apply, UInt16.toNat_ofNat', hmod, Char.ofNat_toNat, id_eq]

theorem ofNat_injective {m n : Nat} (h : ofNat m = ofNat n) : m = n := by
  have hdigits : Nat.toDigits 10 m = Nat.toDigits 10 n := by
    rw [← map_toChar_ofNat, h, map_toChar_ofNat]
  rw [← Nat.ofDigitChars_ten_toDigits (n := m), hdigits, Nat.ofDigitChars_ten_toDigits]

theorem length_ofNat_le {n k : Nat} (hk : 0 < k) (h : n < Nat.pow 10 k) : (ofNat n).length ≤ k := by
  rw [ofNat, List.length_map]
  exact (Nat.length_toDigits_le_iff (by decide) hk).mpr h

end JsString

end TskProtocol
