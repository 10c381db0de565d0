import Mathlib.Algebra.Group.Nat.Defs
import TskProtocol.Outbox.Contract

namespace TskProtocol.JsString

/-- A code unit on its own, as a code point. -/
def unitPoint (c : UInt16) : Nat := if isHighSurrogate c || isLowSurrogate c then 0xFFFD else c.toNat

def pairPoint (c d : UInt16) : Nat := 0x10000 + (c.toNat - 0xD800) * 1024 + (d.toNat - 0xDC00)

/-- The code points of a string. -/
def points : JsString → List Nat
  | [] => []
  | [c] => [unitPoint c]
  | c :: d :: rest =>
    if isHighSurrogate c && isLowSurrogate d then pairPoint c d :: points rest
    else unitPoint c :: points (d :: rest)

/-- Without lone surrogates a string is a list of characters outside the surrogates and of pairs. -/
inductive WellFormed : JsString → Prop
  | nil : WellFormed []
  | unit {c : UInt16} {rest : JsString} : isHighSurrogate c = false → isLowSurrogate c = false →
      WellFormed rest → WellFormed (c :: rest)
  | pair {c d : UInt16} {rest : JsString} : isHighSurrogate c = true → isLowSurrogate d = true →
      WellFormed rest → WellFormed (c :: d :: rest)

theorem encodeUnit_eq (c : UInt16) : encodeUnit c = encodePoint (unitPoint c) := by
  unfold encodeUnit unitPoint
  split <;> rfl

theorem utf8_eq (s : JsString) : utf8 s = (points s).flatMap encodePoint := by
  induction s using points.induct with
  | case1 => rfl
  | case2 c => simp [utf8, points, encodeUnit_eq]
  | case3 c d rest h ih =>
    rw [utf8, points, if_pos h, if_pos h, List.flatMap_cons, ih]
    rfl
  | case4 c d rest h ih => rw [utf8, points, if_neg h, if_neg h, List.flatMap_cons, ih, encodeUnit_eq]

theorem encodePoint_cases (n : Nat) :
    (n < 0x80 ∧ encodePoint n = [UInt8.ofNat n]) ∨
    (0x80 ≤ n ∧ n < 0x800 ∧ encodePoint n = [UInt8.ofNat (0xC0 + n / 64), UInt8.ofNat (0x80 + n % 64)]) ∨
    (0x800 ≤ n ∧ n < 0x10000 ∧ encodePoint n = [UInt8.ofNat (0xE0 + n / 4096),
      UInt8.ofNat (0x80 + n / 64 % 64), UInt8.ofNat (0x80 + n % 64)]) ∨
    (0x10000 ≤ n ∧ encodePoint n = [UInt8.ofNat (0xF0 + n / 262144),
      UInt8.ofNat (0x80 + n / 4096 % 64), UInt8.ofNat (0x80 + n / 64 % 64), UInt8.ofNat (0x80 + n % 64)]) := by
  unfold encodePoint
  split
  · exact .inl ⟨‹_›, rfl⟩
  split
  · exact .inr (.inl ⟨by omega, ‹_›, rfl⟩)
  split
  · exact .inr (.inr (.inl ⟨by omega, ‹_›, rfl⟩))
  · exact .inr (.inr (.inr ⟨by omega, rfl⟩))

theorem encodePoint_ne_nil (n : Nat) : encodePoint n ≠ [] := by
  rcases encodePoint_cases n with ⟨-, h⟩ | ⟨-, -, h⟩ | ⟨-, -, h⟩ | ⟨-, h⟩ <;> simp [h]

/-- The length of an encoded code point can be read off its first byte. -/
theorem encodePoint_append_inj {m n : Nat} {x y : List UInt8} (hm : m < 0x110000) (hn : n < 0x110000)
    (h : encodePoint m ++ x = encodePoint n ++ y) : m = n ∧ x = y := by
  have hbyte (a b : Nat) : UInt8.ofNat a = UInt8.ofNat b ↔ a % 256 = b % 256 := by
    rw [← UInt8.toNat_inj, UInt8.toNat_ofNat', UInt8.toNat_ofNat']
  rcases encodePoint_cases m with ⟨_, e⟩ | ⟨_, _, e⟩ | ⟨_, _, e⟩ | ⟨_, e⟩ <;>
  rcases encodePoint_cases n with ⟨_, f⟩ | ⟨_, _, f⟩ | ⟨_, _, f⟩ | ⟨_, f⟩ <;>
  simp only [e, f, List.cons_append, List.nil_append, List.cons.injEq, hbyte] at h <;>
  first
  | exact ⟨by omega, h.2⟩
  | exact ⟨by omega, h.2.2⟩
  | exact ⟨by omega, h.2.2.2⟩
  | exact ⟨by omega, h.2.2.2.2⟩
  | omega

theorem toNat_of_high {c : UInt16} (h : isHighSurrogate c = true) : 0xD800 ≤ c.toNat ∧ c.toNat ≤ 0xDBFF := by
  simpa [isHighSurrogate, UInt16.le_iff_toNat_le] using h

theorem toNat_of_low {c : UInt16} (h : isLowSurrogate c = true) : 0xDC00 ≤ c.toNat ∧ c.toNat ≤ 0xDFFF := by
  simpa [isLowSurrogate, UInt16.le_iff_toNat_le] using h

theorem unitPoint_lt (c : UInt16) : unitPoint c < 0x10000 := by
  unfold unitPoint
  split
  · decide
  · exact c.toNat_lt

theorem pairPoint_lt {c d : UInt16} (hc : isHighSurrogate c = true) (hd : isLowSurrogate d = true) :
    0x10000 ≤ pairPoint c d ∧ pairPoint c d < 0x110000 := by
  obtain ⟨hc0, hc1⟩ := toNat_of_high hc
  obtain ⟨hd0, hd1⟩ := toNat_of_low hd
  unfold pairPoint
  omega

theorem points_lt (s : JsString) : ∀ n ∈ points s, n < 0x110000 := by
  induction s using points.induct with
  | case1 => simp [points]
  | case2 c =>
    have := unitPoint_lt c
    simp only [points, List.mem_singleton, forall_eq]
    omega
  | case3 c d rest h ih =>
    rw [points, if_pos h, List.forall_mem_cons]
    rw [Bool.and_eq_true] at h
    exact ⟨(pairPoint_lt h.1 h.2).2, ih⟩
  | case4 c d rest h ih =>
    have := unitPoint_lt c
    rw [points, if_neg h, List.forall_mem_cons]
    exact ⟨by omega, ih⟩

theorem wellFormed_iff {s : JsString} : WellFormed s ↔ s.hasLoneSurrogate = false := by
  constructor
  · intro h
    induction h with
    | nil => rfl
    | @unit c rest hhigh hlow hrest ih =>
      cases rest with
      | nil => simp [hasLoneSurrogate, hhigh, hlow]
      | cons d rest => simp [hasLoneSurrogate, hhigh, hlow, ih]
    | pair hhigh hlow _ ih => simp [hasLoneSurrogate, hhigh, hlow, ih]
  · intro h
    induction s using hasLoneSurrogate.induct with
    | case1 => exact .nil
    | case2 c =>
      simp only [hasLoneSurrogate, Bool.or_eq_false_iff] at h
      exact .unit h.1 h.2 .nil
    | case3 c d rest hhigh ih =>
      simp only [hasLoneSurrogate, hhigh, if_true, Bool.or_eq_false_iff, Bool.not_eq_false'] at h
      exact .pair hhigh h.1 (ih h.2)
    | case4 c d rest hhigh ih =>
      simp only [hasLoneSurrogate, if_neg hhigh, Bool.or_eq_false_iff] at h
      exact .unit (by simpa using hhigh) h.1 (ih h.2)

namespace WellFormed

theorem append {s t : JsString} (hs : WellFormed s) (ht : WellFormed t) : WellFormed (s ++ t) := by
  induction hs with
  | nil => exact ht
  | unit hhigh hlow _ ih => exact .unit hhigh hlow ih
  | pair hhigh hlow _ ih => exact .pair hhigh hlow ih

theorem of_ascii {s : JsString} (h : ∀ c ∈ s, isAscii c = true) : WellFormed s := by
  induction s with
  | nil => exact .nil
  | cons c s ih =>
    have hc := h c List.mem_cons_self
    refine .unit (not_high_of_ascii hc) ?_ (ih fun d hd => h d (List.mem_cons_of_mem c hd))
    cases hlow : isLowSurrogate c with
    | false => rfl
    | true =>
      obtain ⟨h0, -⟩ := toNat_of_low hlow
      have hlt : c.toNat < 0x80 := by simpa [isAscii, UInt16.lt_iff_toNat_lt] using hc
      omega

/-- What a literal is checked by. -/
theorem of_all_ascii {s : JsString} (h : s.all isAscii = true) : WellFormed s :=
  of_ascii (List.all_eq_true.mp h)

theorem points_unit {c : UInt16} {rest : JsString} (hhigh : isHighSurrogate c = false)
    (hlow : isLowSurrogate c = false) : points (c :: rest) = c.toNat :: points rest := by
  have hpoint : unitPoint c = c.toNat := by simp [unitPoint, hhigh, hlow]
  cases rest with
  | nil => simp [points, hpoint]
  | cons d rest => simp [points, hhigh, hpoint]

theorem points_pair {c d : UInt16} {rest : JsString} (hhigh : isHighSurrogate c = true)
    (hlow : isLowSurrogate d = true) : points (c :: d :: rest) = pairPoint c d :: points rest := by
  simp [points, hhigh, hlow]

theorem points_inj {s t : JsString} (hs : WellFormed s) (ht : WellFormed t) (h : points s = points t) :
    s = t := by
  induction hs generalizing t with
  | nil =>
    cases ht with
    | nil => rfl
    | unit hhigh hlow =>
      rw [points_unit hhigh hlow] at h
      cases h
    | pair hhigh hlow =>
      rw [points_pair hhigh hlow] at h
      cases h
  | @unit c rest hhigh hlow _ ih =>
    rw [points_unit hhigh hlow] at h
    cases ht with
    | nil => simp [points] at h
    | @unit c' rest' hhigh' hlow' hrest' =>
      rw [points_unit hhigh' hlow', List.cons.injEq] at h
      rw [UInt16.toNat_inj.mp h.1, ih hrest' h.2]
    | @pair c' d' rest' hhigh' hlow' =>
      rw [points_pair hhigh' hlow', List.cons.injEq] at h
      have hlt := c.toNat_lt
      have hge := (pairPoint_lt hhigh' hlow').1
      omega
  | @pair c d rest hhigh hlow _ ih =>
    rw [points_pair hhigh hlow] at h
    cases ht with
    | nil => simp [points] at h
    | @unit c' rest' hhigh' hlow' =>
      rw [points_unit hhigh' hlow', List.cons.injEq] at h
      have hlt := c'.toNat_lt
      have hge := (pairPoint_lt hhigh hlow).1
      omega
    | @pair c' d' rest' hhigh' hlow' hrest' =>
      rw [points_pair hhigh' hlow', List.cons.injEq] at h
      obtain ⟨hc0, hc1⟩ := toNat_of_high hhigh
      obtain ⟨hd0, hd1⟩ := toNat_of_low hlow
      obtain ⟨hc0', hc1'⟩ := toNat_of_high hhigh'
      obtain ⟨hd0', hd1'⟩ := toNat_of_low hlow'
      have hpoint := h.1
      unfold pairPoint at hpoint
      have hc : c.toNat = c'.toNat := by omega
      have hd : d.toNat = d'.toNat := by omega
      rw [UInt16.toNat_inj.mp hc, UInt16.toNat_inj.mp hd, ih hrest' h.2]

end WellFormed

theorem flatMap_encodePoint_inj {xs ys : List Nat} (hxs : ∀ n ∈ xs, n < 0x110000)
    (hys : ∀ n ∈ ys, n < 0x110000) (h : xs.flatMap encodePoint = ys.flatMap encodePoint) : xs = ys := by
  induction xs generalizing ys with
  | nil =>
    cases ys with
    | nil => rfl
    | cons y ys => simp [encodePoint_ne_nil] at h
  | cons x xs ih =>
    cases ys with
    | nil => simp [encodePoint_ne_nil] at h
    | cons y ys =>
      rw [List.flatMap_cons, List.flatMap_cons] at h
      obtain ⟨rfl, hrest⟩ := encodePoint_append_inj (hxs x List.mem_cons_self) (hys y List.mem_cons_self) h
      rw [ih (fun n hn => hxs n (List.mem_cons_of_mem _ hn)) (fun n hn => hys n (List.mem_cons_of_mem _ hn))
        hrest]

/-- UTF-8 keeps well-formed strings apart. -/
theorem utf8_injective {s t : JsString} (hs : WellFormed s) (ht : WellFormed t) (h : utf8 s = utf8 t) :
    s = t := by
  rw [utf8_eq, utf8_eq] at h
  exact hs.points_inj ht (flatMap_encodePoint_inj (points_lt s) (points_lt t) h)

/-- A sequence begun: its bits so far, how many bytes are missing, and the bounds of the next one. -/
structure PendingPoint where
  point : Nat
  missing : Nat
  lower : Nat
  upper : Nat

/-- The code units of a code point. -/
def pointUnits (n : Nat) : JsString :=
  if n < 0x10000 then [UInt16.ofNat n]
  else [UInt16.ofNat (0xD800 + (n - 0x10000) / 1024), UInt16.ofNat (0xDC00 + (n - 0x10000) % 1024)]

/-- A byte where a sequence may begin. -/
def decodeLead (b : Nat) : JsString × Option PendingPoint :=
  if b < 0x80 then ([UInt16.ofNat b], none)
  else if 0xC2 ≤ b ∧ b < 0xE0 then ([], some ⟨b - 0xC0, 1, 0x80, 0xBF⟩)
  else if 0xE0 ≤ b ∧ b < 0xF0 then
    ([], some ⟨b - 0xE0, 2, if b = 0xE0 then 0xA0 else 0x80, if b = 0xED then 0x9F else 0xBF⟩)
  else if 0xF0 ≤ b ∧ b < 0xF5 then
    ([], some ⟨b - 0xF0, 3, if b = 0xF0 then 0x90 else 0x80, if b = 0xF4 then 0x8F else 0xBF⟩)
  else ([0xFFFD], none)

/-- A byte that does not continue the sequence ends it, and is read again as a first one. -/
def decodeByte (pending : Option PendingPoint) (b : Nat) : JsString × Option PendingPoint :=
  match pending with
  | none => decodeLead b
  | some p =>
    if p.lower ≤ b ∧ b ≤ p.upper then
      if p.missing = 1 then (pointUnits (p.point * 64 + (b - 0x80)), none)
      else ([], some ⟨p.point * 64 + (b - 0x80), p.missing - 1, 0x80, 0xBF⟩)
    else (0xFFFD :: (decodeLead b).1, (decodeLead b).2)

def decodeUtf8From (pending : Option PendingPoint) : List UInt8 → JsString
  | [] => if pending.isSome then [0xFFFD] else []
  | b :: rest => (decodeByte pending b.toNat).1 ++ decodeUtf8From (decodeByte pending b.toNat).2 rest

/-- `buffer.toString('utf8')`. -/
def decodeUtf8 (bytes : List UInt8) : JsString := decodeUtf8From none bytes

theorem decodeUtf8From_cons (pending : Option PendingPoint) {n : Nat} (hn : n < 256) (rest : List UInt8) :
    decodeUtf8From pending (UInt8.ofNat n :: rest) =
      (decodeByte pending n).1 ++ decodeUtf8From (decodeByte pending n).2 rest := by
  have hbyte : (UInt8.ofNat n).toNat = n := by
    rw [UInt8.toNat_ofNat']
    omega
  rw [decodeUtf8From, hbyte]

theorem decodeByte_last {q d : Nat} (hd : d < 64) :
    decodeByte (some ⟨q, 1, 0x80, 0xBF⟩) (0x80 + d) = (pointUnits (q * 64 + d), none) := by
  have hbounds : 0x80 ≤ 0x80 + d ∧ 0x80 + d ≤ 0xBF := by omega
  simp only [decodeByte, if_pos hbounds, if_true, Nat.add_sub_cancel_left]

theorem decodeByte_more {q d missing lower upper : Nat} (hlower : lower ≤ 0x80 + d)
    (hupper : 0x80 + d ≤ upper) : decodeByte (some ⟨q, missing + 2, lower, upper⟩) (0x80 + d) =
      ([], some ⟨q * 64 + d, missing + 1, 0x80, 0xBF⟩) := by
  have hmissing : missing + 2 ≠ 1 := by omega
  simp only [decodeByte, if_pos (And.intro hlower hupper), if_neg hmissing, Nat.add_sub_cancel_left,
    Nat.add_succ_sub_one]

/-- A code point outside the surrogates is read back. -/
theorem decodeUtf8From_encodePoint {n : Nat} (hn : n < 0x110000) (hscalar : ¬ (0xD800 ≤ n ∧ n < 0xE000))
    (rest : List UInt8) :
    decodeUtf8From none (encodePoint n ++ rest) = pointUnits n ++ decodeUtf8From none rest := by
  have hlow : n / 64 * 64 + n % 64 = n := by omega
  have hmid : n / 4096 * 64 + n / 64 % 64 = n / 64 := by omega
  have hhigh : n / 262144 * 64 + n / 4096 % 64 = n / 4096 := by omega
  rcases encodePoint_cases n with ⟨h, e⟩ | ⟨h0, h1, e⟩ | ⟨h0, h1, e⟩ | ⟨h0, e⟩
  · have hlead : decodeByte none n = (pointUnits n, none) := by
      have hshort : n < 0x10000 := by omega
      simp only [decodeByte, decodeLead, if_pos h, pointUnits, if_pos hshort]
    rw [e, List.singleton_append, decodeUtf8From_cons none (by omega), hlead]
  · have hlead : decodeByte none (0xC0 + n / 64) = ([], some ⟨n / 64, 1, 0x80, 0xBF⟩) := by
      rw [decodeByte, decodeLead, if_neg (by omega), if_pos (by omega), Nat.add_sub_cancel_left]
    simp only [e, List.cons_append, List.nil_append]
    rw [decodeUtf8From_cons none (by omega), hlead, decodeUtf8From_cons _ (by omega),
      decodeByte_last (by omega), hlow, List.nil_append]
  · have hlead : decodeByte none (0xE0 + n / 4096) = ([], some ⟨n / 4096, 2,
        if n / 4096 = 0 then 0xA0 else 0x80, if n / 4096 = 0xD then 0x9F else 0xBF⟩) := by
      have hzero : 0xE0 + n / 4096 = 0xE0 ↔ n / 4096 = 0 := by omega
      have hthirteen : 0xE0 + n / 4096 = 0xED ↔ n / 4096 = 0xD := by omega
      rw [decodeByte, decodeLead, if_neg (by omega), if_neg (by omega), if_pos (by omega),
        Nat.add_sub_cancel_left]
      simp only [hzero, hthirteen]
    simp only [e, List.cons_append, List.nil_append]
    rw [decodeUtf8From_cons none (by omega), hlead, decodeUtf8From_cons _ (by omega),
      decodeByte_more (by split <;> omega) (by split <;> omega), hmid, decodeUtf8From_cons _ (by omega),
      decodeByte_last (by omega), hlow, List.nil_append, List.nil_append]
  · have hlead : decodeByte none (0xF0 + n / 262144) = ([], some ⟨n / 262144, 3,
        if n / 262144 = 0 then 0x90 else 0x80, if n / 262144 = 4 then 0x8F else 0xBF⟩) := by
      have hzero : 0xF0 + n / 262144 = 0xF0 ↔ n / 262144 = 0 := by omega
      have hfour : 0xF0 + n / 262144 = 0xF4 ↔ n / 262144 = 4 := by omega
      rw [decodeByte, decodeLead, if_neg (by omega), if_neg (by omega), if_neg (by omega),
        if_pos (by omega), Nat.add_sub_cancel_left]
      simp only [hzero, hfour]
    simp only [e, List.cons_append, List.nil_append]
    rw [decodeUtf8From_cons none (by omega), hlead, decodeUtf8From_cons _ (by omega),
      decodeByte_more (by split <;> omega) (by split <;> omega), hhigh, decodeUtf8From_cons _ (by omega),
      decodeByte_more (by omega) (by omega), hmid, decodeUtf8From_cons _ (by omega),
      decodeByte_last (by omega), hlow, List.nil_append, List.nil_append, List.nil_append]

/-- Decoding gives a well-formed string back. -/
theorem decodeUtf8_utf8 {s : JsString} (hs : WellFormed s) : decodeUtf8 (utf8 s) = s := by
  rw [utf8_eq, decodeUtf8]
  induction hs with
  | nil => rfl
  | @unit c rest hhigh hlow _ ih =>
    have hlt := c.toNat_lt
    have hscalar : ¬ (0xD800 ≤ c.toNat ∧ c.toNat < 0xE000) := by
      simp only [isHighSurrogate, isLowSurrogate, Bool.and_eq_false_iff, decide_eq_false_iff_not,
        UInt16.le_iff_toNat_le, UInt16.reduceToNat] at hhigh hlow
      omega
    have hunits : pointUnits c.toNat = [c] := by
      rw [pointUnits, if_pos (by omega), UInt16.ofNat_toNat]
    rw [WellFormed.points_unit hhigh hlow, List.flatMap_cons, decodeUtf8From_encodePoint (by omega) hscalar, ih,
      hunits, List.singleton_append]
  | @pair c d rest hhigh hlow _ ih =>
    obtain ⟨hge, hlt⟩ := pairPoint_lt hhigh hlow
    obtain ⟨hc0, hc1⟩ := toNat_of_high hhigh
    obtain ⟨hd0, hd1⟩ := toNat_of_low hlow
    have hunits : pointUnits (pairPoint c d) = [c, d] := by
      have hc : 0xD800 + (pairPoint c d - 0x10000) / 1024 = c.toNat := by
        unfold pairPoint
        omega
      have hd : 0xDC00 + (pairPoint c d - 0x10000) % 1024 = d.toNat := by
        unfold pairPoint
        omega
      rw [pointUnits, if_neg (by omega), hc, hd, UInt16.ofNat_toNat, UInt16.ofNat_toNat]
    rw [WellFormed.points_pair hhigh hlow, List.flatMap_cons, decodeUtf8From_encodePoint hlt (by omega), ih, hunits,
      List.cons_append, List.singleton_append]

/-- What a sequence that is begun can only become: no ASCII. -/
def PendingPoint.Long (p : PendingPoint) : Prop :=
  1 ≤ p.missing ∧ 0x80 ≤ p.lower ∧ 0x80 ≤ (p.point * 64 + (p.lower - 0x80)) * 64 ^ (p.missing - 1)

theorem isAscii_ofNat {n : Nat} (hn : n < 0x10000) : isAscii (UInt16.ofNat n) = true ↔ n < 0x80 := by
  simp only [isAscii, decide_eq_true_eq, UInt16.lt_iff_toNat_lt, UInt16.toNat_ofNat', UInt16.reduceToNat]
  rw [Nat.mod_eq_of_lt hn]

theorem not_ascii_pointUnits {n : Nat} (h : 0x80 ≤ n) : ¬ ∀ c ∈ pointUnits n, isAscii c = true := by
  rw [pointUnits]
  split
  case isTrue hn =>
    intro hall
    have := (isAscii_ofNat hn).mp (hall _ List.mem_cons_self)
    omega
  case isFalse hn =>
    intro hall
    have := (isAscii_ofNat (by omega)).mp (hall _ (List.mem_cons_of_mem _ List.mem_cons_self))
    omega

theorem not_ascii_replacement (rest : JsString) : ¬ ∀ c ∈ (0xFFFD :: rest : JsString), isAscii c = true :=
  fun hall => absurd (hall 0xFFFD List.mem_cons_self) (by decide)

/-- A byte either stands for itself, is replaced, or begins a longer sequence. -/
theorem decodeLead_cases (b : Nat) : (b < 0x80 ∧ decodeLead b = ([UInt16.ofNat b], none)) ∨
    (∃ rest, (decodeLead b).1 = 0xFFFD :: rest) ∨ ∃ p, decodeLead b = ([], some p) ∧ p.Long := by
  unfold decodeLead
  split
  · exact .inl ⟨‹_›, rfl⟩
  split
  · refine .inr (.inr ⟨_, rfl, le_refl 1, le_refl 128, ?_⟩)
    simp only
    omega
  split
  · refine .inr (.inr ⟨_, rfl, by simp, by dsimp only; split <;> decide, ?_⟩)
    dsimp only
    split <;> omega
  split
  · refine .inr (.inr ⟨_, rfl, by simp, by dsimp only; split <;> decide, ?_⟩)
    dsimp only
    split <;> omega
  · exact .inr (.inl ⟨[], rfl⟩)

theorem decodeByte_long {p : PendingPoint} (hp : p.Long) (b : Nat) :
    (¬ ∀ c ∈ (decodeByte (some p) b).1, isAscii c = true) ∨
      ∃ q, decodeByte (some p) b = ([], some q) ∧ q.Long := by
  obtain ⟨hmissing, hlower, hpoint⟩ := hp
  simp only [decodeByte]
  split
  case isFalse =>
    left
    exact not_ascii_replacement (decodeLead b).1
  case isTrue hb =>
    split
    case isTrue hlast =>
      have hone : 64 ^ (p.missing - 1) = 1 := by rw [hlast, Nat.sub_self, Nat.pow_zero]
      rw [hone, Nat.mul_one] at hpoint
      have hle : 0x80 ≤ p.point * 64 + (b - 0x80) := by omega
      left
      dsimp only
      exact not_ascii_pointUnits hle
    case isFalse hmore =>
      refine .inr ⟨_, rfl, ?_, le_refl _, ?_⟩
      · simp only
        omega
      · have hpow : 64 ^ (p.missing - 1) = 64 * 64 ^ (p.missing - 1 - 1) := by
          rw [← Nat.pow_succ']
          congr 1
          omega
        have hle : p.point * 64 + (p.lower - 0x80) ≤ p.point * 64 + (b - 0x80) := by omega
        calc
          0x80 ≤ (p.point * 64 + (p.lower - 0x80)) * 64 ^ (p.missing - 1) := hpoint
          _ ≤ (p.point * 64 + (b - 0x80)) * 64 ^ (p.missing - 1) := Nat.mul_le_mul_right _ hle
          _ = ((p.point * 64 + (b - 0x80)) * 64 + (0x80 - 0x80)) * 64 ^ (p.missing - 1 - 1) := by
            rw [hpow, Nat.sub_self, Nat.add_zero, Nat.mul_assoc]

/-- A sequence that was begun never comes out as ASCII. -/
theorem not_ascii_of_long {p : PendingPoint} (hp : p.Long) (bytes : List UInt8) :
    ¬ ∀ c ∈ decodeUtf8From (some p) bytes, isAscii c = true := by
  induction bytes generalizing p with
  | nil => exact not_ascii_replacement []
  | cons b bytes ih =>
    rw [decodeUtf8From]
    rcases decodeByte_long hp b.toNat with hbyte | ⟨q, hbyte, hq⟩
    · exact fun hall => hbyte fun c hc => hall c (List.mem_append_left _ hc)
    · rw [hbyte, List.nil_append]
      exact ih hq

/-- Bytes that come out as ASCII are its own. -/
theorem utf8_decodeUtf8 {bytes : List UInt8} (h : ∀ c ∈ decodeUtf8 bytes, isAscii c = true) :
    utf8 (decodeUtf8 bytes) = bytes := by
  rw [utf8_ascii h]
  induction bytes with
  | nil => rfl
  | cons b bytes ih =>
    rw [decodeUtf8, decodeUtf8From] at h ⊢
    rcases decodeLead_cases b.toNat with ⟨hb, hlead⟩ | ⟨rest, hlead⟩ | ⟨p, hlead, hp⟩
    · simp only [decodeByte, hlead] at h ⊢
      rw [List.singleton_append, List.forall_mem_cons] at h
      rw [List.singleton_append, List.map_cons]
      congr 1
      · apply UInt8.toNat_inj.mp
        rw [UInt8.toNat_ofNat', UInt16.toNat_ofNat']
        omega
      · exact ih h.2
    · simp only [decodeByte, hlead] at h
      exact (not_ascii_replacement rest fun c hc => h c (List.mem_append_left _ hc)).elim
    · simp only [decodeByte, hlead, List.nil_append] at h
      exact (not_ascii_of_long hp bytes h).elim

theorem isAscii_of_mem_ofNat {n : Nat} {c : UInt16} (h : c ∈ ofNat n) : isAscii c = true := by
  have hdigit := digit_of_mem_ofNat h
  simp only [isAscii, decide_eq_true_eq, UInt16.lt_iff_toNat_lt]
  simp
  omega

theorem wellFormed_ofNat (n : Nat) : (ofNat n).WellFormed := .of_ascii fun _ => isAscii_of_mem_ofNat

theorem wellFormed_ofInt (n : Int) : (ofInt n).WellFormed := by
  cases n with
  | ofNat n => exact wellFormed_ofNat n
  | negSucc n => exact .unit (by decide) (by decide) (wellFormed_ofNat _)

theorem WellFormed.utf8_append {s : JsString} (hs : WellFormed s) (t : JsString) :
    utf8 (s ++ t) = utf8 s ++ utf8 t := by
  induction hs with
  | nil => rfl
  | @unit c rest hhigh hlow _ ih =>
    rw [List.cons_append, utf8_eq, utf8_eq (c :: rest), points_unit hhigh hlow, points_unit hhigh hlow,
      List.flatMap_cons, List.flatMap_cons, ← utf8_eq, ← utf8_eq, ih, List.append_assoc]
  | @pair c d rest hhigh hlow _ ih =>
    rw [List.cons_append, List.cons_append, utf8_eq, utf8_eq (c :: d :: rest), points_pair hhigh hlow,
      points_pair hhigh hlow, List.flatMap_cons, List.flatMap_cons, ← utf8_eq, ← utf8_eq, ih, List.append_assoc]

theorem ascii_escapeUnit (c : UInt16) : ∀ d ∈ escapeUnit c, isAscii d = true := by
  have hdigit : ∀ n < 16, isAscii (hexDigit n) = true := by decide
  have hlt := c.toNat_lt
  intro d hd
  simp only [escapeUnit, List.mem_cons, List.not_mem_nil, or_false] at hd
  rcases hd with rfl | rfl | rfl | rfl | rfl | rfl
  · decide
  · decide
  · exact hdigit _ (by omega)
  · exact hdigit _ (by omega)
  · exact hdigit _ (by omega)
  · exact hdigit _ (by omega)

/-- A unit is escaped by ASCII text, or it is no surrogate and stays. -/
theorem quoteUnit_cases (c : UInt16) :
    ((∀ d ∈ quoteUnit c, isAscii d = true) ∧ (quoteUnit c).length ≤ 6) ∨
      (isHighSurrogate c = false ∧ isLowSurrogate c = false ∧ quoteUnit c = [c]) := by
  unfold quoteUnit
  iterate 7
    split
    · exact .inl ⟨List.all_eq_true.mp (by decide), by decide⟩
  split
  · exact .inl ⟨ascii_escapeUnit c, Nat.le_refl 6⟩
  · next h =>
    simp only [Bool.or_eq_true, not_or, Bool.not_eq_true] at h
    exact .inr ⟨h.1.2, h.2, rfl⟩

theorem wellFormed_quoteUnit (c : UInt16) : (quoteUnit c).WellFormed := by
  rcases quoteUnit_cases c with ⟨hascii, -⟩ | ⟨hhigh, hlow, heq⟩
  · exact .of_ascii hascii
  · rw [heq]
    exact .unit hhigh hlow .nil

theorem wellFormed_quoteUnits (s : JsString) : (quoteUnits s).WellFormed := by
  induction s using quoteUnits.induct with
  | case1 => exact .nil
  | case2 c => exact wellFormed_quoteUnit c
  | case3 c d rest h ih =>
    rw [quoteUnits, if_pos h]
    rw [Bool.and_eq_true] at h
    exact .pair h.1 h.2 ih
  | case4 c d rest h ih =>
    rw [quoteUnits, if_neg h]
    exact (wellFormed_quoteUnit c).append ih

/-- JSON text escapes lone surrogates. -/
theorem wellFormed_quote (s : JsString) : s.quote.WellFormed :=
  .unit (by decide) (by decide) ((wellFormed_quoteUnits s).append (.unit (by decide) (by decide) .nil))

theorem one_le_length_encodePoint (n : Nat) : 1 ≤ (encodePoint n).length :=
  List.length_pos_iff.mpr (encodePoint_ne_nil n)

theorem length_utf8_quoteUnit_le (c : UInt16) : (quoteUnit c).utf8.length ≤ 6 * (encodeUnit c).length := by
  have hpos := one_le_length_encodePoint (unitPoint c)
  rw [← encodeUnit_eq] at hpos
  rcases quoteUnit_cases c with ⟨hascii, hle⟩ | ⟨-, -, heq⟩
  · rw [utf8_ascii hascii, List.length_map]
    omega
  · rw [heq, utf8]
    omega

/-- What escapes can add. -/
theorem length_utf8_quoteUnits_le (s : JsString) : (quoteUnits s).utf8.length ≤ 6 * s.utf8.length := by
  induction s using quoteUnits.induct with
  | case1 => simp [quoteUnits, utf8]
  | case2 c => exact length_utf8_quoteUnit_le c
  | case3 c d rest h ih =>
    rw [quoteUnits, if_pos h, utf8, if_pos h, utf8, if_pos h, List.length_append, List.length_append]
    omega
  | case4 c d rest h ih =>
    have hc := length_utf8_quoteUnit_le c
    rw [quoteUnits, if_neg h, (wellFormed_quoteUnit c).utf8_append, utf8, if_neg h, List.length_append,
      List.length_append]
    omega

theorem length_utf8_quote_le (s : JsString) : s.quote.utf8.length ≤ 6 * s.utf8.length + 2 := by
  have hopen : WellFormed [34] := .of_all_ascii (by decide)
  have hquote : s.quote = [34] ++ (quoteUnits s ++ [34]) := rfl
  have hbyte : (utf8 [34]).length = 1 := by decide
  have hle := length_utf8_quoteUnits_le s
  rw [hquote, hopen.utf8_append, (wellFormed_quoteUnits s).utf8_append, List.length_append, List.length_append, hbyte]
  omega

theorem length_encodePoint_le (n : Nat) : (encodePoint n).length ≤ 4 := by
  rcases encodePoint_cases n with ⟨-, h⟩ | ⟨-, -, h⟩ | ⟨-, -, h⟩ | ⟨-, h⟩ <;> simp [h]

theorem length_utf8_le (s : JsString) : (utf8 s).length ≤ 4 * s.length := by
  have hunit (c : UInt16) : (encodeUnit c).length ≤ 4 := by
    rw [encodeUnit_eq]
    exact length_encodePoint_le _
  induction s using utf8.induct with
  | case1 => simp [utf8]
  | case2 c => simpa [utf8] using hunit c
  | case3 c d rest h ih =>
    have hpair := length_encodePoint_le (0x10000 + (c.toNat - 0xD800) * 1024 + (d.toNat - 0xDC00))
    rw [utf8, if_pos h]
    simp only [List.length_append, List.length_cons]
    omega
  | case4 c d rest h ih =>
    have hc := hunit c
    rw [utf8, if_neg h]
    simp only [List.length_append, List.length_cons] at ih ⊢
    omega

end TskProtocol.JsString
