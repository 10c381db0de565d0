import Mathlib.Data.List.Basic
import Mathlib.Tactic.Common

/-- Four bytes, the most significant one first. -/
def Framing.lengthBytes (n : Nat) : List UInt8 :=
  [UInt8.ofNat (n / 16777216), UInt8.ofNat (n / 65536), UInt8.ofNat (n / 256), UInt8.ofNat n]

namespace Framing

/-- A field behind its presence tag and its length; an absent one is a single tag. -/
def field : Option (List UInt8) → List UInt8
  | none => [0]
  | some bytes => 1 :: (lengthBytes bytes.length ++ bytes)

def encode (fields : List (Option (List UInt8))) : List UInt8 := fields.flatMap field

/-- Short enough for the length to fit its four bytes. -/
def Short (x : Option (List UInt8)) : Prop := ∀ bytes ∈ x, bytes.length < 4294967296

@[simp] theorem encode_nil : encode [] = [] := rfl

@[simp] theorem encode_cons (x : Option (List UInt8)) (xs : List (Option (List UInt8))) :
    encode (x :: xs) = field x ++ encode xs := by
  simp [encode]

theorem lengthBytes_inj {m n : Nat} (hm : m < 4294967296) (hn : n < 4294967296)
    (h : lengthBytes m = lengthBytes n) : m = n := by
  simp only [lengthBytes, List.cons.injEq, and_true] at h
  obtain ⟨h3, h2, h1, h0⟩ := h
  have b3 := congrArg UInt8.toNat h3
  have b2 := congrArg UInt8.toNat h2
  have b1 := congrArg UInt8.toNat h1
  have b0 := congrArg UInt8.toNat h0
  simp only [UInt8.toNat_ofNat'] at b3 b2 b1 b0
  omega

/-- The first field can be told apart from what follows it. -/
theorem field_append_inj {x y : Option (List UInt8)} {rest rest' : List UInt8} (hx : Short x)
    (hy : Short y) (h : field x ++ rest = field y ++ rest') : x = y ∧ rest = rest' := by
  cases x with
  | none =>
    cases y with
    | none => exact ⟨rfl, by simpa [field] using h⟩
    | some b => simp [field] at h
  | some a =>
    cases y with
    | none => simp [field] at h
    | some b =>
      simp only [field, List.cons_append, List.append_assoc, List.cons.injEq, true_and] at h
      obtain ⟨hlen, hbody⟩ := List.append_inj h rfl
      have hab := lengthBytes_inj (hx a rfl) (hy b rfl) hlen
      obtain ⟨rfl, hrest⟩ := List.append_inj hbody hab
      exact ⟨rfl, hrest⟩

theorem field_ne_nil (x : Option (List UInt8)) : field x ≠ [] := by
  cases x <;> simp [field]

/-- No byte can move across the boundary of a field. -/
theorem encode_injective {xs ys : List (Option (List UInt8))} (hxs : ∀ x ∈ xs, Short x)
    (hys : ∀ y ∈ ys, Short y) (h : encode xs = encode ys) : xs = ys := by
  induction xs generalizing ys with
  | nil =>
    cases ys with
    | nil => rfl
    | cons y ys => simp [field_ne_nil] at h
  | cons x xs ih =>
    cases ys with
    | nil => simp [field_ne_nil] at h
    | cons y ys =>
      rw [encode_cons, encode_cons] at h
      obtain ⟨rfl, hrest⟩ :=
        field_append_inj (hxs x List.mem_cons_self) (hys y List.mem_cons_self) h
      rw [ih (fun x hx => hxs x (List.mem_cons_of_mem _ hx))
        (fun y hy => hys y (List.mem_cons_of_mem _ hy)) hrest]

inductive ReadFault
  | tag | length | body
  deriving DecidableEq, Repr

def lengthOf (a b c d : UInt8) : Nat := ((a.toNat * 256 + b.toNat) * 256 + c.toNat) * 256 + d.toNat

/-- The fields of a frame, read one behind the other. -/
def read : List UInt8 → Except ReadFault (List (Option (List UInt8)))
  | [] => .ok []
  | tag :: rest =>
    if tag = 0 then (read rest).map (none :: ·)
    else if tag = 1 then
      match rest with
      | a :: b :: c :: d :: rest =>
        if lengthOf a b c d ≤ rest.length then
          (read (rest.drop (lengthOf a b c d))).map (some (rest.take (lengthOf a b c d)) :: ·)
        else .error .body
      | _ => .error .length
    else .error .tag
  termination_by bytes => bytes.length
  decreasing_by
    · simp
    · simp only [List.length_drop, List.length_cons]
      omega

theorem lengthOf_eq {a b c d : UInt8} {n : Nat} (hn : n < 4294967296) (h : lengthBytes n = [a, b, c, d]) :
    lengthOf a b c d = n := by
  simp only [lengthBytes, List.cons.injEq, and_true] at h
  obtain ⟨rfl, rfl, rfl, rfl⟩ := h
  simp only [lengthOf, UInt8.toNat_ofNat']
  omega

theorem lengthBytes_lengthOf (a b c d : UInt8) : lengthBytes (lengthOf a b c d) = [a, b, c, d] := by
  have ha := a.toNat_lt
  have hb := b.toNat_lt
  have hc := c.toNat_lt
  have hd := d.toNat_lt
  simp only [lengthBytes, lengthOf, List.cons.injEq, and_true]
  refine ⟨?_, ?_, ?_, ?_⟩
  all_goals
    apply UInt8.toNat_inj.mp
    rw [UInt8.toNat_ofNat']
    omega

theorem read_field {x : Option (List UInt8)} (hx : Short x) (rest : List UInt8) :
    read (field x ++ rest) = (read rest).map (x :: ·) := by
  cases x with
  | none =>
    rw [field, List.singleton_append]
    conv_lhs => unfold read
    rfl
  | some bytes =>
    have hlength := hx bytes rfl
    obtain ⟨a, b, c, d, hbytes⟩ : ∃ a b c d, lengthBytes bytes.length = [a, b, c, d] := ⟨_, _, _, _, rfl⟩
    simp only [field, hbytes, List.cons_append, List.nil_append]
    conv_lhs => unfold read
    rw [if_neg (by decide), if_pos rfl]
    simp only [lengthOf_eq hlength hbytes, List.length_append, Nat.le_add_right, if_true, List.drop_left,
      List.take_left]

/-- What was framed is read back. -/
theorem read_encode {fields : List (Option (List UInt8))} (h : ∀ x ∈ fields, Short x) :
    read (encode fields) = .ok fields := by
  induction fields with
  | nil => rw [encode_nil, read]
  | cons x fields ih =>
    rw [List.forall_mem_cons] at h
    rw [encode_cons, read_field h.1, ih h.2]
    rfl

theorem read_cons_eq_ok {x : Option (List UInt8)} {r : Except ReadFault (List (Option (List UInt8)))}
    {fields : List (Option (List UInt8))} :
    r.map (x :: ·) = .ok fields ↔ ∃ rest, r = .ok rest ∧ x :: rest = fields := by
  cases r <;> simp [Except.map]

/-- Only frames are read, and each in one way. -/
theorem encode_read {bytes : List UInt8} {fields : List (Option (List UInt8))} (h : read bytes = .ok fields) :
    encode fields = bytes := by
  induction bytes using read.induct generalizing fields with
  | case1 =>
    rw [read] at h
    obtain rfl := Except.ok.inj h
    rfl
  | case2 rest ih =>
    unfold read at h
    obtain ⟨fields, hrest, rfl⟩ := read_cons_eq_ok.mp h
    rw [encode_cons, ih hrest]
    rfl
  | case3 a b c d rest hle _ ih =>
    unfold read at h
    rw [if_neg (by decide), if_pos rfl] at h
    simp only [if_pos hle] at h
    obtain ⟨fields, hrest, rfl⟩ := read_cons_eq_ok.mp h
    rw [encode_cons, ih hrest, field, List.length_take, Nat.min_eq_left hle, lengthBytes_lengthOf, List.cons_append,
      List.append_assoc, List.take_append_drop]
    rfl
  | case4 a b c d rest hle _ =>
    unfold read at h
    rw [if_neg (by decide), if_pos rfl] at h
    simp only [if_neg hle] at h
    cases h
  | case5 rest hshort _ =>
    unfold read at h
    rw [if_neg (by decide), if_pos rfl] at h
    split at h
    · exact (hshort _ _ _ _ _ rfl).elim
    · cases h
  | case6 tag rest h0 h1 =>
    unfold read at h
    rw [if_neg h0, if_neg h1] at h
    cases h

/-- Parts behind their lengths alone. -/
def prefixed (parts : List (List UInt8)) : List UInt8 :=
  parts.flatMap fun part => lengthBytes part.length ++ part

theorem prefixed_cons (part : List UInt8) (parts : List (List UInt8)) :
    prefixed (part :: parts) = lengthBytes part.length ++ (part ++ prefixed parts) := by
  rw [prefixed, List.flatMap_cons, List.append_assoc]
  rfl

/-- The first parts agree already where what follows them is longer. -/
theorem prefixed_cons_inj {part part' : List UInt8} {parts parts' : List (List UInt8)}
    (h : part.length < 4294967296) (h' : part'.length < 4294967296)
    (heq : prefixed (part :: parts) = prefixed (part' :: parts')) :
    part = part' ∧ prefixed parts = prefixed parts' := by
  rw [prefixed_cons, prefixed_cons] at heq
  obtain ⟨hlength, hrest⟩ := List.append_inj heq rfl
  exact List.append_inj hrest (lengthBytes_inj h h' hlength)

theorem prefixed_injective {xs ys : List (List UInt8)} (hxs : ∀ x ∈ xs, x.length < 4294967296)
    (hys : ∀ y ∈ ys, y.length < 4294967296) (h : prefixed xs = prefixed ys) : xs = ys := by
  induction xs generalizing ys with
  | nil =>
    cases ys with
    | nil => rfl
    | cons y ys => simp [prefixed, lengthBytes] at h
  | cons x xs ih =>
    cases ys with
    | nil => simp [prefixed, lengthBytes] at h
    | cons y ys =>
      rw [List.forall_mem_cons] at hxs hys
      obtain ⟨rfl, hrest⟩ := prefixed_cons_inj hxs.1 hys.1 h
      rw [ih hxs.2 hys.2 hrest]

end Framing
