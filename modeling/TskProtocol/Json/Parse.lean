import TskProtocol.Outbox.Utf8

namespace TskProtocol

namespace JsString

def skipSpace (s : JsString) : JsString := s.dropWhile (fun c => c = 32 || c = 9 || c = 10 || c = 13)

def hexValue (c : UInt16) : Option Nat :=
  if 48 ≤ c ∧ c ≤ 57 then some (c.toNat - 48)
  else if 97 ≤ c ∧ c ≤ 102 then some (c.toNat - 87)
  else if 65 ≤ c ∧ c ≤ 70 then some (c.toNat - 55)
  else none

/-- The code unit that follows a backslash, unless it is written in hexadecimal. -/
def unescape (e : UInt16) : Option UInt16 :=
  if e = 34 ∨ e = 92 ∨ e = 47 then some e
  else if e = 98 then some 8
  else if e = 102 then some 12
  else if e = 110 then some 10
  else if e = 114 then some 13
  else if e = 116 then some 9
  else none

/-- A string behind its opening quote, with what follows it. -/
def parseStringBody : JsString → Option (JsString × JsString)
  | [] => none
  | c :: rest =>
    if c = 34 then some ([], rest)
    else if c < 32 then none
    else if c ≠ 92 then (parseStringBody rest).map (fun r => (c :: r.1, r.2))
    else match rest with
      | [] => none
      | e :: rest =>
        if e ≠ 117 then do
          let c ← unescape e
          (parseStringBody rest).map (fun r => (c :: r.1, r.2))
        else match rest with
          | a :: b :: x :: y :: rest => do
            let unit := (← hexValue a) * 4096 + (← hexValue b) * 256 + (← hexValue x) * 16 + (← hexValue y)
            (parseStringBody rest).map (fun r => (UInt16.ofNat unit :: r.1, r.2))
          | _ => none

/-- An integer in front of anything but a fraction or an exponent. -/
def parseNat (s : JsString) : Option (Nat × JsString) :=
  let digits := s.takeWhile isDecimalDigit
  let rest := s.drop digits.length
  if digits ≠ [] ∧ (digits.head? = some 48 → digits.length = 1) ∧
      rest.head? ≠ some 46 ∧ rest.head? ≠ some 101 ∧ rest.head? ≠ some 69 then
    some (bigIntOf digits, rest)
  else none

def parseInt (s : JsString) : Option (Int × JsString) :=
  if s.head? = some 45 then (parseNat s.tail).map (fun r => (-(r.1 : Int), r.2))
  else (parseNat s).map (fun r => ((r.1 : Int), r.2))

/-- The digits behind a decimal point, if there is one. -/
def parseFraction (s : JsString) : Option (JsString × JsString) :=
  if s.head? = some 46 then
    let digits := s.tail.takeWhile isDecimalDigit
    if digits = [] then none else some (digits, s.tail.drop digits.length)
  else some ([], s)

/-- The exponent, if there is one. -/
def parseExponent (s : JsString) : Option (Int × JsString) :=
  if s.head? = some 101 ∨ s.head? = some 69 then
    let sign := s.tail.head?
    let unsigned := if sign = some 45 ∨ sign = some 43 then s.tail.tail else s.tail
    let digits := unsigned.takeWhile isDecimalDigit
    if digits = [] then none
    else
      let magnitude : Int := bigIntOf digits
      some (if sign = some 45 then -magnitude else magnitude, unsigned.drop digits.length)
  else some (0, s)

def dropLit (literal : String) (s : JsString) : Option JsString :=
  if (lit literal).isPrefixOf s then some (s.drop (lit literal).length) else none

end JsString

namespace Json

open JsString

def isObject : Json → Bool
  | .obj _ => true
  | _ => false

/-- A later member takes the place of an earlier one of the same name. -/
def setMember (key : JsString) (value : Json) : List (JsString × Json) → List (JsString × Json)
  | [] => [(key, value)]
  | m :: rest => if m.1 = key then (key, value) :: rest else m :: setMember key value rest

/-- The number `0.digits × 10^point`, with zeros at either end of the digits. -/
def ofDecimal (negative : Bool) (digits : JsString) (point : Int) : Json :=
  let front := digits.dropWhile (· = 48)
  let point := point - (digits.length - front.length : Nat)
  let core := front.rdropWhile (· = 48)
  if h : core.all isDecimalDigit = true ∧ core ≠ [] ∧ core.head? ≠ some 48 ∧
      core.getLast? ≠ some 48 ∧ ¬ ((core.length : Int) ≤ point ∧ point ≤ 21) then
    .dec ⟨negative, core, point, h.1, h.2.1, h.2.2.1, h.2.2.2.1, h.2.2.2.2⟩
  else
    let magnitude : Int := bigIntOf (core ++ List.replicate (point - core.length).toNat 48)
    .num (if negative then -magnitude else magnitude)

/-- A number with a fraction or an exponent, at its exact value: no text that `JSON.stringify`
writes is rounded. -/
def parseDecimal (s : JsString) : Option (Json × JsString) :=
  let negative : Bool := s.head? = some 45
  let unsigned := if negative then s.tail else s
  let whole := unsigned.takeWhile isDecimalDigit
  if whole ≠ [] ∧ (whole.head? = some 48 → whole.length = 1) then do
    let (fraction, rest) ← parseFraction (unsigned.drop whole.length)
    let (exponent, rest) ← parseExponent rest
    some (ofDecimal negative (whole ++ fraction) (whole.length + exponent), rest)
  else none

/-- The sign of a zero is not kept. -/
def parseNumber (s : JsString) : Option (Json × JsString) :=
  match parseInt s with
  | some (n, rest) => some (.num n, rest)
  | none => parseDecimal s

mutual

/-- A value with what follows it.  Every call consumes a code unit or fuel. -/
def parseValue : Nat → JsString → Option (Json × JsString)
  | 0, _ => none
  | fuel + 1, s =>
    match skipSpace s with
    | [] => none
    | c :: rest =>
      if c = 34 then (parseStringBody rest).map (fun r => (.str r.1, r.2))
      else if c = 123 then
        match skipSpace rest with
        | 125 :: rest => some (.obj [], rest)
        | rest => parseMembers fuel [] rest
      else if c = 91 then
        match skipSpace rest with
        | 93 :: rest => some (.arr [], rest)
        | rest => parseItems fuel [] rest
      else if c = 116 then (dropLit "true" (c :: rest)).map (fun r => (.bool true, r))
      else if c = 102 then (dropLit "false" (c :: rest)).map (fun r => (.bool false, r))
      else if c = 110 then (dropLit "null" (c :: rest)).map (fun r => (.null, r))
      else parseNumber (c :: rest)

/-- The members of an object, behind those that have been read. -/
def parseMembers : Nat → List (JsString × Json) → JsString → Option (Json × JsString)
  | 0, _, _ => none
  | fuel + 1, members, s =>
    match skipSpace s with
    | 34 :: rest => do
      let (key, rest) ← parseStringBody rest
      match skipSpace rest with
      | 58 :: rest => do
        let (value, rest) ← parseValue fuel rest
        match skipSpace rest with
        | 44 :: rest => parseMembers fuel (setMember key value members) rest
        | 125 :: rest => some (.obj (setMember key value members), rest)
        | _ => none
      | _ => none
    | _ => none

def parseItems : Nat → List Json → JsString → Option (Json × JsString)
  | 0, _, _ => none
  | fuel + 1, items, s => do
    let (value, rest) ← parseValue fuel s
    match skipSpace rest with
    | 44 :: rest => parseItems fuel (items ++ [value]) rest
    | 93 :: rest => some (.arr (items ++ [value]), rest)
    | _ => none

end

/-- Nothing is read without fuel. -/
example (s : JsString) (members : List (JsString × Json)) (items : List Json) :
    parseValue 0 s = none ∧ parseMembers 0 members s = none ∧ parseItems 0 items s = none := by
  simp only [parseValue, parseMembers, parseItems, and_self]

/-- `JSON.parse`. -/
def parse (s : JsString) : Option Json := do
  let (value, rest) ← parseValue (s.length + 1) s
  if skipSpace rest = [] then some value else none

end Json

namespace JsString

theorem hexValue_hexDigit {n : Nat} (h : n < 16) : hexValue (hexDigit n) = some n := by
  have hall : ∀ n < 16, hexValue (hexDigit n) = some n := by decide
  exact hall n h

theorem escaped_unit (c : UInt16) : UInt16.ofNat (c.toNat / 4096 * 4096 + c.toNat / 256 % 16 * 256 +
    c.toNat / 16 % 16 * 16 + c.toNat % 16) = c := by
  have hsum : c.toNat / 4096 * 4096 + c.toNat / 256 % 16 * 256 + c.toNat / 16 % 16 * 16 + c.toNat % 16 =
      c.toNat := by omega
  rw [hsum, UInt16.ofNat_toNat]

/-- The recursion is not structural: this is the only place where it is unfolded. -/
theorem parseStringBody_cons (c : UInt16) (rest : JsString) : parseStringBody (c :: rest) =
    if c = 34 then some ([], rest)
    else if c < 32 then none
    else if c ≠ 92 then (parseStringBody rest).map (fun r => (c :: r.1, r.2))
    else match rest with
      | [] => none
      | e :: rest =>
        if e ≠ 117 then do
          let c ← unescape e
          (parseStringBody rest).map (fun r => (c :: r.1, r.2))
        else match rest with
          | a :: b :: x :: y :: rest => do
            let unit := (← hexValue a) * 4096 + (← hexValue b) * 256 + (← hexValue x) * 16 + (← hexValue y)
            (parseStringBody rest).map (fun r => (UInt16.ofNat unit :: r.1, r.2))
          | _ => none := by
  rw [parseStringBody.eq_def]
  rfl

theorem parseStringBody_quote (rest : JsString) : parseStringBody (34 :: rest) = some ([], rest) := by
  rw [parseStringBody_cons, if_pos rfl]

theorem parseStringBody_plain {c : UInt16} (h34 : c ≠ 34) (h92 : c ≠ 92) (hspace : ¬ c < 32)
    (rest : JsString) :
    parseStringBody (c :: rest) = (parseStringBody rest).map (fun r => (c :: r.1, r.2)) := by
  rw [parseStringBody_cons]
  simp only [if_neg h34, if_neg hspace, if_pos h92]

theorem parseStringBody_escape {e c : UInt16} (h117 : e ≠ 117) (he : unescape e = some c)
    (rest : JsString) :
    parseStringBody (92 :: e :: rest) = (parseStringBody rest).map (fun r => (c :: r.1, r.2)) := by
  have h34 : ¬ (92 : UInt16) = 34 := by decide
  have hspace : ¬ (92 : UInt16) < 32 := by decide
  rw [parseStringBody_cons]
  simp only [if_neg h34, if_neg hspace, ne_eq, not_true_eq_false, if_false, if_pos h117, he,
    Option.bind_eq_bind, Option.bind_some]

theorem parseStringBody_escapeUnit (c : UInt16) (rest : JsString) :
    parseStringBody (escapeUnit c ++ rest) = (parseStringBody rest).map (fun r => (c :: r.1, r.2)) := by
  have h34 : ¬ (92 : UInt16) = 34 := by decide
  have hspace : ¬ (92 : UInt16) < 32 := by decide
  have hlt := c.toNat_lt
  rw [escapeUnit, List.cons_append, parseStringBody_cons]
  simp only [List.cons_append, List.nil_append, if_neg h34, if_neg hspace, ne_eq, not_true_eq_false,
    if_false, hexValue_hexDigit (show c.toNat / 4096 < 16 by omega),
    hexValue_hexDigit (show c.toNat / 256 % 16 < 16 by omega),
    hexValue_hexDigit (show c.toNat / 16 % 16 < 16 by omega),
    hexValue_hexDigit (show c.toNat % 16 < 16 by omega), Option.bind_eq_bind, Option.bind_some, escaped_unit]

/-- One quoted code unit is read back. -/
theorem parseStringBody_quoteUnit (c : UInt16) (rest : JsString) :
    parseStringBody (quoteUnit c ++ rest) = (parseStringBody rest).map (fun r => (c :: r.1, r.2)) := by
  unfold quoteUnit
  split
  · next h =>
    subst h
    exact parseStringBody_escape (by decide) (by decide) rest
  next h34 =>
  split
  · next h =>
    subst h
    exact parseStringBody_escape (by decide) (by decide) rest
  next h92 =>
  split
  · next h =>
    subst h
    exact parseStringBody_escape (by decide) (by decide) rest
  split
  · next h =>
    subst h
    exact parseStringBody_escape (by decide) (by decide) rest
  split
  · next h =>
    subst h
    exact parseStringBody_escape (by decide) (by decide) rest
  split
  · next h =>
    subst h
    exact parseStringBody_escape (by decide) (by decide) rest
  split
  · next h =>
    subst h
    exact parseStringBody_escape (by decide) (by decide) rest
  split
  · exact parseStringBody_escapeUnit c rest
  · next h =>
    simp only [Bool.or_eq_true, decide_eq_true_eq, not_or] at h
    exact parseStringBody_plain h34 h92 h.1.1 rest

theorem not_control_of_surrogate {c : UInt16} (h : 0xD800 ≤ c.toNat) : c ≠ 34 ∧ c ≠ 92 ∧ ¬ c < 32 := by
  refine ⟨?_, ?_, ?_⟩
  · rintro rfl
    exact absurd h (by decide)
  · rintro rfl
    exact absurd h (by decide)
  · rw [UInt16.lt_iff_toNat_lt]
    have h32 : (32 : UInt16).toNat = 32 := rfl
    omega

/-- A quoted string is read back, up to its closing quote. -/
theorem parseStringBody_quoteUnits (s rest : JsString) :
    parseStringBody (quoteUnits s ++ 34 :: rest) = some (s, rest) := by
  induction s using quoteUnits.induct with
  | case1 =>
    rw [quoteUnits, List.nil_append, parseStringBody_quote]
  | case2 c =>
    rw [quoteUnits, parseStringBody_quoteUnit, parseStringBody_quote]
    rfl
  | case3 c d units h ih =>
    rw [quoteUnits, if_pos h]
    rw [Bool.and_eq_true] at h
    obtain ⟨hc34, hc92, hc⟩ := not_control_of_surrogate (toNat_of_high h.1).1
    obtain ⟨hd34, hd92, hd⟩ := not_control_of_surrogate (Nat.le_trans (by decide) (toNat_of_low h.2).1)
    rw [List.cons_append, List.cons_append, parseStringBody_plain hc34 hc92 hc,
      parseStringBody_plain hd34 hd92 hd, ih]
    rfl
  | case4 c d units h ih =>
    rw [quoteUnits, if_neg h, List.append_assoc, parseStringBody_quoteUnit, ih]
    rfl

end JsString

end TskProtocol
