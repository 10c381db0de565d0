import Mathlib.Data.List.Sort
import TskProtocol.Js
import TskProtocol.Json.Decimal

namespace TskProtocol

namespace JsString

/-- Comparison by code units, the order of `Array.prototype.sort`. -/
def le : JsString → JsString → Bool
  | [], _ => true
  | _ :: _, [] => false
  | c :: s, d :: t => c < d || (c = d && le s t)

def hexDigit (n : Nat) : UInt16 := UInt16.ofNat (if n < 10 then 48 + n else 87 + n)

/-- `\uXXXX` with lower-case digits. -/
def escapeUnit (c : UInt16) : JsString :=
  [92, 117, hexDigit (c.toNat / 4096), hexDigit (c.toNat / 256 % 16), hexDigit (c.toNat / 16 % 16),
    hexDigit (c.toNat % 16)]

def quoteUnit (c : UInt16) : JsString :=
  if c = 34 then [92, 34]
  else if c = 92 then [92, 92]
  else if c = 8 then [92, 98]
  else if c = 9 then [92, 116]
  else if c = 10 then [92, 110]
  else if c = 12 then [92, 102]
  else if c = 13 then [92, 114]
  else if c < 32 || isHighSurrogate c || isLowSurrogate c then escapeUnit c
  else [c]

/-- Surrogate pairs are copied, lone surrogates are escaped. -/
def quoteUnits : JsString → JsString
  | [] => []
  | [c] => quoteUnit c
  | c :: d :: rest =>
    if isHighSurrogate c && isLowSurrogate d then c :: d :: quoteUnits rest
    else quoteUnit c ++ quoteUnits (d :: rest)

/-- `JSON.stringify` of a string. -/
def quote (s : JsString) : JsString := 34 :: quoteUnits s ++ [34]

def join (separator : JsString) : List JsString → JsString
  | [] => []
  | [s] => s
  | s :: rest => s ++ separator ++ join separator rest

end JsString

/-- A JSON value, its numbers apart by whether they are written as integers.  The members of an
object stand in insertion order. -/
inductive Json
  | null
  | bool (b : Bool)
  | num (n : Int)
  | dec (d : JsDecimal)
  | str (s : JsString)
  | arr (items : List Json)
  | obj (members : List (JsString × Json))

def optionalJson : Option JsString → Json
  | some s => .str s
  | none => .null

namespace Json

/-- Property access; `none` is `undefined`. -/
def field (value : Json) (key : String) : Option Json :=
  match value with
  | .obj members => (members.find? (fun m => m.1 = JsString.lit key)).map Prod.snd
  | _ => none

def asStr : Json → Option JsString
  | .str s => some s
  | _ => none

def asNum : Json → Option Int
  | .num n => some n
  | _ => none

def strField (value : Json) (key : String) : Option JsString := (value.field key).bind asStr

def numField (value : Json) (key : String) : Option Int := (value.field key).bind asNum

/-- `Boolean(value)`. -/
def truthy : Json → Bool
  | .null => false
  | .bool b => b
  | .num n => n ≠ 0
  | .dec _ => true
  | .str s => s ≠ []
  | .arr _ => true
  | .obj _ => true

def without (key : String) : Json → Json
  | .obj members => .obj (members.filter (fun m => m.1 ≠ JsString.lit key))
  | value => value

/-- The rendered members of an object, in the order they are to be written. -/
abbrev Arrangement := List (JsString × JsString) → List (JsString × JsString)

def sortMembers : Arrangement := List.insertionSort (fun a b => a.1.le b.1)

def renderMember (member : JsString × JsString) : JsString :=
  member.1.quote ++ JsString.lit ":" ++ member.2

mutual

def render (arrange : Arrangement) : Json → JsString
  | .null => JsString.lit "null"
  | .bool b => JsString.lit (if b then "true" else "false")
  | .num n => JsString.ofInt n
  | .dec d => d.text
  | .str s => s.quote
  | .arr items =>
    JsString.lit "[" ++ JsString.join (JsString.lit ",") (renderItems arrange items) ++
      JsString.lit "]"
  | .obj members =>
    JsString.lit "\x7b" ++
      JsString.join (JsString.lit ",") ((arrange (renderMembers arrange members)).map renderMember) ++
      JsString.lit "\x7d"

def renderItems (arrange : Arrangement) : List Json → List JsString
  | [] => []
  | item :: rest => render arrange item :: renderItems arrange rest

def renderMembers (arrange : Arrangement) : List (JsString × Json) → List (JsString × JsString)
  | [] => []
  | (key, value) :: rest => (key, render arrange value) :: renderMembers arrange rest

end

/-- `JSON.stringify`. -/
def stringify : Json → JsString := render id

/-- JSON text with sorted keys. -/
def canonical : Json → JsString := render sortMembers

/-- An optional member, absent when `undefined`. -/
def optional (key : String) (value : Option Json) : List (JsString × Json) :=
  (value.map (fun v => (JsString.lit key, v))).toList

end Json

end TskProtocol
