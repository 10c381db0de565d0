import TskProtocol.Json.Reordered

namespace TskProtocol

/-- A number in memory. -/
inductive PlainNumber
  | nan
  | infinity (negative : Bool)
  | negativeZero
  | int (n : Int)
  | dec (d : JsDecimal)
  deriving DecidableEq, Repr

/-- A value of plain data in memory: no functions, symbols or `BigInt`s, and no circles. -/
inductive PlainValue
  | undefined
  | null
  | bool (b : Bool)
  | num (n : PlainNumber)
  | str (s : JsString)
  | arr (items : List PlainValue)
  | obj (members : List (JsString × PlainValue))

/-- What `JSON.stringify` writes of a number. -/
def PlainNumber.toJson : PlainNumber → Json
  | .nan | .infinity _ => .null
  | .negativeZero => .num 0
  | .int n => .num n
  | .dec d => .dec d

namespace PlainValue

mutual

/-- `canonical`; `none` is `undefined`. -/
def canonical : PlainValue → Option JsString
  | .undefined => none
  | .null => some (JsString.lit "null")
  | .bool b => some (JsString.lit (if b then "true" else "false"))
  | .num n => some n.toJson.stringify
  | .str s => some s.quote
  | .arr items => some (
      JsString.lit "[" ++ JsString.join (JsString.lit ",") (canonicalItems items) ++ JsString.lit "]")
  | .obj members => some (
      JsString.lit "\x7b" ++ JsString.join (JsString.lit ",")
        ((Json.sortMembers (canonicalMembers members)).map Json.renderMember) ++ JsString.lit "\x7d")

/-- An `undefined` item counts as `null`. -/
def canonicalItems : List PlainValue → List JsString
  | [] => []
  | item :: rest => item.canonical.getD (JsString.lit "null") :: canonicalItems rest

/-- Members that are `undefined` are filtered out. -/
def canonicalMembers : List (JsString × PlainValue) → List (JsString × JsString)
  | [] => []
  | (key, value) :: rest =>
    (value.canonical.map fun text => (key, text)).toList ++ canonicalMembers rest

end

mutual

/-- The JSON value that `JSON.stringify` writes; nothing is written of `undefined`. -/
def toJson : PlainValue → Option Json
  | .undefined => none
  | .null => some .null
  | .bool b => some (.bool b)
  | .num n => some n.toJson
  | .str s => some (.str s)
  | .arr items => some (.arr (itemsToJson items))
  | .obj members => some (.obj (membersToJson members))

def itemsToJson : List PlainValue → List Json
  | [] => []
  | item :: rest => item.toJson.getD .null :: itemsToJson rest

def membersToJson : List (JsString × PlainValue) → List (JsString × Json)
  | [] => []
  | (key, value) :: rest => (value.toJson.map fun json => (key, json)).toList ++ membersToJson rest

end

/-- `JSON.stringify`. -/
def stringify (v : PlainValue) : Option JsString := v.toJson.map Json.stringify

mutual

/-- The value in memory that `JSON.parse` returns. -/
def ofJson : Json → PlainValue
  | .null => .null
  | .bool b => .bool b
  | .num n => .num (.int n)
  | .dec d => .num (.dec d)
  | .str s => .str s
  | .arr items => .arr (ofItems items)
  | .obj members => .obj (ofMembers members)

def ofItems : List Json → List PlainValue
  | [] => []
  | item :: rest => ofJson item :: ofItems rest

def ofMembers : List (JsString × Json) → List (JsString × PlainValue)
  | [] => []
  | (key, value) :: rest => (key, ofJson value) :: ofMembers rest

end

/-- `JSON.parse`. -/
def parse (text : JsString) : Option PlainValue := (Json.parse text).map ofJson

mutual

/-- No object has two members of one name. -/
def Distinct : PlainValue → Prop
  | .undefined | .null | .bool _ | .num _ | .str _ => True
  | .arr items => AllDistinct items
  | .obj members => (members.map Prod.fst).Nodup ∧ MembersDistinct members

def AllDistinct : List PlainValue → Prop
  | [] => True
  | item :: rest => item.Distinct ∧ AllDistinct rest

def MembersDistinct : List (JsString × PlainValue) → Prop
  | [] => True
  | (_, value) :: rest => value.Distinct ∧ MembersDistinct rest

end

mutual

@[simp] theorem toJson_ofJson (v : Json) : (ofJson v).toJson = some v := by
  match v with
  | .null | .bool _ | .num _ | .dec _ | .str _ => rfl
  | .arr items => rw [ofJson, toJson, itemsToJson_ofItems]
  | .obj members => rw [ofJson, toJson, membersToJson_ofMembers]

theorem itemsToJson_ofItems (items : List Json) : itemsToJson (ofItems items) = items := by
  match items with
  | [] => rfl
  | item :: rest => rw [ofItems, itemsToJson, toJson_ofJson item, itemsToJson_ofItems rest, Option.getD_some]

theorem membersToJson_ofMembers (members : List (JsString × Json)) :
    membersToJson (ofMembers members) = members := by
  match members with
  | [] => rfl
  | (key, value) :: rest =>
    rw [ofMembers, membersToJson, toJson_ofJson value, membersToJson_ofMembers rest]
    rfl

end

mutual

/-- The canonical form of a value is that of what is written of it. -/
theorem canonical_eq (v : PlainValue) : v.canonical = v.toJson.map Json.canonical := by
  match v with
  | .undefined | .null | .bool _ | .str _ => rfl
  | .num n => cases n <;> rfl
  | .arr items =>
    rw [canonical, toJson, canonicalItems_eq items]
    rfl
  | .obj members =>
    rw [canonical, toJson, canonicalMembers_eq members]
    rfl

theorem canonicalItems_eq (items : List PlainValue) :
    canonicalItems items = Json.renderItems Json.sortMembers (itemsToJson items) := by
  match items with
  | [] => rfl
  | item :: rest =>
    rw [canonicalItems, itemsToJson, Json.renderItems, canonicalItems_eq rest, canonical_eq item]
    cases item.toJson <;> rfl

theorem canonicalMembers_eq (members : List (JsString × PlainValue)) :
    canonicalMembers members = Json.renderMembers Json.sortMembers (membersToJson members) := by
  match members with
  | [] => rfl
  | (key, value) :: rest =>
    rw [canonicalMembers, membersToJson, canonicalMembers_eq rest, canonical_eq value]
    cases value.toJson <;> rfl

end

theorem map_fst_membersToJson_sublist (members : List (JsString × PlainValue)) :
    ((membersToJson members).map Prod.fst).Sublist (members.map Prod.fst) := by
  induction members with
  | nil => exact .slnil
  | cons m members ih =>
    rw [membersToJson]
    cases m.2.toJson with
    | none => exact ih.cons _
    | some json => exact ih.cons_cons _

mutual

theorem Distinct.toJson (v : PlainValue) (h : v.Distinct) : ∀ w ∈ v.toJson, w.Distinct := by
  match v with
  | .undefined => simp [PlainValue.toJson]
  | .null | .bool _ | .str _ => simp [PlainValue.toJson, Json.Distinct]
  | .num n => cases n <;> simp [PlainValue.toJson, PlainNumber.toJson, Json.Distinct]
  | .arr items =>
    rintro _ ⟨⟩
    exact AllDistinct.toJson items h
  | .obj members =>
    rintro _ ⟨⟩
    exact ⟨h.1.sublist (map_fst_membersToJson_sublist members), MembersDistinct.toJson members h.2⟩

theorem AllDistinct.toJson (items : List PlainValue) (h : AllDistinct items) :
    Json.AllDistinct (itemsToJson items) := by
  match items with
  | [] => trivial
  | item :: rest =>
    refine ⟨?_, AllDistinct.toJson rest h.2⟩
    have hitem := Distinct.toJson item h.1
    cases hjson : item.toJson with
    | none => trivial
    | some json => exact hitem json hjson

theorem MembersDistinct.toJson (members : List (JsString × PlainValue)) (h : MembersDistinct members) :
    Json.MembersDistinct (membersToJson members) := by
  match members with
  | [] => trivial
  | (key, value) :: rest =>
    have hvalue := Distinct.toJson value h.1
    have hrest := MembersDistinct.toJson rest h.2
    rw [membersToJson]
    cases hjson : value.toJson with
    | none => exact hrest
    | some json => exact ⟨hvalue json hjson, hrest⟩

end

/-- What comes back from the wire is the value that was written. -/
theorem parse_stringify {v : PlainValue} (hv : v.Distinct) {json : Json} (hjson : v.toJson = some json) :
    ∃ text, v.stringify = some text ∧ parse text = some (ofJson json) := by
  refine ⟨json.stringify, by rw [stringify, hjson]; rfl, ?_⟩
  rw [parse, Json.parse_stringify (hv.toJson v json hjson)]
  rfl

end PlainValue

end TskProtocol
