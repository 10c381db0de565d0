import TskProtocol.Json.Reordered
import TskProtocol.Outbox.Contract
import TskProtocol.Principal.Payload
import TskProtocol.Replication.WireForm

namespace TskProtocol

namespace JsString

theorem digitChar_of_unit {c : UInt16} (h : isDecimalDigit c = true) :
    Char.ofNat c.toNat = Nat.digitChar (c.toNat - 48) ∧ c.toNat - 48 < 10 ∧ 48 ≤ c.toNat := by
  simp only [isDecimalDigit, Bool.and_eq_true, decide_eq_true_eq, UInt16.le_iff_toNat_le] at h
  have hall : ∀ n < 10, Char.ofNat (n + 48) = Nat.digitChar n := by decide
  have hlt : c.toNat - 48 < 10 := by
    have : (57 : UInt16).toNat = 57 := rfl
    omega
  have hle : 48 ≤ c.toNat := h.1
  have hchar := hall (c.toNat - 48) hlt
  rw [Nat.sub_add_cancel hle] at hchar
  exact ⟨hchar, hlt, hle⟩

theorem bigIntOf_append (front : JsString) {d : UInt16} (hd : isDecimalDigit d = true) :
    bigIntOf (front ++ [d]) = 10 * bigIntOf front + (d.toNat - 48) := by
  obtain ⟨hchar, hlt, -⟩ := digitChar_of_unit hd
  rw [bigIntOf, List.map_append, Nat.ofDigitChars_append, List.map_singleton, hchar,
    Nat.ofDigitChars_cons_digitChar_of_lt_ten hlt, Nat.ofDigitChars_nil, bigIntOf]

/-- Digits that do not begin with a zero are those of the number they stand for. -/
theorem ofNat_bigIntOf {digits : JsString} (hdigits : ∀ c ∈ digits, isDecimalDigit c = true)
    (hne : digits ≠ []) (hzero : digits.head? = some 48 → digits.length = 1) :
    ofNat (bigIntOf digits) = digits := by
  induction digits using List.reverseRecOn with
  | nil => exact (hne rfl).elim
  | append_singleton front d ih =>
    have hd := hdigits d (by simp)
    obtain ⟨hchar, hlt, hle⟩ := digitChar_of_unit hd
    have hunit : UInt16.ofNat (Nat.digitChar (d.toNat - 48)).toNat = d := by
      have hall : ∀ n < 10, UInt16.ofNat (Nat.digitChar n).toNat = UInt16.ofNat (n + 48) := by decide
      rw [hall _ hlt, Nat.sub_add_cancel hle, UInt16.ofNat_toNat]
    rw [bigIntOf_append front hd]
    cases front with
    | nil =>
      have hnil : bigIntOf [] = 0 := rfl
      rw [hnil, Nat.mul_zero, Nat.zero_add, ofNat, Nat.toDigits_of_lt_base hlt]
      simp [hunit]
    | cons c rest =>
      -- the digits ahead of the last one do not begin with a zero, so their number is positive
      have hc : (c :: rest).head? ≠ some 48 := by
        intro hc
        have := hzero (by simpa using hc)
        simp at this
      have hfront := ih (fun d hd => hdigits d (by simp at hd ⊢; tauto)) (by simp) fun h => (hc h).elim
      have hpos : 0 < bigIntOf (c :: rest) := by
        rw [Nat.pos_iff_ne_zero]
        intro h0
        rw [h0] at hfront
        exact hc (by rw [← hfront]; rfl)
      rw [ofNat, Nat.toDigits_of_base_le (by decide) (by omega), List.map_append, List.map_singleton,
        Nat.mul_add_mod, Nat.mod_eq_of_lt hlt, hunit]
      have hdiv : (10 * bigIntOf (c :: rest) + (d.toNat - 48)) / 10 = bigIntOf (c :: rest) := by omega
      rw [hdiv]
      exact congrArg (· ++ [d]) hfront

end JsString

theorem arrayIndex_eq_some {key : JsString} {n : Nat} (h : arrayIndex key = some n) :
    key = JsString.ofNat n := by
  rw [arrayIndex] at h
  split at h
  · rename_i m hparse
    split at h
    · obtain rfl := Option.some.inj h
      rw [JsString.parseNat] at hparse
      split at hparse
      · rename_i hdigits
        obtain ⟨rfl, hrest⟩ := Prod.mk.inj (Option.some.inj hparse)
        have hkey : key.takeWhile isDecimalDigit = key := by
          apply (List.takeWhile_prefix _).eq_of_length_le
          exact List.drop_eq_nil_iff.mp hrest
        rw [hkey] at hdigits ⊢
        refine (JsString.ofNat_bigIntOf (fun c hc => ?_) hdigits.1 hdigits.2.1).symm
        rw [← hkey] at hc
        exact List.mem_takeWhile_imp hc
      · cases hparse
    · cases h
  · cases h

/-- The order in which properties stand is an order of the keys. -/
theorem keyOrder_propertyLe : KeyOrder propertyLe where
  total a b := by
    simp only [propertyLe]
    cases arrayIndex a <;> cases arrayIndex b <;> simp
    · exact JsString.keyOrder_le.total a b
    · exact Nat.le_total _ _
  trans a b c := by
    simp only [propertyLe]
    cases arrayIndex a <;> cases arrayIndex b <;> cases arrayIndex c <;> simp
    · exact JsString.keyOrder_le.trans a b c
    · exact Nat.le_trans
  antisymm a b := by
    simp only [propertyLe]
    cases ha : arrayIndex a <;> cases hb : arrayIndex b <;> simp
    · exact JsString.keyOrder_le.antisymm a b
    · intro hab hba
      rw [arrayIndex_eq_some ha, arrayIndex_eq_some hb, Nat.le_antisymm hab hba]

namespace PlainValue

mutual

/-- `sortValue`. -/
def sortValue : PlainValue → PlainValue
  | .arr items => .arr (sortItems items)
  | .obj members => .obj ((sortMembers members).insertionSort fun a b => propertyLe a.1 b.1)
  | value => value

def sortItems : List PlainValue → List PlainValue
  | [] => []
  | item :: rest => item.sortValue :: sortItems rest

/-- `out[key] = …` leaves no member of the name `__proto__`. -/
def sortMembers : List (JsString × PlainValue) → List (JsString × PlainValue)
  | [] => []
  | (key, value) :: rest =>
    if key = PROTO then sortMembers rest else (key, value.sortValue) :: sortMembers rest

end

/-- `canonicalJson`; of `undefined` there is no text. -/
def canonicalJson (value : PlainValue) : Option JsString := value.sortValue.stringify

mutual

/-- A value that `JSON.parse` returns. -/
def Parsed : PlainValue → Prop
  | .undefined => False
  | .num n => n ≠ .nan
  | .null | .bool _ | .str _ => True
  | .arr items => AllParsed items
  | .obj members => (members.map Prod.fst).Nodup ∧ MembersParsed members

def AllParsed : List PlainValue → Prop
  | [] => True
  | item :: rest => item.Parsed ∧ AllParsed rest

def MembersParsed : List (JsString × PlainValue) → Prop
  | [] => True
  | (_, value) :: rest => value.Parsed ∧ MembersParsed rest

end

mutual

/-- There is no member `__proto__` in it, and no number beyond the range of a double. -/
def Intact : PlainValue → Prop
  | .undefined => False
  | .num n => n ≠ .nan ∧ ∀ negative, n ≠ .infinity negative
  | .null | .bool _ | .str _ => True
  | .arr items => AllIntact items
  | .obj members => MembersIntact members

def AllIntact : List PlainValue → Prop
  | [] => True
  | item :: rest => item.Intact ∧ AllIntact rest

def MembersIntact : List (JsString × PlainValue) → Prop
  | [] => True
  | (key, value) :: rest => key ≠ PROTO ∧ value.Intact ∧ MembersIntact rest

end

/-- The same value under `===`, but for the order of members, at any depth. -/
inductive Reordered : PlainValue → PlainValue → Prop
  | refl (v : PlainValue) : Reordered v v
  | trans {u v w : PlainValue} : Reordered u v → Reordered v w → Reordered u w
  | unsigned : Reordered (.num .negativeZero) (.num (.int 0))
  | signed : Reordered (.num (.int 0)) (.num .negativeZero)
  | item {v w : PlainValue} (front back : List PlainValue) : Reordered v w →
      Reordered (.arr (front ++ v :: back)) (.arr (front ++ w :: back))
  | member {v w : PlainValue} (front back : List (JsString × PlainValue)) (key : JsString) :
      Reordered v w → Reordered (.obj (front ++ (key, v) :: back)) (.obj (front ++ (key, w) :: back))
  | swap {members members' : List (JsString × PlainValue)} : members.Perm members' →
      Reordered (.obj members) (.obj members')

mutual

/-- What `canonicalJson` writes of a value, its members where they stood. -/
def written : PlainValue → Json
  | .undefined | .null => .null
  | .bool b => .bool b
  | .num n => n.toJson
  | .str s => .str s
  | .arr items => .arr (writtenItems items)
  | .obj members => .obj (writtenMembers members)

def writtenItems : List PlainValue → List Json
  | [] => []
  | item :: rest => item.written :: writtenItems rest

def writtenMembers : List (JsString × PlainValue) → List (JsString × Json)
  | [] => []
  | (key, value) :: rest =>
    if key = PROTO then writtenMembers rest else (key, value.written) :: writtenMembers rest

end

/-- The value without what its canonical text leaves out. -/
def kept (v : PlainValue) : PlainValue := ofJson v.written

theorem writtenItems_eq_map (items : List PlainValue) : writtenItems items = items.map written := by
  induction items with
  | nil => rfl
  | cons item items ih => rw [writtenItems, ih, List.map_cons]

theorem writtenMembers_eq (members : List (JsString × PlainValue)) :
    writtenMembers members =
      (members.filter fun m => m.1 ≠ PROTO).map fun m => (m.1, m.2.written) := by
  induction members with
  | nil => rfl
  | cons m members ih =>
    rw [writtenMembers, ih]
    by_cases hm : m.1 = PROTO
    · simp [hm]
    · simp [hm]

theorem allIntact_iff {items : List PlainValue} : AllIntact items ↔ ∀ item ∈ items, item.Intact := by
  induction items with
  | nil => simp [AllIntact]
  | cons item items ih => simp [AllIntact, ih]

theorem membersIntact_iff {members : List (JsString × PlainValue)} :
    MembersIntact members ↔ ∀ m ∈ members, m.1 ≠ PROTO ∧ m.2.Intact := by
  induction members with
  | nil => simp [MembersIntact]
  | cons m members ih => simp [MembersIntact, ih, and_assoc]

theorem membersParsed_iff {members : List (JsString × PlainValue)} :
    MembersParsed members ↔ ∀ m ∈ members, m.2.Parsed := by
  induction members with
  | nil => simp [MembersParsed]
  | cons m members ih => simp [MembersParsed, ih]

theorem membersToJson_eq_map {members : List (JsString × PlainValue)}
    (h : ∀ m ∈ members, m.2.toJson.isSome = true) :
    membersToJson members = members.map fun m => (m.1, m.2.toJson.getD .null) := by
  induction members with
  | nil => rfl
  | cons m members ih =>
    obtain ⟨json, hjson⟩ := Option.isSome_iff_exists.mp (h m List.mem_cons_self)
    rw [membersToJson, ih fun m hm => h m (List.mem_cons_of_mem _ hm), List.map_cons, hjson]
    rfl

/-- Members of which something is written may be put in order before or after. -/
theorem membersToJson_insertionSort {members : List (JsString × PlainValue)}
    (h : ∀ m ∈ members, m.2.toJson.isSome = true) :
    membersToJson (members.insertionSort fun a b => propertyLe a.1 b.1) =
      (membersToJson members).insertionSort fun a b => propertyLe a.1 b.1 := by
  have hsorted : ∀ m ∈ members.insertionSort fun a b => propertyLe a.1 b.1, m.2.toJson.isSome = true := by
    intro m hm
    exact h m ((List.perm_insertionSort _ members).mem_iff.mp hm)
  rw [membersToJson_eq_map h, membersToJson_eq_map hsorted]
  exact List.map_insertionSort _ _ _ _ fun a _ b _ => Iff.rfl

mutual

/-- What is written of the rebuilt value. -/
theorem toJson_sortValue (v : PlainValue) (h : v.Parsed) :
    v.sortValue.toJson = some (v.written.sorted propertyLe) := by
  match v with
  | .null | .bool _ | .str _ => rfl
  | .num n => cases n <;> rfl
  | .arr items =>
    rw [sortValue, toJson, itemsToJson_sortItems items h]
    rfl
  | .obj members =>
    obtain ⟨hsome, hmembers⟩ := membersToJson_sortMembers members h.2
    rw [sortValue, toJson, membersToJson_insertionSort hsome, hmembers]
    rfl

theorem itemsToJson_sortItems (items : List PlainValue) (h : AllParsed items) :
    itemsToJson (sortItems items) = Json.sortedItems propertyLe (writtenItems items) := by
  match items with
  | [] => rfl
  | item :: rest =>
    rw [sortItems, itemsToJson, toJson_sortValue item h.1, itemsToJson_sortItems rest h.2]
    rfl

theorem membersToJson_sortMembers (members : List (JsString × PlainValue)) (h : MembersParsed members) :
    (∀ m ∈ sortMembers members, m.2.toJson.isSome = true) ∧
      membersToJson (sortMembers members) = Json.sortedMembers propertyLe (writtenMembers members) := by
  match members with
  | [] => exact ⟨fun _ hm => (List.not_mem_nil hm).elim, rfl⟩
  | (key, value) :: rest =>
    have hvalue := toJson_sortValue value h.1
    obtain ⟨hsome, hrest⟩ := membersToJson_sortMembers rest h.2
    rw [sortMembers, writtenMembers]
    split_ifs with hkey
    · exact ⟨hsome, hrest⟩
    · refine ⟨fun m hm => ?_, ?_⟩
      · rcases List.mem_cons.mp hm with rfl | hm
        · rw [hvalue, Option.isSome_some]
        · exact hsome m hm
      · rw [membersToJson, hvalue, hrest]
        rfl

end

mutual

theorem Parsed.written (v : PlainValue) (h : v.Parsed) : v.written.Distinct := by
  match v with
  | .null | .bool _ | .str _ => trivial
  | .num n => cases n <;> trivial
  | .arr items => exact AllParsed.written items h
  | .obj members =>
    refine ⟨?_, MembersParsed.written members h.2⟩
    rw [writtenMembers_eq, List.map_map]
    exact h.1.sublist (List.filter_sublist.map Prod.fst)

theorem AllParsed.written (items : List PlainValue) (h : AllParsed items) :
    Json.AllDistinct (writtenItems items) := by
  match items with
  | [] => trivial
  | item :: rest => exact ⟨Parsed.written item h.1, AllParsed.written rest h.2⟩

theorem MembersParsed.written (members : List (JsString × PlainValue)) (h : MembersParsed members) :
    Json.MembersDistinct (writtenMembers members) := by
  match members with
  | [] => trivial
  | (key, value) :: rest =>
    rw [writtenMembers]
    split_ifs
    · exact MembersParsed.written rest h.2
    · exact ⟨Parsed.written value h.1, MembersParsed.written rest h.2⟩

end

mutual

theorem intact_kept (v : PlainValue) : (ofJson v.written).Intact := by
  match v with
  | .undefined | .null | .bool _ | .str _ => trivial
  | .num n => cases n <;> simp [PlainValue.written, PlainNumber.toJson, ofJson, Intact]
  | .arr items => exact allIntact_kept items
  | .obj members => exact membersIntact_kept members

theorem allIntact_kept (items : List PlainValue) : AllIntact (ofItems (writtenItems items)) := by
  match items with
  | [] => trivial
  | item :: rest => exact ⟨intact_kept item, allIntact_kept rest⟩

theorem membersIntact_kept (members : List (JsString × PlainValue)) :
    MembersIntact (ofMembers (writtenMembers members)) := by
  match members with
  | [] => trivial
  | (key, value) :: rest =>
    rw [writtenMembers]
    split_ifs with hkey
    · exact membersIntact_kept rest
    · exact ⟨hkey, intact_kept value, membersIntact_kept rest⟩

end

mutual

/-- What is kept is written as the value is. -/
theorem written_kept (v : PlainValue) : (ofJson v.written).written = v.written := by
  match v with
  | .undefined | .null | .bool _ | .str _ => rfl
  | .num n => cases n <;> rfl
  | .arr items => exact congrArg Json.arr (writtenItems_kept items)
  | .obj members => exact congrArg Json.obj (writtenMembers_kept members)

theorem writtenItems_kept (items : List PlainValue) :
    writtenItems (ofItems (writtenItems items)) = writtenItems items := by
  match items with
  | [] => rfl
  | item :: rest =>
    rw [writtenItems, ofItems, writtenItems, written_kept item, writtenItems_kept rest]

theorem writtenMembers_kept (members : List (JsString × PlainValue)) :
    writtenMembers (ofMembers (writtenMembers members)) = writtenMembers members := by
  match members with
  | [] => rfl
  | (key, value) :: rest =>
    rw [writtenMembers]
    split_ifs with hkey
    · exact writtenMembers_kept rest
    · rw [ofMembers, writtenMembers, if_neg hkey, written_kept value, writtenMembers_kept rest]

end

mutual

/-- Of an intact value everything is kept. -/
theorem Intact.reordered_kept (v : PlainValue) (h : v.Intact) : Reordered v (ofJson v.written) := by
  match v with
  | .null | .bool _ | .str _ => exact .refl _
  | .num n =>
    cases n with
    | nan => exact (h.1 rfl).elim
    | infinity negative => exact (h.2 negative rfl).elim
    | negativeZero => exact .unsigned
    | int n => exact .refl _
    | dec d => exact .refl _
  | .arr items => exact AllIntact.reordered_kept [] items h
  | .obj members => exact MembersIntact.reordered_kept [] members h

theorem AllIntact.reordered_kept (front items : List PlainValue) (h : AllIntact items) :
    Reordered (.arr (front ++ items)) (.arr (front ++ ofItems (writtenItems items))) := by
  match items with
  | [] => exact .refl _
  | item :: rest =>
    have hrest := AllIntact.reordered_kept (front ++ [ofJson item.written]) rest h.2
    rw [List.append_assoc, List.append_assoc] at hrest
    exact .trans (.item front rest (Intact.reordered_kept item h.1)) hrest

theorem MembersIntact.reordered_kept (front members : List (JsString × PlainValue))
    (h : MembersIntact members) :
    Reordered (.obj (front ++ members)) (.obj (front ++ ofMembers (writtenMembers members))) := by
  match members with
  | [] => exact .refl _
  | (key, value) :: rest =>
    have hrest := MembersIntact.reordered_kept (front ++ [(key, ofJson value.written)]) rest h.2.2
    rw [List.append_assoc, List.append_assoc] at hrest
    rw [writtenMembers, if_neg h.1]
    exact .trans (.member front rest key (Intact.reordered_kept value h.2.1)) hrest

end

theorem Reordered.written {v w : PlainValue} (h : Reordered v w) : Json.Reordered v.written w.written := by
  induction h with
  | refl v => exact .refl _
  | trans _ _ ih ih' => exact .trans ih ih'
  | unsigned => exact .refl _
  | signed => exact .refl _
  | item front back _ ih =>
    simp only [PlainValue.written, writtenItems_eq_map, List.map_append, List.map_cons]
    exact .item _ _ ih
  | member front back key _ ih =>
    simp only [PlainValue.written, writtenMembers_eq, List.filter_append, List.map_append]
    by_cases hkey : key = PROTO
    · simp only [hkey, ne_eq, not_true_eq_false, decide_false, Bool.false_eq_true, not_false_eq_true,
        List.filter_cons_of_neg]
      exact .refl _
    · simp only [ne_eq, hkey, not_false_eq_true, decide_true, List.filter_cons_of_pos, List.map_cons]
      exact .member _ _ key ih
  | swap hperm =>
    simp only [PlainValue.written, writtenMembers_eq]
    exact .swap ((hperm.filter _).map _)

theorem Reordered.intact {v w : PlainValue} (h : Reordered v w) : v.Intact ↔ w.Intact := by
  induction h with
  | refl v => exact Iff.rfl
  | trans _ _ ih ih' => exact ih.trans ih'
  | unsigned => simp [Intact]
  | signed => simp [Intact]
  | item front back _ ih =>
    simp only [Intact, allIntact_iff, List.forall_mem_append, List.forall_mem_cons, ih]
  | member front back key _ ih =>
    simp only [Intact, membersIntact_iff, List.forall_mem_append, List.forall_mem_cons, ih]
  | swap hperm => simp only [Intact, membersIntact_iff, hperm.mem_iff]

theorem ofItems_eq_map (items : List Json) : ofItems items = items.map ofJson := by
  induction items with
  | nil => rfl
  | cons item items ih => rw [ofItems, ih, List.map_cons]

theorem ofMembers_eq_map (members : List (JsString × Json)) :
    ofMembers members = members.map fun m => (m.1, ofJson m.2) := by
  induction members with
  | nil => rfl
  | cons m members ih => rw [ofMembers, ih, List.map_cons]

theorem Reordered.ofJson {a b : Json} (h : Json.Reordered a b) :
    Reordered (PlainValue.ofJson a) (PlainValue.ofJson b) := by
  induction h with
  | refl v => exact .refl _
  | trans _ _ ih ih' => exact .trans ih ih'
  | item front back _ ih =>
    simp only [PlainValue.ofJson, ofItems_eq_map, List.map_append, List.map_cons]
    exact .item _ _ ih
  | member front back key _ ih =>
    simp only [PlainValue.ofJson, ofMembers_eq_map, List.map_append, List.map_cons]
    exact .member _ _ key ih
  | swap hperm =>
    simp only [PlainValue.ofJson, ofMembers_eq_map]
    exact .swap (hperm.map _)

mutual

theorem parsed_ofJson (json : Json) (h : json.Distinct) : (PlainValue.ofJson json).Parsed := by
  match json with
  | .null | .bool _ | .str _ => trivial
  | .num _ | .dec _ => exact PlainNumber.noConfusion
  | .arr items => exact allParsed_ofItems items h
  | .obj members =>
    refine ⟨?_, membersParsed_ofMembers members h.2⟩
    rw [ofMembers_eq_map, List.map_map]
    exact h.1

theorem allParsed_ofItems (items : List Json) (h : Json.AllDistinct items) : AllParsed (ofItems items) := by
  match items with
  | [] => trivial
  | item :: rest => exact ⟨parsed_ofJson item h.1, allParsed_ofItems rest h.2⟩

theorem membersParsed_ofMembers (members : List (JsString × Json)) (h : Json.MembersDistinct members) :
    MembersParsed (ofMembers members) := by
  match members with
  | [] => trivial
  | (key, value) :: rest => exact ⟨parsed_ofJson value h.1, membersParsed_ofMembers rest h.2⟩

end

theorem Parsed.kept {v : PlainValue} (h : v.Parsed) : v.kept.Parsed := parsed_ofJson v.written (Parsed.written v h)

theorem canonicalJson_eq {v : PlainValue} (h : v.Parsed) :
    v.canonicalJson = some (v.written.sorted propertyLe).stringify := by
  rw [canonicalJson, stringify, toJson_sortValue v h]
  rfl

/-- Canonical text tells apart what is kept of two values, and no more. -/
theorem canonicalJson_eq_iff {v w : PlainValue} (hv : v.Parsed) (hw : w.Parsed) :
    v.canonicalJson = w.canonicalJson ↔ Reordered v.kept w.kept := by
  have hv' := Parsed.written v hv
  have hw' := Parsed.written w hw
  rw [canonicalJson_eq hv, canonicalJson_eq hw, Option.some.injEq]
  constructor
  · intro h
    have hsorted := Json.stringify_injective (hv'.sorted propertyLe) (hw'.sorted propertyLe) h
    have hback := (Json.reordered_sorted propertyLe w.written).symm
    rw [← hsorted] at hback
    exact .ofJson ((Json.reordered_sorted propertyLe v.written).trans hback)
  · intro h
    have hwritten := h.written
    rw [kept, kept, written_kept, written_kept] at hwritten
    rw [(hwritten.sorted_eq keyOrder_propertyLe hv').2]

theorem Reordered.symm {v w : PlainValue} (h : Reordered v w) : Reordered w v := by
  induction h with
  | refl v => exact .refl v
  | trans _ _ ih ih' => exact .trans ih' ih
  | unsigned => exact .signed
  | signed => exact .unsigned
  | item front back _ ih => exact .item front back ih
  | member front back key _ ih => exact .member front back key ih
  | swap hperm => exact .swap hperm.symm

/-- What is kept of two values that are one up to order. -/
theorem Reordered.kept {v w : PlainValue} (h : Reordered v w) : Reordered v.kept w.kept := .ofJson h.written

theorem Intact.kept {v : PlainValue} (h : v.Intact) : Reordered v v.kept := Intact.reordered_kept v h

end PlainValue

end TskProtocol
