import TskProtocol.Json.Numbers

namespace TskProtocol

namespace JsString

theorem skipSpace_cons {c : UInt16} (h : 32 < c.toNat) (rest : JsString) :
    skipSpace (c :: rest) = c :: rest := by
  refine List.dropWhile_cons_of_neg ?_
  simp only [Bool.or_eq_true, decide_eq_true_eq, not_or]
  refine ⟨⟨⟨?_, ?_⟩, ?_⟩, ?_⟩ <;>
  · rintro rfl
    revert h
    decide

theorem quote_append (s rest : JsString) : s.quote ++ rest = 34 :: (quoteUnits s ++ 34 :: rest) := by
  simp [quote]

end JsString

namespace Json

open JsString

mutual

/-- No object names a member twice. -/
def Distinct : Json → Prop
  | .null | .bool _ | .num _ | .dec _ | .str _ => True
  | .arr items => AllDistinct items
  | .obj members => (members.map Prod.fst).Nodup ∧ MembersDistinct members

def AllDistinct : List Json → Prop
  | [] => True
  | item :: rest => item.Distinct ∧ AllDistinct rest

def MembersDistinct : List (JsString × Json) → Prop
  | [] => True
  | (_, value) :: rest => value.Distinct ∧ MembersDistinct rest

end

theorem setMember_of_not_mem {key : JsString} {value : Json} {members : List (JsString × Json)}
    (h : key ∉ members.map Prod.fst) : setMember key value members = members ++ [(key, value)] := by
  induction members with
  | nil => rfl
  | cons m members ih =>
    simp only [List.map_cons, List.mem_cons, not_or] at h
    rw [setMember, if_neg (Ne.symm h.1), ih h.2, List.cons_append]

theorem gt_of_startsNumber {c : UInt16} (h : startsNumber c = true) : 32 < c.toNat := by
  rcases startsNumber_toNat h with rfl | ⟨hlo, -⟩
  · decide
  · omega

theorem ne_of_startsNumber {c k : UInt16} (h : startsNumber c = true) (hk : startsNumber k = false) :
    c ≠ k := by
  rintro rfl
  rw [h] at hk
  cases hk

/-- The code unit that a value begins with. -/
theorem stringify_head (v : Json) : ∃ c text, v.stringify = c :: text ∧ 32 < c.toNat ∧ c ≠ 93 := by
  cases v with
  | null => exact ⟨110, _, rfl, by decide, by decide⟩
  | bool b =>
    cases b with
    | false => exact ⟨102, _, rfl, by decide, by decide⟩
    | true => exact ⟨116, _, rfl, by decide, by decide⟩
  | str s => exact ⟨34, _, rfl, by decide, by decide⟩
  | arr items => exact ⟨91, _, rfl, by decide, by decide⟩
  | obj members => exact ⟨123, _, rfl, by decide, by decide⟩
  | num n =>
    obtain ⟨c, text, htext, hc⟩ := startsNumber_ofInt n
    exact ⟨c, text, htext, gt_of_startsNumber hc, ne_of_startsNumber hc (by decide)⟩
  | dec d =>
    obtain ⟨c, text, htext, hc⟩ := startsNumber_text d
    exact ⟨c, text, htext, gt_of_startsNumber hc, ne_of_startsNumber hc (by decide)⟩

/-- The text of the members of an object. -/
def membersText (members : List (JsString × Json)) : JsString :=
  join (lit ",") ((renderMembers id members).map renderMember)

def itemsText (items : List Json) : JsString := join (lit ",") (renderItems id items)

theorem stringify_obj (members : List (JsString × Json)) (rest : JsString) :
    (obj members).stringify ++ rest = 123 :: (membersText members ++ 125 :: rest) := by
  have hopen : lit "\x7b" = [123] := by decide
  have hclose : lit "\x7d" = [125] := by decide
  have htext : (obj members).stringify = lit "\x7b" ++ membersText members ++ lit "\x7d" := rfl
  simp [htext, hopen, hclose]

theorem stringify_arr (items : List Json) (rest : JsString) :
    (arr items).stringify ++ rest = 91 :: (itemsText items ++ 93 :: rest) := by
  have hopen : lit "[" = [91] := by decide
  have hclose : lit "]" = [93] := by decide
  have htext : (arr items).stringify = lit "[" ++ itemsText items ++ lit "]" := rfl
  simp [htext, hopen, hclose]

theorem membersText_single (key : JsString) (value : Json) (rest : JsString) :
    membersText [(key, value)] ++ rest = key.quote ++ 58 :: (value.stringify ++ rest) := by
  have hcolon : lit ":" = [58] := by decide
  have htext : membersText [(key, value)] = key.quote ++ lit ":" ++ value.stringify := rfl
  simp [htext, hcolon]

theorem membersText_cons (key : JsString) (value : Json) (m : JsString × Json)
    (members : List (JsString × Json)) (rest : JsString) :
    membersText ((key, value) :: m :: members) ++ rest =
      key.quote ++ 58 :: (value.stringify ++ 44 :: (membersText (m :: members) ++ rest)) := by
  have hcolon : lit ":" = [58] := by decide
  have hcomma : lit "," = [44] := by decide
  have htext : membersText ((key, value) :: m :: members) =
    key.quote ++ lit ":" ++ value.stringify ++ lit "," ++ membersText (m :: members) := rfl
  simp [htext, hcolon, hcomma]

theorem length_stringify_obj (members : List (JsString × Json)) :
    (obj members).stringify.length = (membersText members).length + 2 := by
  simpa using congrArg List.length (stringify_obj members [])

theorem length_stringify_arr (items : List Json) :
    (arr items).stringify.length = (itemsText items).length + 2 := by
  simpa using congrArg List.length (stringify_arr items [])

theorem itemsText_single (item : Json) : itemsText [item] = item.stringify := rfl

theorem itemsText_cons (item next : Json) (items : List Json) (rest : JsString) :
    itemsText (item :: next :: items) ++ rest = item.stringify ++ 44 :: (itemsText (next :: items) ++ rest) := by
  have hcomma : lit "," = [44] := by decide
  have htext : itemsText (item :: next :: items) =
    item.stringify ++ lit "," ++ itemsText (next :: items) := rfl
  simp [htext, hcomma]

/-- The first item begins the text of the items. -/
theorem itemsText_head (item : Json) (items : List Json) (rest : JsString) :
    ∃ c text, itemsText (item :: items) ++ rest = c :: text ∧ 32 < c.toNat ∧ c ≠ 93 := by
  obtain ⟨c, text, htext, hspace, hc⟩ := stringify_head item
  cases items with
  | nil => exact ⟨c, text ++ rest, by rw [itemsText_single, htext, List.cons_append], hspace, hc⟩
  | cons next items => exact ⟨c, _, by rw [itemsText_cons, htext, List.cons_append], hspace, hc⟩

theorem membersText_head (key : JsString) (value : Json) (members : List (JsString × Json))
    (rest : JsString) : ∃ text, membersText ((key, value) :: members) ++ rest = 34 :: text := by
  cases members with
  | nil => exact ⟨_, by rw [membersText_single, quote_append]⟩
  | cons m members => exact ⟨_, by rw [membersText_cons, quote_append]⟩

section Parse

variable {key rest s : JsString} {members : List (JsString × Json)} {items : List Json} {value : Json}
  {fuel : Nat}

theorem parseMembers_next (h : parseValue fuel s = some (value, 44 :: rest)) :
    parseMembers (fuel + 1) members (key.quote ++ 58 :: s) =
      parseMembers fuel (setMember key value members) rest := by
  rw [quote_append, parseMembers, skipSpace_cons (by decide)]
  simp [parseStringBody_quoteUnits, skipSpace_cons, h]

theorem parseMembers_last (h : parseValue fuel s = some (value, 125 :: rest)) :
    parseMembers (fuel + 1) members (key.quote ++ 58 :: s) =
      some (.obj (setMember key value members), rest) := by
  rw [quote_append, parseMembers, skipSpace_cons (by decide)]
  simp [parseStringBody_quoteUnits, skipSpace_cons, h]

theorem parseItems_next (h : parseValue fuel s = some (value, 44 :: rest)) :
    parseItems (fuel + 1) items s = parseItems fuel (items ++ [value]) rest := by
  rw [parseItems]
  simp [h, skipSpace_cons]

theorem parseItems_last (h : parseValue fuel s = some (value, 93 :: rest)) :
    parseItems (fuel + 1) items s = some (.arr (items ++ [value]), rest) := by
  rw [parseItems]
  simp [h, skipSpace_cons]

theorem parseValue_str : parseValue (fuel + 1) (s.quote ++ rest) = some (.str s, rest) := by
  rw [quote_append, parseValue, skipSpace_cons (by decide)]
  simp [parseStringBody_quoteUnits]

/-- A number is read wherever a value is expected. -/
theorem parseValue_number {c : UInt16} {text : JsString} (hc : startsNumber c = true)
    (h : parseNumber (c :: text) = some (value, rest)) :
    parseValue (fuel + 1) (c :: text) = some (value, rest) := by
  have hne (k : UInt16) (hk : startsNumber k = false) : c ≠ k := ne_of_startsNumber hc hk
  rw [parseValue, skipSpace_cons (gt_of_startsNumber hc)]
  simp [hne _ (show startsNumber 34 = false by decide), hne _ (show startsNumber 123 = false by decide),
    hne _ (show startsNumber 91 = false by decide), hne _ (show startsNumber 116 = false by decide),
    hne _ (show startsNumber 102 = false by decide), hne _ (show startsNumber 110 = false by decide), h]

theorem parseValue_num (n : Int) (h : Ends rest) :
    parseValue (fuel + 1) (ofInt n ++ rest) = some (.num n, rest) := by
  have hparse := parseNumber_ofInt n h
  obtain ⟨c, text, htext, hc⟩ := startsNumber_ofInt n
  rw [htext, List.cons_append] at hparse ⊢
  exact parseValue_number hc hparse

theorem parseValue_dec (d : JsDecimal) (h : Ends rest) :
    parseValue (fuel + 1) (d.text ++ rest) = some (.dec d, rest) := by
  have hparse := d.parseNumber_text h
  obtain ⟨c, text, htext, hc⟩ := startsNumber_text d
  rw [htext, List.cons_append] at hparse ⊢
  exact parseValue_number hc hparse

theorem parseValue_empty_obj : parseValue (fuel + 1) (123 :: 125 :: rest) = some (.obj [], rest) := by
  rw [parseValue, skipSpace_cons (by decide)]
  simp [skipSpace_cons]

theorem parseValue_empty_arr : parseValue (fuel + 1) (91 :: 93 :: rest) = some (.arr [], rest) := by
  rw [parseValue, skipSpace_cons (by decide)]
  simp [skipSpace_cons]

theorem parseValue_obj {c : UInt16} (hspace : 32 < c.toNat) (hc : c ≠ 125) :
    parseValue (fuel + 1) (123 :: c :: s) = parseMembers fuel [] (c :: s) := by
  rw [parseValue, skipSpace_cons (by decide)]
  simp only [skipSpace_cons hspace]
  simp [hc]

theorem parseValue_arr {c : UInt16} (hspace : 32 < c.toNat) (hc : c ≠ 93) :
    parseValue (fuel + 1) (91 :: c :: s) = parseItems fuel [] (c :: s) := by
  rw [parseValue, skipSpace_cons (by decide)]
  simp only [skipSpace_cons hspace]
  simp [hc]

theorem parseValue_lit : parseValue (fuel + 1) (lit "null" ++ rest) = some (.null, rest) ∧
    parseValue (fuel + 1) (lit "true" ++ rest) = some (.bool true, rest) ∧
    parseValue (fuel + 1) (lit "false" ++ rest) = some (.bool false, rest) := by
  have hnull : lit "null" = [110, 117, 108, 108] := by decide
  have htrue : lit "true" = [116, 114, 117, 101] := by decide
  have hfalse : lit "false" = [102, 97, 108, 115, 101] := by decide
  refine ⟨?_, ?_, ?_⟩
  · rw [hnull, List.cons_append, parseValue, skipSpace_cons (by decide)]
    simp [dropLit, hnull]
  · rw [htrue, List.cons_append, parseValue, skipSpace_cons (by decide)]
    simp [dropLit, htrue]
  · rw [hfalse, List.cons_append, parseValue, skipSpace_cons (by decide)]
    simp [dropLit, hfalse]

/-- So much fuel reads back every text that is no longer. -/
structure ReadsBack (fuel : Nat) : Prop where
  value : ∀ (v : Json) (rest : JsString), v.Distinct → Ends rest → v.stringify.length ≤ fuel →
    parseValue fuel (v.stringify ++ rest) = some (v, rest)
  items : ∀ (item : Json) (items done : List Json) (rest : JsString), AllDistinct (item :: items) →
    (itemsText (item :: items)).length + 1 ≤ fuel →
    parseItems fuel done (itemsText (item :: items) ++ 93 :: rest) =
      some (.arr (done ++ item :: items), rest)
  members : ∀ (key : JsString) (value : Json) (members done : List (JsString × Json)) (rest : JsString),
    ((done ++ (key, value) :: members).map Prod.fst).Nodup → MembersDistinct ((key, value) :: members) →
    (membersText ((key, value) :: members)).length + 1 ≤ fuel →
    parseMembers fuel done (membersText ((key, value) :: members) ++ 125 :: rest) =
      some (.obj (done ++ (key, value) :: members), rest)

namespace ReadsBack

theorem zero : ReadsBack 0 := by
  refine ⟨fun v rest _ _ hfuel => ?_, fun _ _ _ _ _ hfuel => by omega, fun _ _ _ _ _ _ _ hfuel => by omega⟩
  obtain ⟨c, text, htext, -, -⟩ := stringify_head v
  simp [htext] at hfuel

theorem succ_value (h : ReadsBack fuel) (v : Json) (rest : JsString) (hv : v.Distinct)
    (hrest : Ends rest) (hfuel : v.stringify.length ≤ fuel + 1) :
    parseValue (fuel + 1) (v.stringify ++ rest) = some (v, rest) := by
  match v with
  | .null => exact parseValue_lit.1
  | .bool true => exact parseValue_lit.2.1
  | .bool false => exact parseValue_lit.2.2
  | .num n => exact parseValue_num n hrest
  | .dec d => exact parseValue_dec d hrest
  | .str s => exact parseValue_str
  | .arr [] => exact parseValue_empty_arr
  | .obj [] => exact parseValue_empty_obj
  | .arr (item :: items) =>
    rw [length_stringify_arr] at hfuel
    have hitems := h.items item items [] rest hv (by omega)
    obtain ⟨c, text, htext, hspace, hc⟩ := itemsText_head item items (93 :: rest)
    rw [stringify_arr]
    rw [htext] at hitems ⊢
    exact (parseValue_arr hspace hc).trans hitems
  | .obj ((key, value) :: members) =>
    rw [length_stringify_obj] at hfuel
    have hmembers := h.members key value members [] rest hv.1 hv.2 (by omega)
    obtain ⟨text, htext⟩ := membersText_head key value members (125 :: rest)
    rw [stringify_obj]
    rw [htext] at hmembers ⊢
    exact (parseValue_obj (by decide) (by decide)).trans hmembers

theorem succ_items (h : ReadsBack fuel) (item : Json) (items done : List Json) (rest : JsString)
    (hv : AllDistinct (item :: items)) (hfuel : (itemsText (item :: items)).length + 1 ≤ fuel + 1) :
    parseItems (fuel + 1) done (itemsText (item :: items) ++ 93 :: rest) =
      some (.arr (done ++ item :: items), rest) := by
  cases items with
  | nil =>
    rw [itemsText_single] at hfuel ⊢
    exact parseItems_last (h.value item _ hv.1 (.cons (by decide) _) (by omega))
  | cons next items =>
    have hlength := congrArg List.length (itemsText_cons item next items [])
    simp only [List.append_nil, List.length_append, List.length_cons] at hlength
    rw [itemsText_cons, parseItems_next (h.value item _ hv.1 (.cons (by decide) _) (by omega)),
      h.items next items (done ++ [item]) rest hv.2 (by omega), List.append_assoc, List.singleton_append]

theorem succ_members (h : ReadsBack fuel) (key : JsString) (value : Json)
    (members done : List (JsString × Json)) (rest : JsString)
    (hnodup : ((done ++ (key, value) :: members).map Prod.fst).Nodup)
    (hv : MembersDistinct ((key, value) :: members))
    (hfuel : (membersText ((key, value) :: members)).length + 1 ≤ fuel + 1) :
    parseMembers (fuel + 1) done (membersText ((key, value) :: members) ++ 125 :: rest) =
      some (.obj (done ++ (key, value) :: members), rest) := by
  have hnew : key ∉ done.map Prod.fst := by
    rw [List.map_append, List.nodup_append] at hnodup
    intro hmem
    exact hnodup.2.2 key hmem key (by simp) rfl
  cases members with
  | nil =>
    have hlength := congrArg List.length (membersText_single key value [])
    simp only [List.append_nil, List.length_append, List.length_cons] at hlength
    rw [membersText_single, parseMembers_last (h.value value _ hv.1 (.cons (by decide) _) (by omega)),
      setMember_of_not_mem hnew]
  | cons m members =>
    obtain ⟨next, nextValue⟩ := m
    have hlength := congrArg List.length (membersText_cons key value (next, nextValue) members [])
    simp only [List.append_nil, List.length_append, List.length_cons] at hlength
    rw [membersText_cons, parseMembers_next (h.value value _ hv.1 (.cons (by decide) _) (by omega)),
      setMember_of_not_mem hnew, h.members next nextValue members (done ++ [(key, value)]) rest
        (by simpa using hnodup) hv.2 (by omega), List.append_assoc, List.singleton_append]

theorem of_fuel (fuel : Nat) : ReadsBack fuel := by
  induction fuel with
  | zero => exact zero
  | succ fuel ih => exact ⟨ih.succ_value, ih.succ_items, ih.succ_members⟩

end ReadsBack

end Parse

/-- `JSON.parse(JSON.stringify(v))` is `v`. -/
theorem parse_stringify {v : Json} (hv : v.Distinct) : parse v.stringify = some v := by
  have hvalue := (ReadsBack.of_fuel (v.stringify.length + 1)).value v [] hv .nil (by omega)
  rw [List.append_nil] at hvalue
  have hrest : skipSpace [] = [] := rfl
  simp only [parse, hvalue, Option.bind_eq_bind, Option.bind_some]
  rw [if_pos hrest]

/-- Two values with the same text in front of anything that ends them are the same. -/
theorem stringify_append_inj {v w : Json} (hv : v.Distinct) (hw : w.Distinct) {r t : JsString}
    (hr : Ends r) (ht : Ends t) (h : v.stringify ++ r = w.stringify ++ t) : v = w ∧ r = t := by
  have hreads := ReadsBack.of_fuel (v.stringify.length + w.stringify.length)
  have hvalue := hreads.value v r hv hr (Nat.le_add_right _ _)
  have hother := hreads.value w t hw ht (Nat.le_add_left _ _)
  rw [h, hother, Option.some.injEq, Prod.mk.injEq] at hvalue
  exact ⟨hvalue.1.symm, hvalue.2.symm⟩

theorem stringify_injective {v w : Json} (hv : v.Distinct) (hw : w.Distinct)
    (h : v.stringify = w.stringify) : v = w :=
  (stringify_append_inj hv hw .nil .nil (congrArg (· ++ []) h)).1

mutual

/-- The members of every object put in an order. -/
def sorted (le : JsString → JsString → Bool) : Json → Json
  | .arr items => .arr (sortedItems le items)
  | .obj members => .obj ((sortedMembers le members).insertionSort fun a b => le a.1 b.1)
  | value => value

def sortedItems (le : JsString → JsString → Bool) : List Json → List Json
  | [] => []
  | item :: rest => item.sorted le :: sortedItems le rest

def sortedMembers (le : JsString → JsString → Bool) : List (JsString × Json) → List (JsString × Json)
  | [] => []
  | (key, value) :: rest => (key, value.sorted le) :: sortedMembers le rest

end

theorem map_fst_sortedMembers (le : JsString → JsString → Bool) (members : List (JsString × Json)) :
    (sortedMembers le members).map Prod.fst = members.map Prod.fst := by
  induction members with
  | nil => rfl
  | cons m members ih => simp [sortedMembers, ih]

theorem membersDistinct_iff {members : List (JsString × Json)} :
    MembersDistinct members ↔ ∀ m ∈ members, m.2.Distinct := by
  induction members with
  | nil => simp [MembersDistinct]
  | cons m members ih => simp [MembersDistinct, ih]

theorem perm_insertionSort (le : JsString → JsString → Bool) (members : List (JsString × Json)) :
    (members.insertionSort fun a b => le a.1 b.1).Perm members := List.perm_insertionSort _ members

mutual

/-- Sorting keeps the keys of an object apart. -/
theorem Distinct.sorted (le : JsString → JsString → Bool) (v : Json) (h : v.Distinct) :
    (v.sorted le).Distinct := by
  match v with
  | .null | .bool _ | .num _ | .dec _ | .str _ => exact h
  | .arr items => exact AllDistinct.sorted le items h
  | .obj members =>
    have hperm := perm_insertionSort le (sortedMembers le members)
    refine ⟨?_, membersDistinct_iff.mpr fun m hm => ?_⟩
    · rw [(hperm.map Prod.fst).nodup_iff, map_fst_sortedMembers]
      exact h.1
    · exact membersDistinct_iff.mp (MembersDistinct.sorted le members h.2) m (hperm.mem_iff.mp hm)

theorem AllDistinct.sorted (le : JsString → JsString → Bool) (items : List Json) (h : AllDistinct items) :
    AllDistinct (sortedItems le items) := by
  match items with
  | [] => trivial
  | item :: rest => exact ⟨Distinct.sorted le item h.1, AllDistinct.sorted le rest h.2⟩

theorem MembersDistinct.sorted (le : JsString → JsString → Bool) (members : List (JsString × Json))
    (h : MembersDistinct members) : MembersDistinct (sortedMembers le members) := by
  match members with
  | [] => trivial
  | (key, value) :: rest => exact ⟨Distinct.sorted le value h.1, MembersDistinct.sorted le rest h.2⟩

end

/-- Two arrays with the same text agree in all but their last items, and these have the same text. -/
theorem itemsText_append_inj {front front' : List Json} {last last' : Json} {r t : JsString}
    (hfront : AllDistinct front) (hfront' : AllDistinct front') (hlength : front.length = front'.length)
    (h : itemsText (front ++ [last]) ++ r = itemsText (front' ++ [last']) ++ t) :
    front = front' ∧ last.stringify ++ r = last'.stringify ++ t := by
  induction front generalizing front' with
  | nil =>
    obtain rfl := List.length_eq_zero_iff.mp hlength.symm
    exact ⟨rfl, by simpa only [List.nil_append, itemsText_single] using h⟩
  | cons item front ih =>
    cases front' with
    | nil => cases hlength
    | cons item' front' =>
      have hcons (item : Json) (front : List Json) (last : Json) (rest : JsString) :
          itemsText (item :: front ++ [last]) ++ rest =
            item.stringify ++ 44 :: (itemsText (front ++ [last]) ++ rest) := by
        cases front with
        | nil => exact itemsText_cons item last [] rest
        | cons next front => exact itemsText_cons item next (front ++ [last]) rest
      rw [hcons, hcons] at h
      obtain ⟨rfl, hrest⟩ := stringify_append_inj hfront.1 hfront'.1 (.cons (by decide) _)
        (.cons (by decide) _) h
      obtain ⟨rfl, hlast⟩ := ih hfront.2 hfront'.2 (by simpa using hlength) (List.cons_injective hrest)
      exact ⟨rfl, hlast⟩

theorem renderItems_eq_map (arrange : Arrangement) (items : List Json) :
    renderItems arrange items = items.map (render arrange) := by
  induction items with
  | nil => rfl
  | cons item rest ih => rw [renderItems, ih, List.map_cons]

theorem renderMembers_eq_map (arrange : Arrangement) (members : List (JsString × Json)) :
    renderMembers arrange members = members.map fun m => (m.1, m.2.render arrange) := by
  induction members with
  | nil => rfl
  | cons m rest ih => rw [renderMembers, ih, List.map_cons]

/-- The order depends on the keys alone. -/
theorem sortMembers_map (f : Json → JsString) (members : List (JsString × Json)) :
    sortMembers (members.map fun m => (m.1, f m.2)) =
      (members.insertionSort fun a b => a.1.le b.1).map fun m => (m.1, f m.2) := by
  symm
  apply List.map_insertionSort
  exact fun _ _ _ _ => Iff.rfl

mutual

/-- Canonical text is the text of the value with its members sorted. -/
theorem canonical_eq (v : Json) : v.canonical = (v.sorted JsString.le).stringify := by
  match v with
  | .null | .bool _ | .num _ | .dec _ | .str _ => rfl
  | .arr items =>
    have hitems := renderItems_sorted items
    simp only [canonical, stringify, sorted, render] at hitems ⊢
    rw [hitems]
  | .obj members =>
    have hmembers := renderMembers_sorted members
    simp only [canonical, stringify, sorted, render, id] at hmembers ⊢
    rw [hmembers, renderMembers_eq_map, sortMembers_map, renderMembers_eq_map]

theorem renderItems_sorted (items : List Json) :
    renderItems sortMembers items = renderItems id (sortedItems JsString.le items) := by
  match items with
  | [] => rfl
  | item :: rest =>
    have hitem := canonical_eq item
    simp only [canonical, stringify] at hitem
    rw [renderItems, sortedItems, renderItems, hitem, renderItems_sorted rest]

theorem renderMembers_sorted (members : List (JsString × Json)) :
    renderMembers sortMembers members = renderMembers id (sortedMembers JsString.le members) := by
  match members with
  | [] => rfl
  | (key, value) :: rest =>
    have hvalue := canonical_eq value
    simp only [canonical, stringify] at hvalue
    rw [renderMembers, sortedMembers, renderMembers, hvalue, renderMembers_sorted rest]

end

/-- `JSON.parse` of canonical text. -/
theorem parse_canonical {v : Json} (hv : v.Distinct) : parse v.canonical = some (v.sorted JsString.le) := by
  rw [canonical_eq]
  exact parse_stringify (hv.sorted JsString.le)

/-- Values with the same canonical text differ in the order of members alone. -/
theorem canonical_inj {v w : Json} (hv : v.Distinct) (hw : w.Distinct) (h : v.canonical = w.canonical) :
    v.sorted JsString.le = w.sorted JsString.le := by
  rw [canonical_eq, canonical_eq] at h
  exact stringify_injective (hv.sorted JsString.le) (hw.sorted JsString.le) h

/-- Where every name stands once, it finds its member. -/
theorem field_of_mem {members : List (JsString × Json)} {key : String} {value : Json}
    (hn : (members.map Prod.fst).Nodup) (hm : (JsString.lit key, value) ∈ members) :
    (obj members).field key = some value := by
  have hsome : (members.find? (fun m => m.1 = JsString.lit key)).isSome = true :=
    List.find?_isSome.mpr ⟨_, hm, decide_eq_true rfl⟩
  obtain ⟨m, hfind⟩ := Option.isSome_iff_exists.mp hsome
  have hname : m.1 = JsString.lit key := by simpa using List.find?_some hfind
  rw [field, hfind, List.inj_on_of_nodup_map hn (List.mem_of_find?_eq_some hfind) hm hname, Option.map_some]

/-- Which member a key finds does not depend on the order. -/
theorem find?_perm {α : Type} {l l' : List (JsString × α)} (h : l.Perm l') (hn : (l.map Prod.fst).Nodup)
    (key : JsString) : l.find? (fun m => m.1 = key) = l'.find? (fun m => m.1 = key) := by
  induction h with
  | nil => rfl
  | cons m _ ih =>
    rw [List.find?_cons, List.find?_cons, ih (List.nodup_cons.mp hn).2]
  | swap m m' l =>
    have hne : m.1 ≠ m'.1 := by
      rintro heq
      rw [List.map_cons, List.map_cons, List.nodup_cons] at hn
      exact hn.1 (by rw [heq]; exact List.mem_cons_self)
    by_cases hm : m.1 = key
    · have hm' : m'.1 ≠ key := fun heq => hne (hm.trans heq.symm)
      simp [hm, hm']
    · simp [List.find?_cons, hm]
  | trans hperm _ ih ih' =>
    rw [ih hn, ih' ((hperm.map Prod.fst).nodup_iff.mp hn)]

theorem find?_sortedMembers (le : JsString → JsString → Bool) (members : List (JsString × Json))
    (key : JsString) : ((sortedMembers le members).find? (fun m => m.1 = key)).map Prod.snd =
      ((members.find? (fun m => m.1 = key)).map Prod.snd).map (sorted le) := by
  induction members with
  | nil => rfl
  | cons m members ih =>
    rw [sortedMembers, List.find?_cons, List.find?_cons]
    cases hkey : decide (m.1 = key) with
    | true => rfl
    | false => exact ih

/-- Sorting an object sorts what its members hold. -/
theorem field_sorted {v : Json} (hv : v.Distinct) (le : JsString → JsString → Bool) (key : String) :
    (v.sorted le).field key = (v.field key).map (sorted le) := by
  cases v with
  | obj members =>
    have hperm := perm_insertionSort le (sortedMembers le members)
    have hnodup : ((sortedMembers le members).map Prod.fst).Nodup := by
      rw [map_fst_sortedMembers]
      exact hv.1
    simp only [sorted, field]
    rw [← find?_perm hperm.symm hnodup, find?_sortedMembers]
  | _ => rfl

theorem strField_sorted {v : Json} (hv : v.Distinct) (le : JsString → JsString → Bool) (key : String) :
    (v.sorted le).strField key = v.strField key := by
  rw [strField, strField, field_sorted hv, Option.bind_map]
  congr 1
  funext w
  cases w <;> rfl

theorem numField_sorted {v : Json} (hv : v.Distinct) (le : JsString → JsString → Bool) (key : String) :
    (v.sorted le).numField key = v.numField key := by
  rw [numField, numField, field_sorted hv, Option.bind_map]
  congr 1
  funext w
  cases w <;> rfl

theorem wellFormed_join {separator : JsString} (hseparator : separator.WellFormed) {texts : List JsString}
    (h : ∀ text ∈ texts, text.WellFormed) : (JsString.join separator texts).WellFormed := by
  induction texts using JsString.join.induct with
  | case1 => exact .nil
  | case2 text => exact h text List.mem_cons_self
  | case3 text rest hne ih =>
    rw [List.forall_mem_cons] at h
    rw [JsString.join.eq_3 _ _ _ hne]
    exact (h.1.append hseparator).append (ih h.2)

/-- An arrangement that adds no members. -/
def Arrangement.Arranges (arrange : Arrangement) : Prop :=
  ∀ members, ∀ m ∈ arrange members, m ∈ members

mutual

/-- JSON text has no lone surrogates. -/
theorem wellFormed_render {arrange : Arrangement} (harrange : arrange.Arranges) (v : Json) :
    (v.render arrange).WellFormed := by
  match v with
  | .null => exact .of_all_ascii (s := JsString.lit "null") (by decide)
  | .bool b =>
    rw [render]
    exact .of_all_ascii (by cases b <;> decide)
  | .num n => exact JsString.wellFormed_ofInt n
  | .dec d => exact d.wellFormed_text
  | .str s => exact JsString.wellFormed_quote s
  | .arr items =>
    have hjoin := wellFormed_join (.of_all_ascii (s := JsString.lit ",") (by decide)) (wellFormed_items harrange items)
    exact ((JsString.WellFormed.of_all_ascii (by decide)).append hjoin).append (.of_all_ascii (by decide))
  | .obj members =>
    have hrendered : ∀ text ∈ (arrange (renderMembers arrange members)).map renderMember, text.WellFormed := by
      intro text htext
      obtain ⟨m, hm, rfl⟩ := List.mem_map.mp htext
      have hvalue := wellFormed_members harrange members m (harrange _ m hm)
      exact ((JsString.wellFormed_quote m.1).append (.of_all_ascii (by decide))).append hvalue
    have hjoin := wellFormed_join (.of_all_ascii (s := JsString.lit ",") (by decide)) hrendered
    exact ((JsString.WellFormed.of_all_ascii (by decide)).append hjoin).append (.of_all_ascii (by decide))

theorem wellFormed_items {arrange : Arrangement} (harrange : arrange.Arranges) (items : List Json) :
    ∀ text ∈ renderItems arrange items, text.WellFormed := by
  match items with
  | [] => exact fun _ h => (by cases h)
  | item :: rest =>
    exact List.forall_mem_cons.mpr ⟨wellFormed_render harrange item, wellFormed_items harrange rest⟩

theorem wellFormed_members {arrange : Arrangement} (harrange : arrange.Arranges) (members : List (JsString × Json)) :
    ∀ m ∈ renderMembers arrange members, m.2.WellFormed := by
  match members with
  | [] => exact fun _ h => (by cases h)
  | (key, value) :: rest =>
    exact List.forall_mem_cons.mpr ⟨wellFormed_render harrange value, wellFormed_members harrange rest⟩

end

theorem wellFormed_canonical (v : Json) : v.canonical.WellFormed :=
  wellFormed_render (fun _ _ => (List.perm_insertionSort _ _).mem_iff.mp) v

theorem wellFormed_stringify (v : Json) : v.stringify.WellFormed := wellFormed_render (fun _ _ => id) v

end Json

end TskProtocol
