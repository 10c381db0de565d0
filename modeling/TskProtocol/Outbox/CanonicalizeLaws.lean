import Mathlib.Algebra.GroupWithZero.Nat
import TskProtocol.Json.Reordered
import TskProtocol.Outbox.Canonicalize

namespace TskProtocol

namespace Json

mutual

/-- How deep the objects and arrays of a value nest. -/
def depth : Json → Nat
  | .null | .bool _ | .num _ | .dec _ | .str _ => 0
  | .arr items => depthItems items
  | .obj members => depthMembers members

def depthItems : List Json → Nat
  | [] => 0
  | item :: rest => max (item.depth + 1) (depthItems rest)

def depthMembers : List (JsString × Json) → Nat
  | [] => 0
  | (_, value) :: rest => max (value.depth + 1) (depthMembers rest)

end

mutual

def nodes : Json → Nat
  | .null | .bool _ | .num _ | .dec _ | .str _ => 1
  | .arr items => 1 + nodesItems items
  | .obj members => 1 + nodesMembers members

def nodesItems : List Json → Nat
  | [] => 0
  | item :: rest => item.nodes + nodesItems rest

def nodesMembers : List (JsString × Json) → Nat
  | [] => 0
  | (_, value) :: rest => value.nodes + nodesMembers rest

end

/-- A value of safe integers and of texts without lone surrogates, within all the limits. -/
structure InBounds (value : Json) : Prop where
  canonical : value.isCanonical = true
  depth_le : value.depth ≤ CANON_MAX_DEPTH
  nodes_le : value.nodes ≤ CANON_MAX_NODES
  bytes_le : value.stringify.utf8.length ≤ CANON_MAX_TOTAL_BYTES

theorem depthItems_lt {items : List Json} {n : Nat} :
    depthItems items < n + 1 ↔ ∀ item ∈ items, item.depth < n := by
  induction items with
  | nil => simp [depthItems]
  | cons item rest ih => simp only [depthItems, Nat.max_lt, Nat.add_lt_add_iff_right, ih, List.forall_mem_cons]

theorem depthMembers_lt {members : List (JsString × Json)} {n : Nat} :
    depthMembers members < n + 1 ↔ ∀ m ∈ members, m.2.depth < n := by
  induction members with
  | nil => simp [depthMembers]
  | cons m rest ih => simp only [depthMembers, Nat.max_lt, Nat.add_lt_add_iff_right, ih, List.forall_mem_cons]

theorem nodesItems_eq (items : List Json) : nodesItems items = (items.map nodes).sum := by
  induction items with
  | nil => rfl
  | cons item rest ih => rw [nodesItems, ih, List.map_cons, List.sum_cons]

theorem nodesMembers_eq (members : List (JsString × Json)) :
    nodesMembers members = (members.map fun m => m.2.nodes).sum := by
  induction members with
  | nil => rfl
  | cons m rest ih => rw [nodesMembers, ih, List.map_cons, List.sum_cons]

theorem areCanonical_iff {items : List Json} :
    areCanonical items = true ↔ ∀ item ∈ items, item.isCanonical = true := by
  induction items with
  | nil => simp [areCanonical]
  | cons item rest ih => simp only [areCanonical, Bool.and_eq_true, ih, List.forall_mem_cons]

theorem haveCanonical_iff {members : List (JsString × Json)} :
    haveCanonical members = true ↔ ∀ m ∈ members, isCanonicalText m.1 = true ∧ m.2.isCanonical = true := by
  induction members with
  | nil => simp [haveCanonical]
  | cons m rest ih => simp only [haveCanonical, Bool.and_eq_true, ih, List.forall_mem_cons]

def memberText (m : JsString × Json) : JsString := m.1.quote ++ JsString.lit ":" ++ m.2.stringify

theorem stringify_arr_eq (items : List Json) : (arr items).stringify =
    JsString.lit "[" ++ (JsString.join (JsString.lit ",") (items.map stringify) ++ JsString.lit "]") := by
  rw [stringify, render, renderItems_eq_map, List.append_assoc]

theorem stringify_obj_eq (members : List (JsString × Json)) : (obj members).stringify =
    JsString.lit "\x7b" ++ (JsString.join (JsString.lit ",") (members.map memberText) ++ JsString.lit "\x7d") := by
  rw [stringify, render, renderMembers_eq_map, id, List.map_map, List.append_assoc]
  rfl

theorem wellFormed_memberText (m : JsString × Json) : (memberText m).WellFormed :=
  ((JsString.wellFormed_quote m.1).append (.of_all_ascii (by decide))).append (wellFormed_stringify m.2)

end Json

namespace Canonicalizer

/-- `c'` is `c` with some nodes counted and a text written. -/
structure Extended (c : Canonicalizer) (nodes : Nat) (text : JsString) (c' : Canonicalizer) : Prop where
  nodes_eq : c'.nodes = c.nodes + nodes
  bytes_eq : c'.bytes = c.bytes + text.utf8.length
  parts_eq : c'.parts = c.parts ++ text

variable {c c' : Canonicalizer} {n n' : Nat} {s t : JsString}

theorem extended_nil : c.Extended 0 [] c' ↔ c' = c := by
  constructor
  · rintro ⟨hnodes, hbytes, hparts⟩
    cases c
    cases c'
    simp_all [JsString.utf8]
  · rintro rfl
    exact ⟨rfl, rfl, (List.append_nil _).symm⟩

theorem push_eq_ok : c.push s = .ok c' ↔ c.Extended 0 s c' := by
  rw [push]
  constructor
  · intro h
    split at h
    · cases h
      exact ⟨rfl, rfl, rfl⟩
    · cases h
  · rintro ⟨hnodes, hbytes, hparts⟩
    have hle := c'.bytes_le
    rw [hbytes] at hle
    rw [dif_pos hle]
    cases c'
    simp_all

theorem countNode_eq_ok : c.countNode = .ok c' ↔ c.Extended 1 [] c' := by
  rw [countNode]
  constructor
  · intro h
    split at h
    · cases h
      exact ⟨rfl, rfl, (List.append_nil _).symm⟩
    · cases h
  · rintro ⟨hnodes, hbytes, hparts⟩
    have hle := c'.nodes_le
    rw [hnodes] at hle
    rw [dif_pos hle]
    cases c'
    simp_all [JsString.utf8]

/-- One text after the other. -/
theorem extended_append (hs : s.WellFormed) :
    (∃ m, c.Extended n s m ∧ m.Extended n' t c') ↔ c.Extended (n + n') (s ++ t) c' := by
  have hlength : (s ++ t).utf8.length = s.utf8.length + t.utf8.length := by
    rw [hs.utf8_append, List.length_append]
  constructor
  · rintro ⟨m, hm, hc'⟩
    refine ⟨?_, ?_, ?_⟩
    · rw [hc'.nodes_eq, hm.nodes_eq, Nat.add_assoc]
    · rw [hc'.bytes_eq, hm.bytes_eq, hlength, Nat.add_assoc]
    · rw [hc'.parts_eq, hm.parts_eq, List.append_assoc]
  · rintro ⟨hnodes, hbytes, hparts⟩
    have hnodes_le := c'.nodes_le
    have hbytes_le := c'.bytes_le
    rw [hlength] at hbytes
    refine ⟨⟨c.nodes + n, c.bytes + s.utf8.length, c.parts ++ s, by omega, by omega⟩, ⟨rfl, rfl, rfl⟩, ?_, ?_, ?_⟩
    · rw [hnodes, Nat.add_assoc]
    · rw [hbytes, Nat.add_assoc]
    · rw [hparts, List.append_assoc]

theorem pushJoined_eq_ok {α β : Type} {each : α → Canonicalizer → Except CanonicalizationError Canonicalizer}
    {R : β → α → Prop} {nodes : β → Nat} {text : β → JsString}
    (hwell : ∀ x y, R y x → (text y).WellFormed)
    (heach : ∀ x c c', each x c = .ok c' ↔ ∃ y, R y x ∧ c.Extended (nodes y) (text y) c') (xs : List α) :
    pushJoined each xs c = .ok c' ↔
      ∃ ys, List.Forall₂ R ys xs ∧ c.Extended (ys.map nodes).sum (JsString.join (JsString.lit ",") (ys.map text)) c' := by
  induction xs generalizing c with
  | nil =>
    simp only [pushJoined, Except.ok.injEq, List.forall₂_nil_right_iff, exists_eq_left, List.map_nil, List.sum_nil,
      JsString.join, extended_nil]
    exact eq_comm
  | cons x rest ih =>
    cases rest with
    | nil => simp [pushJoined, JsString.join, heach, List.forall₂_cons_right_iff]
    | cons x' rest =>
      have hcomma : (JsString.lit ",").WellFormed := .of_all_ascii (by decide)
      simp only [pushJoined, bind_eq_ok, heach, push_eq_ok, ih]
      constructor
      · rintro ⟨c₁, ⟨y, hy, hc₁⟩, c₂, hc₂, ys, hys, hc'⟩
        refine ⟨y :: ys, .cons hy hys, ?_⟩
        obtain ⟨y', ys, -, -, rfl⟩ := List.forall₂_cons_right_iff.mp hys
        have hrest := (extended_append hcomma).mp ⟨c₂, hc₂, hc'⟩
        have hall := (extended_append (hwell x y hy)).mp ⟨c₁, hc₁, hrest⟩
        simpa [JsString.join] using hall
      · rintro ⟨zs, hzs, hc'⟩
        obtain ⟨y, ys, hy, hys, rfl⟩ := List.forall₂_cons_right_iff.mp hzs
        obtain ⟨y', ys, -, -, rfl⟩ := List.forall₂_cons_right_iff.mp hys
        have hall : c.Extended (nodes y + (0 + ((y' :: ys).map nodes).sum)) (text y ++ (JsString.lit "," ++
            JsString.join (JsString.lit ",") ((y' :: ys).map text))) c' := by
          simpa [JsString.join] using hc'
        obtain ⟨c₁, hc₁, hrest⟩ := (extended_append (hwell x y hy)).mpr hall
        obtain ⟨c₂, hc₂, hlast⟩ := (extended_append hcomma).mpr hrest
        exact ⟨c₁, ⟨y, hy, hc₁⟩, c₂, hc₂, _, hys, hlast⟩

theorem bracketed_eq_ok {α : Type} {P : α → Prop} {nodes : α → Nat} {text : α → JsString}
    {loop : Canonicalizer → Except CanonicalizationError Canonicalizer} (c c' : Canonicalizer)
    {opening : JsString} (closing : JsString) (hopening : opening.WellFormed)
    (hwell : ∀ x, P x → (text x).WellFormed)
    (hloop : ∀ c c', loop c = .ok c' ↔ ∃ x, P x ∧ c.Extended (nodes x) (text x) c') :
    (c.push opening >>= fun c => loop c >>= fun c => c.push closing) = .ok c' ↔
      ∃ x, P x ∧ c.Extended (nodes x) (opening ++ (text x ++ closing)) c' := by
  simp only [bind_eq_ok, push_eq_ok, hloop]
  constructor
  · rintro ⟨c₁, hc₁, c₂, ⟨x, hx, hc₂⟩, hc'⟩
    have hrest := (extended_append (hwell x hx)).mp ⟨c₂, hc₂, hc'⟩
    have hall := (extended_append hopening).mp ⟨c₁, hc₁, hrest⟩
    rw [Nat.zero_add, Nat.add_zero] at hall
    exact ⟨x, hx, hall⟩
  · rintro ⟨x, hx, hall⟩
    rw [← Nat.add_zero (nodes x), ← Nat.zero_add (nodes x + 0)] at hall
    obtain ⟨c₁, hc₁, hrest⟩ := (extended_append hopening).mpr hall
    obtain ⟨c₂, hc₂, hc'⟩ := (extended_append (hwell x hx)).mpr hrest
    exact ⟨c₁, hc₁, c₂, ⟨x, hx, hc₂⟩, hc'⟩

end Canonicalizer

theorem jcsString_eq_ok {s text : JsString} :
    jcsString s = .ok text ↔ isCanonicalText s = true ∧ text = s.quote := by
  simp only [jcsString, bind_eq_ok, require_eq_ok, exists_const, pure_eq_ok, Except.ok.injEq, isCanonicalText,
    Bool.and_eq_true, Bool.not_eq_true', decide_eq_true_eq, and_assoc, @eq_comm _ s.quote]

namespace JsNumber

def toInt? : JsNumber → Option Int
  | .int n => some n
  | .negativeZero => some 0
  | .other => none

end JsNumber

theorem jcsNumber_eq_ok {m : JsNumber} {text : JsString} :
    jcsNumber m = .ok text ↔ ∃ n, m.toInt? = some n ∧ isSafeInteger n = true ∧ text = JsString.ofInt n := by
  cases m with
  | int n =>
    simp only [jcsNumber, bind_eq_ok, require_eq_ok, exists_const, pure_eq_ok, Except.ok.injEq, JsNumber.toInt?,
      Option.some.injEq, exists_eq_left', @eq_comm _ (JsString.ofInt n)]
  | negativeZero =>
    have hzero : JsString.lit "0" = JsString.ofInt 0 := by decide
    have hsafe : isSafeInteger 0 = true := by decide
    simp only [jcsNumber, JsNumber.toInt?, hzero, Except.ok.injEq, Option.some.injEq, exists_eq_left', hsafe,
      true_and, @eq_comm _ (JsString.ofInt 0)]
  | other => simp [jcsNumber, JsNumber.toInt?]

/-- How the objects that count as JSON look. -/
abbrev JsShape := JsObject → JsContents → Prop

mutual

/-- A value is, as JSON, the one given.  The members of an object stand in the order of their keys. -/
def Json.IsOf (shape : JsShape) (heap : JsHeap) : Json → JsValue → Prop
  | .null, v => v = .null
  | .bool b, v => v = .bool b
  | .num n, v => ∃ m : JsNumber, m.toInt? = some n ∧ v = .num m
  | .dec _, _ => False
  | .str s, v => v = .str s
  | .arr items, v => ∃ address values, v = .ref address ∧ shape (heap address) (.items values) ∧
      Json.AreOf shape heap items values
  | .obj members, v => ∃ address values, v = .ref address ∧ shape (heap address) (.members values) ∧
      Json.HaveOf shape heap members values

def Json.AreOf (shape : JsShape) (heap : JsHeap) : List Json → List JsValue → Prop
  | [], values => values = []
  | item :: items, values => ∃ v rest, values = v :: rest ∧ item.IsOf shape heap v ∧ Json.AreOf shape heap items rest

def Json.HaveOf (shape : JsShape) (heap : JsHeap) : List (JsString × Json) → List (JsString × JsValue) → Prop
  | [], values => values = []
  | (key, value) :: members, values => ∃ v rest, values = (key, v) :: rest ∧ value.IsOf shape heap v ∧
      Json.HaveOf shape heap members rest

end

section Walk

variable {shape : JsShape} {heap : JsHeap}

theorem areOf_iff {items : List Json} {values : List JsValue} :
    Json.AreOf shape heap items values ↔ List.Forall₂ (Json.IsOf shape heap) items values := by
  induction items generalizing values with
  | nil => simp [Json.AreOf]
  | cons item items ih =>
    simp only [Json.AreOf, ih, List.forall₂_cons_left_iff]
    constructor
    · rintro ⟨v, rest, rfl, hv, hrest⟩
      exact ⟨v, rest, hv, hrest, rfl⟩
    · rintro ⟨v, rest, hv, hrest, rfl⟩
      exact ⟨v, rest, rfl, hv, hrest⟩

theorem haveOf_iff {members : List (JsString × Json)} {values : List (JsString × JsValue)} :
    Json.HaveOf shape heap members values ↔
      List.Forall₂ (fun m v => m.1 = v.1 ∧ m.2.IsOf shape heap v.2) members values := by
  induction members generalizing values with
  | nil => simp [Json.HaveOf]
  | cons m members ih =>
    simp only [Json.HaveOf, ih, List.forall₂_cons_left_iff, Prod.exists]
    constructor
    · rintro ⟨v, rest, rfl, hv, hrest⟩
      exact ⟨m.1, v, rest, ⟨rfl, hv⟩, hrest, rfl⟩
    · rintro ⟨key, v, rest, ⟨rfl, hv⟩, hrest, rfl⟩
      exact ⟨v, rest, rfl, hv, hrest⟩

/-- What the checks of an object let through. -/
def JsObject.Reads (o : JsObject) (contents : JsContents) : Prop := o.contents = .ok contents

/-- What a walk with some levels left writes for a value. -/
structure Walked (heap : JsHeap) (levels : Nat) (value : Json) (v : JsValue) : Prop where
  of : value.IsOf JsObject.Reads heap v
  depth_lt : value.depth < levels
  canonical : value.isCanonical = true

section Inversion

variable {levels : Nat} {value : Json}

theorem walked_null : Walked heap (levels + 1) value .null ↔ value = .null := by
  constructor
  · rintro ⟨hof, -, -⟩
    cases value <;> simp_all [Json.IsOf]
  · rintro rfl
    exact ⟨rfl, Nat.succ_pos _, rfl⟩

theorem walked_bool {b : Bool} : Walked heap (levels + 1) value (.bool b) ↔ value = .bool b := by
  constructor
  · rintro ⟨hof, -, -⟩
    cases value <;> simp_all [Json.IsOf]
  · rintro rfl
    exact ⟨rfl, Nat.succ_pos _, rfl⟩

theorem walked_num {m : JsNumber} : Walked heap (levels + 1) value (.num m) ↔
    ∃ n, m.toInt? = some n ∧ isSafeInteger n = true ∧ value = .num n := by
  constructor
  · rintro ⟨hof, -, hcanonical⟩
    cases value <;> simp_all [Json.IsOf, Json.isCanonical]
  · rintro ⟨n, hn, hsafe, rfl⟩
    exact ⟨⟨m, hn, rfl⟩, Nat.succ_pos _, hsafe⟩

theorem walked_str {s : JsString} : Walked heap (levels + 1) value (.str s) ↔
    isCanonicalText s = true ∧ value = .str s := by
  constructor
  · rintro ⟨hof, -, hcanonical⟩
    cases value <;> simp_all [Json.IsOf, Json.isCanonical]
  · rintro ⟨htext, rfl⟩
    exact ⟨rfl, Nat.succ_pos _, htext⟩

/-- A member that is written. -/
structure WalkedMember (heap : JsHeap) (levels : Nat) (m : JsString × Json) (v : JsString × JsValue) : Prop where
  key : m.1 = v.1
  text : isCanonicalText m.1 = true
  value : Walked heap levels m.2 v.2

theorem walked_items {items : List Json} {values : List JsValue} :
    List.Forall₂ (Walked heap levels) items values ↔
      (∀ item ∈ items, item.depth < levels ∧ item.isCanonical = true) ∧ Json.AreOf JsObject.Reads heap items values := by
  have hwalked : Walked heap levels = fun item v =>
      (item.depth < levels ∧ item.isCanonical = true) ∧ item.IsOf JsObject.Reads heap v := by
    funext item v
    exact propext ⟨fun h => ⟨⟨h.depth_lt, h.canonical⟩, h.of⟩, fun h => ⟨h.2, h.1.1, h.1.2⟩⟩
  rw [hwalked, List.forall₂_and_left, areOf_iff]

theorem walked_members {members : List (JsString × Json)} {values : List (JsString × JsValue)} :
    List.Forall₂ (WalkedMember heap levels) members values ↔
      (∀ m ∈ members, m.2.depth < levels ∧ isCanonicalText m.1 = true ∧ m.2.isCanonical = true) ∧
        Json.HaveOf JsObject.Reads heap members values := by
  have hwalked : WalkedMember heap levels = fun m v =>
      (m.2.depth < levels ∧ isCanonicalText m.1 = true ∧ m.2.isCanonical = true) ∧
        m.1 = v.1 ∧ m.2.IsOf JsObject.Reads heap v.2 := by
    funext m v
    exact propext ⟨fun h => ⟨⟨h.value.depth_lt, h.text, h.value.canonical⟩, h.key, h.value.of⟩,
      fun h => ⟨h.2.1, h.1.2.1, h.2.2, h.1.1, h.1.2.2⟩⟩
  rw [hwalked, List.forall₂_and_left, haveOf_iff]

theorem walked_ref {address : Nat} : Walked heap (levels + 1) value (.ref address) ↔
    (∃ values, (heap address).Reads (.items values) ∧
      ∃ items, List.Forall₂ (Walked heap levels) items values ∧ value = .arr items) ∨
    (∃ values, (heap address).Reads (.members values) ∧
      ∃ members, List.Forall₂ (WalkedMember heap levels) members values ∧ value = .obj members) := by
  simp only [walked_items, walked_members]
  constructor
  · rintro ⟨hof, hdepth, hcanonical⟩
    cases value with
    | arr items =>
      obtain ⟨_, values, ⟨⟩, hreads, hitems⟩ := hof
      have hdepth := Json.depthItems_lt.mp hdepth
      have hcanonical := Json.areCanonical_iff.mp hcanonical
      exact .inl ⟨values, hreads, items, ⟨fun item hitem => ⟨hdepth item hitem, hcanonical item hitem⟩, hitems⟩, rfl⟩
    | obj members =>
      obtain ⟨_, values, ⟨⟩, hreads, hmembers⟩ := hof
      have hdepth := Json.depthMembers_lt.mp hdepth
      have hcanonical := Json.haveCanonical_iff.mp hcanonical
      exact .inr ⟨values, hreads, members, ⟨fun m hm => ⟨hdepth m hm, hcanonical m hm⟩, hmembers⟩, rfl⟩
    | _ => simp_all [Json.IsOf]
  · rintro (⟨values, hreads, items, ⟨hall, hitems⟩, rfl⟩ | ⟨values, hreads, members, ⟨hall, hmembers⟩, rfl⟩)
    · exact ⟨⟨address, values, rfl, hreads, hitems⟩, Json.depthItems_lt.mpr fun item hitem => (hall item hitem).1,
        Json.areCanonical_iff.mpr fun item hitem => (hall item hitem).2⟩
    · exact ⟨⟨address, values, rfl, hreads, hmembers⟩, Json.depthMembers_lt.mpr fun m hm => (hall m hm).1,
        Json.haveCanonical_iff.mpr fun m hm => (hall m hm).2⟩

end Inversion

theorem not_walked {levels : Nat} {v : JsValue} {value : Json}
    (hv : v = .undefined ∨ v = .bigint ∨ v = .function ∨ v = .symbol) : ¬ Walked heap levels value v := by
  rintro ⟨hof, -, -⟩
  rcases hv with rfl | rfl | rfl | rfl <;> cases value <;> simp_all [Json.IsOf]

section Write

variable {levels : Nat} {inner : JsValue → Canonicalizer → Except CanonicalizationError Canonicalizer}
  {c c' : Canonicalizer}

theorem writeMember_eq_ok
    (hinner : ∀ v c c', inner v c = .ok c' ↔
      ∃ value, Walked heap levels value v ∧ c.Extended value.nodes value.stringify c')
    (member : JsString × JsValue) (c c' : Canonicalizer) :
    JsHeap.write.writeMember inner member c = .ok c' ↔
      ∃ m, WalkedMember heap levels m member ∧ c.Extended m.2.nodes (Json.memberText m) c' := by
  have hcolon : (JsString.lit ":").WellFormed := .of_all_ascii (by decide)
  simp only [JsHeap.write.writeMember, bind_eq_ok, jcsString_eq_ok, Canonicalizer.push_eq_ok, hinner]
  constructor
  · rintro ⟨_, ⟨htext, rfl⟩, c₁, hc₁, value, hvalue, hc'⟩
    have hall := (Canonicalizer.extended_append ((JsString.wellFormed_quote _).append hcolon)).mp ⟨c₁, hc₁, hc'⟩
    rw [Nat.zero_add] at hall
    exact ⟨(member.1, value), ⟨rfl, htext, hvalue⟩, hall⟩
  · rintro ⟨m, ⟨hkey, htext, hvalue⟩, hall⟩
    rw [← Nat.zero_add m.2.nodes] at hall
    obtain ⟨c₁, hc₁, hc'⟩ :=
      (Canonicalizer.extended_append ((JsString.wellFormed_quote m.1).append hcolon)).mpr hall
    rw [hkey] at htext hc₁
    exact ⟨_, ⟨htext, rfl⟩, c₁, hc₁, m.2, hvalue, hc'⟩

/-- What `write` writes, when the walks inside write what they should. -/
theorem write_eq_ok
    (hinner : ∀ v c c', inner v c = .ok c' ↔
      ∃ value, Walked heap levels value v ∧ c.Extended value.nodes value.stringify c')
    (v : JsValue) : heap.write inner c v = .ok c' ↔
      ∃ value, Walked heap (levels + 1) value v ∧ c.Extended (value.nodes - 1) value.stringify c' := by
  have hcomma : (JsString.lit ",").WellFormed := .of_all_ascii (by decide)
  cases v with
  | null => simp only [JsHeap.write, Canonicalizer.push_eq_ok, walked_null, exists_eq_left]; rfl
  | bool b => simp only [JsHeap.write, Canonicalizer.push_eq_ok, walked_bool, exists_eq_left]; rfl
  | num m =>
    simp only [JsHeap.write, bind_eq_ok, jcsNumber_eq_ok, Canonicalizer.push_eq_ok, walked_num]
    constructor
    · rintro ⟨_, ⟨n, hn, hsafe, rfl⟩, hc'⟩
      exact ⟨.num n, ⟨n, hn, hsafe, rfl⟩, hc'⟩
    · rintro ⟨_, ⟨n, hn, hsafe, rfl⟩, hc'⟩
      exact ⟨_, ⟨n, hn, hsafe, rfl⟩, hc'⟩
  | str s =>
    simp only [JsHeap.write, bind_eq_ok, jcsString_eq_ok, Canonicalizer.push_eq_ok, walked_str]
    constructor
    · rintro ⟨_, ⟨htext, rfl⟩, hc'⟩
      exact ⟨.str s, ⟨htext, rfl⟩, hc'⟩
    · rintro ⟨_, ⟨htext, rfl⟩, hc'⟩
      exact ⟨_, ⟨htext, rfl⟩, hc'⟩
  | ref address =>
    have hreads (contents : JsContents) : (heap address).Reads contents ↔
        (heap address).contents = .ok contents := Iff.rfl
    simp only [JsHeap.write, walked_ref, hreads]
    cases (heap address).contents with
    | error e => simp
    | ok contents =>
      cases contents with
      | items values =>
        have hloop := Canonicalizer.bracketed_eq_ok c c' (JsString.lit "]")
          (.of_all_ascii (s := JsString.lit "[") (by decide))
          (fun items _ => Json.wellFormed_join hcomma (List.forall_mem_map.mpr fun item _ =>
            Json.wellFormed_stringify item))
          (fun c c' => Canonicalizer.pushJoined_eq_ok (fun _ item _ => Json.wellFormed_stringify item) hinner values)
        simp only [← Json.stringify_arr_eq, ← Json.nodesItems_eq] at hloop
        simp only [bind_ok, hloop, Except.ok.injEq, JsContents.items.injEq, reduceCtorEq, false_and, exists_false,
          or_false, exists_eq_left']
        constructor
        · rintro ⟨items, hitems, hc'⟩
          exact ⟨.arr items, ⟨items, hitems, rfl⟩, by rwa [Json.nodes, Nat.add_sub_cancel_left]⟩
        · rintro ⟨_, ⟨items, hitems, rfl⟩, hc'⟩
          rw [Json.nodes, Nat.add_sub_cancel_left] at hc'
          exact ⟨items, hitems, hc'⟩
      | members values =>
        have hloop := Canonicalizer.bracketed_eq_ok c c' (JsString.lit "\x7d")
          (.of_all_ascii (s := JsString.lit "\x7b") (by decide))
          (fun members _ => Json.wellFormed_join hcomma (List.forall_mem_map.mpr fun m _ =>
            Json.wellFormed_memberText m))
          (fun c c' => Canonicalizer.pushJoined_eq_ok (fun _ m _ => Json.wellFormed_memberText m)
            (writeMember_eq_ok hinner) values)
        simp only [← Json.stringify_obj_eq, ← Json.nodesMembers_eq] at hloop
        simp only [bind_ok, hloop, Except.ok.injEq, JsContents.members.injEq, reduceCtorEq, false_and, exists_false,
          false_or, exists_eq_left']
        constructor
        · rintro ⟨members, hmembers, hc'⟩
          exact ⟨.obj members, ⟨members, hmembers, rfl⟩, by rwa [Json.nodes, Nat.add_sub_cancel_left]⟩
        · rintro ⟨_, ⟨members, hmembers, rfl⟩, hc'⟩
          rw [Json.nodes, Nat.add_sub_cancel_left] at hc'
          exact ⟨members, hmembers, hc'⟩
  | undefined => simp [JsHeap.write, not_walked]
  | bigint => simp [JsHeap.write, not_walked]
  | function => simp [JsHeap.write, not_walked]
  | symbol => simp [JsHeap.write, not_walked]

end Write

theorem walk_eq_ok {levels : Nat} {v : JsValue} {c c' : Canonicalizer} : heap.walk levels v c = .ok c' ↔
    ∃ value, Walked heap levels value v ∧ c.Extended value.nodes value.stringify c' := by
  induction levels generalizing v c c' with
  | zero =>
    simp only [JsHeap.walk, reduceCtorEq, false_iff, not_exists, not_and]
    exact fun value hvalue _ => Nat.not_lt_zero _ hvalue.depth_lt
  | succ levels ih =>
    have hnodes (value : Json) : 1 + (value.nodes - 1) = value.nodes := by
      cases value <;> simp [Json.nodes]
    simp only [JsHeap.walk, bind_eq_ok, Canonicalizer.countNode_eq_ok, write_eq_ok fun v c c' => ih]
    constructor
    · rintro ⟨c₁, hc₁, value, hvalue, hc'⟩
      have hall := (Canonicalizer.extended_append .nil).mp ⟨c₁, hc₁, hc'⟩
      rw [hnodes] at hall
      exact ⟨value, hvalue, hall⟩
    · rintro ⟨value, hvalue, hall⟩
      rw [← hnodes] at hall
      obtain ⟨c₁, hc₁, hc'⟩ := (Canonicalizer.extended_append .nil).mpr hall
      exact ⟨c₁, hc₁, value, hvalue, hc'⟩

/-- What `canonicalize` accepts, and the text it gives. -/
theorem canonicalize_eq_ok {v : JsValue} {text : JsString} : heap.canonicalize v = .ok text ↔
    ∃ value : Json, value.IsOf JsObject.Reads heap v ∧ value.InBounds ∧ text = value.stringify := by
  simp only [JsHeap.canonicalize, bind_eq_ok, walk_eq_ok, pure_eq_ok, Except.ok.injEq]
  constructor
  · rintro ⟨c, ⟨value, hvalue, hc⟩, rfl⟩
    have hnodes := c.nodes_le
    have hbytes := c.bytes_le
    rw [hc.nodes_eq, Nat.zero_add] at hnodes
    rw [hc.bytes_eq, Nat.zero_add] at hbytes
    exact ⟨value, hvalue.of, ⟨hvalue.canonical, Nat.lt_succ_iff.mp hvalue.depth_lt, hnodes, hbytes⟩, hc.parts_eq⟩
  · rintro ⟨value, hof, hbounds, rfl⟩
    refine ⟨⟨value.nodes, value.stringify.utf8.length, value.stringify, hbounds.nodes_le, hbounds.bytes_le⟩,
      ⟨value, ⟨hof, Nat.lt_succ_iff.mpr hbounds.depth_le, hbounds.canonical⟩, ?_⟩, rfl⟩
    exact ⟨(Nat.zero_add _).symm, (Nat.zero_add _).symm, rfl⟩

end Walk

end TskProtocol
