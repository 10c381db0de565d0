import TskProtocol.Json.RoundTrip

namespace TskProtocol

theorem JsString.le_iff {s t : JsString} : s.le t = true ↔ s ≤ t := by
  induction s generalizing t with
  | nil => simp [le]
  | cons c s ih =>
    cases t with
    | nil => simp [le]
    | cons d t => simp [le, List.cons_le_cons_iff, ih]

/-- An order in which keys may be put. -/
structure KeyOrder (le : JsString → JsString → Bool) : Prop where
  total : ∀ a b, le a b = true ∨ le b a = true
  trans : ∀ a b c, le a b = true → le b c = true → le a c = true
  antisymm : ∀ a b, le a b = true → le b a = true → a = b

theorem JsString.keyOrder_le : KeyOrder JsString.le where
  total a b := by
    rw [le_iff, le_iff]
    exact List.le_total a b
  trans a b c := by
    rw [le_iff, le_iff, le_iff]
    exact List.le_trans
  antisymm a b := by
    rw [le_iff, le_iff]
    exact List.le_antisymm

section Keys

variable {α : Type}

/-- The order of the keys. -/
def keyLe (a b : JsString × α) : Prop := a.1 ≤ b.1

instance : DecidableRel (keyLe (α := α)) := fun a b => inferInstanceAs (Decidable (a.1 ≤ b.1))

instance : Std.Total (keyLe (α := α)) := ⟨fun _ _ => List.le_total _ _⟩

instance : IsTrans (JsString × α) keyLe := ⟨fun _ _ _ => List.le_trans⟩

theorem pairwise_sortKeys (members : List (JsString × α)) :
    (members.insertionSort fun a b => a.1.le b.1).Pairwise keyLe := by
  have hsort : (members.insertionSort fun a b => a.1.le b.1) = members.insertionSort keyLe := by
    congr 1
    funext a b
    exact propext JsString.le_iff
  rw [hsort]
  exact List.pairwise_insertionSort keyLe members

theorem KeyOrder.pairwise_sortKeys {le : JsString → JsString → Bool} (hle : KeyOrder le)
    (members : List (JsString × α)) :
    (members.insertionSort fun a b => le a.1 b.1).Pairwise fun a b => le a.1 b.1 = true := by
  have htotal : Std.Total fun a b : JsString × α => le a.1 b.1 = true := ⟨fun _ _ => hle.total _ _⟩
  have htrans : IsTrans (JsString × α) fun a b => le a.1 b.1 = true := ⟨fun _ _ _ => hle.trans _ _ _⟩
  exact List.pairwise_insertionSort _ members

/-- The order of the keys does not depend on the order of insertion. -/
theorem KeyOrder.sortKeys_perm {le : JsString → JsString → Bool} (hle : KeyOrder le)
    {members members' : List (JsString × α)} (h : members.Perm members')
    (hn : (members.map Prod.fst).Nodup) :
    (members.insertionSort fun a b => le a.1 b.1) = members'.insertionSort fun a b => le a.1 b.1 := by
  have hperm := List.perm_insertionSort (fun a b : JsString × α => le a.1 b.1 = true) members
  have hperm' := List.perm_insertionSort (fun a b : JsString × α => le a.1 b.1 = true) members'
  refine ((hperm.trans h).trans hperm'.symm).eq_of_pairwise (fun m m' hm hm' hlt hlt' => ?_)
    (hle.pairwise_sortKeys members) (hle.pairwise_sortKeys members')
  have hm : m ∈ members := hperm.mem_iff.mp hm
  have hm' : m' ∈ members := h.mem_iff.mpr (hperm'.mem_iff.mp hm')
  exact List.inj_on_of_nodup_map hn hm hm' (hle.antisymm _ _ hlt hlt')

end Keys

namespace Json

/-- The same value but for the order of members, at any depth. -/
inductive Reordered : Json → Json → Prop
  | refl (v : Json) : Reordered v v
  | trans {u v w : Json} : Reordered u v → Reordered v w → Reordered u w
  | item {v w : Json} (front back : List Json) : Reordered v w →
      Reordered (.arr (front ++ v :: back)) (.arr (front ++ w :: back))
  | member {v w : Json} (front back : List (JsString × Json)) (key : JsString) : Reordered v w →
      Reordered (.obj (front ++ (key, v) :: back)) (.obj (front ++ (key, w) :: back))
  | swap {members members' : List (JsString × Json)} : members.Perm members' →
      Reordered (.obj members) (.obj members')

theorem Reordered.symm {v w : Json} (h : Reordered v w) : Reordered w v := by
  induction h with
  | refl v => exact .refl v
  | trans _ _ ih ih' => exact .trans ih' ih
  | item front back _ ih => exact .item front back ih
  | member front back key _ ih => exact .member front back key ih
  | swap hperm => exact .swap hperm.symm

mutual

theorem reordered_sorted (le : JsString → JsString → Bool) (v : Json) : Reordered v (v.sorted le) := by
  match v with
  | .null | .bool _ | .num _ | .dec _ | .str _ => exact .refl _
  | .arr items => exact reordered_items le [] items
  | .obj members =>
    exact .trans (reordered_members le [] members) (.swap (perm_insertionSort le _).symm)

theorem reordered_items (le : JsString → JsString → Bool) (front items : List Json) :
    Reordered (.arr (front ++ items)) (.arr (front ++ sortedItems le items)) := by
  match items with
  | [] => exact .refl _
  | item :: rest =>
    have hrest := reordered_items le (front ++ [item.sorted le]) rest
    rw [List.append_assoc, List.append_assoc] at hrest
    exact .trans (.item front rest (reordered_sorted le item)) hrest

theorem reordered_members (le : JsString → JsString → Bool) (front members : List (JsString × Json)) :
    Reordered (.obj (front ++ members)) (.obj (front ++ sortedMembers le members)) := by
  match members with
  | [] => exact .refl _
  | (key, value) :: rest =>
    have hrest := reordered_members le (front ++ [(key, value.sorted le)]) rest
    rw [List.append_assoc, List.append_assoc] at hrest
    exact .trans (.member front rest key (reordered_sorted le value)) hrest

end

theorem allDistinct_iff {items : List Json} : AllDistinct items ↔ ∀ item ∈ items, item.Distinct := by
  induction items with
  | nil => simp [AllDistinct]
  | cons item items ih => simp [AllDistinct, ih]

theorem sortedItems_eq_map (le : JsString → JsString → Bool) (items : List Json) :
    sortedItems le items = items.map (sorted le) := by
  induction items with
  | nil => rfl
  | cons item items ih => rw [sortedItems, ih, List.map_cons]

theorem sortedMembers_eq_map (le : JsString → JsString → Bool) (members : List (JsString × Json)) :
    sortedMembers le members = members.map fun m => (m.1, m.2.sorted le) := by
  induction members with
  | nil => rfl
  | cons m members ih => rw [sortedMembers, ih, List.map_cons]

/-- Sorting undoes a reordering. -/
theorem Reordered.sorted_eq {le : JsString → JsString → Bool} (hle : KeyOrder le) {v w : Json}
    (h : Reordered v w) (hv : v.Distinct) : w.Distinct ∧ v.sorted le = w.sorted le := by
  induction h with
  | refl v => exact ⟨hv, rfl⟩
  | trans _ _ ih ih' =>
    obtain ⟨hv, heq⟩ := ih hv
    obtain ⟨hw, heq'⟩ := ih' hv
    exact ⟨hw, heq.trans heq'⟩
  | @item v w front back _ ih =>
    have hall := allDistinct_iff.mp hv
    obtain ⟨hw, heq⟩ := ih (hall v (by simp))
    refine ⟨allDistinct_iff.mpr fun item hitem => ?_, ?_⟩
    · rw [List.mem_append, List.mem_cons] at hitem
      rcases hitem with hitem | rfl | hitem
      · exact hall item (by simp [hitem])
      · exact hw
      · exact hall item (by simp [hitem])
    · simp only [sorted, sortedItems_eq_map, List.map_append, List.map_cons, heq]
  | @member v w front back key _ ih =>
    obtain ⟨hnodup, hmembers⟩ := hv
    have hall := membersDistinct_iff.mp hmembers
    obtain ⟨hw, heq⟩ := ih (hall (key, v) (by simp))
    refine ⟨⟨?_, membersDistinct_iff.mpr fun m hm => ?_⟩, ?_⟩
    · simpa only [List.map_append, List.map_cons] using hnodup
    · rw [List.mem_append, List.mem_cons] at hm
      rcases hm with hm | rfl | hm
      · exact hall m (by simp [hm])
      · exact hw
      · exact hall m (by simp [hm])
    · simp only [sorted, sortedMembers_eq_map, List.map_append, List.map_cons, heq]
  | @swap members members' hperm =>
    obtain ⟨hnodup, hmembers⟩ := hv
    have hall := membersDistinct_iff.mp hmembers
    refine ⟨⟨(hperm.map Prod.fst).nodup_iff.mp hnodup, membersDistinct_iff.mpr fun m hm =>
      hall m (hperm.mem_iff.mpr hm)⟩, ?_⟩
    simp only [sorted, sortedMembers_eq_map]
    congr 1
    refine hle.sortKeys_perm (hperm.map _) ?_
    rwa [List.map_map]

end Json

end TskProtocol
