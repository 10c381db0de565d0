import TskProtocol.Outbox.CanonicalizeLaws

namespace TskProtocol

namespace JsObject

/-- An enumerable data property. -/
def plainProperty (m : JsString × JsValue) : JsString × JsProperty := (m.1, .data m.2 true)

theorem fst_plainProperty (members : List (JsString × JsValue)) :
    (members.map plainProperty).map Prod.fst = members.map Prod.fst := by
  rw [List.map_map]
  rfl

theorem plainProperty_injective : Function.Injective plainProperty := by
  rintro ⟨name, v⟩ ⟨name', v'⟩ h
  simp only [plainProperty, Prod.mk.injEq, JsProperty.data.injEq, and_true] at h
  rw [h.1, h.2]

theorem checkIndex_eq_ok {p : JsString × JsProperty} {u : Unit} :
    checkIndex p = .ok u ↔ isIndexName p.1 = true ∧ ∃ v, p.2 = .data v true := by
  obtain ⟨name, property⟩ := p
  cases property <;> simp [checkIndex, bind_eq_ok]

theorem checkMember_eq_ok {p : JsString × JsProperty} {m : JsString × JsValue} :
    checkMember p = .ok m ↔ p = plainProperty m ∧ m.1 ≠ JsString.lit "__proto__" := by
  obtain ⟨name, property⟩ := p
  cases property with
  | accessor => simp [checkMember, plainProperty]
  | data v enumerable =>
    simp only [checkMember, bind_eq_ok, require_eq_ok, exists_const, pure_eq_ok, Except.ok.injEq, plainProperty,
      Prod.mk.injEq, JsProperty.data.injEq]
    constructor
    · rintro ⟨henumerable, hname, rfl⟩
      exact ⟨⟨rfl, rfl, henumerable⟩, hname⟩
    · rintro ⟨⟨rfl, rfl, henumerable⟩, hname⟩
      exact ⟨henumerable, hname, rfl⟩

theorem mapM_checkMember_eq_ok {properties : List (JsString × JsProperty)} {members : List (JsString × JsValue)} :
    properties.mapM checkMember = .ok members ↔
      properties = members.map plainProperty ∧ ∀ m ∈ members, m.1 ≠ JsString.lit "__proto__" := by
  induction properties generalizing members with
  | nil =>
    rw [List.mapM_nil, pure_eq_ok, Except.ok.injEq]
    constructor
    · rintro rfl
      exact ⟨rfl, fun _ hm => by cases hm⟩
    · rintro ⟨hmembers, -⟩
      exact (List.map_eq_nil_iff.mp hmembers.symm).symm
  | cons p properties ih =>
    simp only [List.mapM_cons, bind_eq_ok, checkMember_eq_ok, ih, pure_eq_ok, Except.ok.injEq]
    constructor
    · rintro ⟨m, ⟨rfl, hm⟩, members, ⟨rfl, hmembers⟩, rfl⟩
      exact ⟨rfl, List.forall_mem_cons.mpr ⟨hm, hmembers⟩⟩
    · rintro ⟨hproperties, hmembers⟩
      cases members with
      | nil => cases hproperties
      | cons m members =>
        rw [List.map_cons, List.cons.injEq] at hproperties
        rw [List.forall_mem_cons] at hmembers
        exact ⟨m, ⟨hproperties.1, hmembers.1⟩, members, ⟨hproperties.2, hmembers.2⟩, rfl⟩

variable {o : JsObject}

theorem reads_items {values : List JsValue} : o.Reads (.items values) ↔
    ∃ length, o.kind = .array length ∧ o.symbols = 0 ∧
      (∀ p ∈ o.properties, isIndexName p.1 = true ∧ ∃ v, p.2 = .data v true) ∧
      o.properties.length = length.toNat ∧ values = (List.range length.toNat).map o.element := by
  rw [Reads, contents]
  cases o.kind with
  | object => simp [bind_eq_ok]
  | array length =>
    simp only [bind_eq_ok, require_eq_ok, exists_const, forM_eq_ok, checkIndex_eq_ok, pure_eq_ok, Except.ok.injEq,
      JsContents.items.injEq, JsKind.array.injEq, exists_eq_left', @eq_comm _ (List.map _ _)]

theorem reads_members {values : List (JsString × JsValue)} : o.Reads (.members values) ↔
    o.kind = .object ∧ isPlainObject o = true ∧ o.symbols = 0 ∧
      ∃ members, o.properties = members.map plainProperty ∧ (∀ m ∈ members, m.1 ≠ JsString.lit "__proto__") ∧
        values = sortNames members := by
  rw [Reads, contents]
  cases o.kind with
  | array length => simp [bind_eq_ok]
  | object =>
    simp only [bind_eq_ok, require_eq_ok, exists_const, mapM_checkMember_eq_ok, pure_eq_ok, Except.ok.injEq,
      JsContents.members.injEq, true_and, and_assoc, @eq_comm _ (sortNames _)]

theorem perm_sortNames (members : List (JsString × JsValue)) : (sortNames members).Perm members :=
  List.perm_insertionSort _ members

/-- The order of members that `sort` follows. -/
def nameLe (a b : JsString × JsValue) : Prop := a.1 ≤ b.1

theorem pairwise_sortNames (members : List (JsString × JsValue)) : (sortNames members).Pairwise nameLe :=
  pairwise_sortKeys members

/-- The order of names does not depend on the order of insertion. -/
theorem sortNames_perm {members members' : List (JsString × JsValue)} (h : members.Perm members')
    (hn : (members.map Prod.fst).Nodup) : sortNames members = sortNames members' :=
  JsString.keyOrder_le.sortKeys_perm h hn

theorem find?_of_mem {p : JsString × JsProperty} (h : p ∈ o.properties) :
    o.properties.find? (fun q => q.1 = p.1) = some p := by
  have hsome : (o.properties.find? (fun q => q.1 = p.1)).isSome = true :=
    List.find?_isSome.mpr ⟨p, h, decide_eq_true rfl⟩
  obtain ⟨q, hq⟩ := Option.isSome_iff_exists.mp hsome
  have hname : q.1 = p.1 := by simpa using List.find?_some hq
  rw [hq, List.inj_on_of_nodup_map o.nodup (List.mem_of_find?_eq_some hq) h hname]

theorem element_of_mem {i : Nat} {v : JsValue} {enumerable : Bool}
    (h : (JsString.ofNat i, JsProperty.data v enumerable) ∈ o.properties) : o.element i = v := by
  have hfind := find?_of_mem h
  rw [element, hfind]

theorem mem_of_element {i : Nat} (hprototype : o.prototype = .arrayPrototype) (h : o.element i ≠ .undefined) :
    ∃ enumerable, (JsString.ofNat i, JsProperty.data (o.element i) enumerable) ∈ o.properties := by
  revert h
  rw [element]
  split
  · next name v enumerable hfind =>
    have hname : name = JsString.ofNat i := of_decide_eq_true (List.find?_some hfind :)
    exact fun _ => ⟨enumerable, hname ▸ List.mem_of_find?_eq_some hfind⟩
  · exact fun h => (h rfl).elim
  · rw [hprototype]
    exact fun h => (h rfl).elim

/-- The elements of an array as its own properties. -/
def indexed (values : List JsValue) : List (JsString × JsProperty) :=
  values.mapIdx fun i v => plainProperty (JsString.ofNat i, v)

/-- An array that holds its elements and nothing else, or an object of enumerable data properties: what
may stand for a value of JSON. -/
inductive Plain (o : JsObject) : JsContents → Prop
  | array {length : UInt32} {values : List JsValue} (kind : o.kind = .array length)
      (length_eq : values.length = length.toNat) (prototype : o.prototype = .arrayPrototype)
      (symbols : o.symbols = 0) (properties : o.properties.Perm (indexed values)) : Plain o (.items values)
  | object {inserted members : List (JsString × JsValue)} (kind : o.kind = .object)
      (prototype : o.prototype = .objectPrototype ∨ o.prototype = .null) (symbols : o.symbols = 0)
      (properties : o.properties = inserted.map plainProperty)
      (names : ∀ m ∈ inserted, m.1 ≠ JsString.lit "__proto__")
      (order : members.Perm inserted) (ordered : members.Pairwise nameLe) : Plain o (.members members)

theorem mem_indexed {values : List JsValue} {p : JsString × JsProperty} :
    p ∈ indexed values ↔ ∃ i, ∃ h : i < values.length, plainProperty (JsString.ofNat i, values[i]) = p :=
  List.mem_mapIdx

theorem nodup_indexed (values : List JsValue) : (indexed values).Nodup := by
  have hnames : (indexed values).map Prod.fst = (List.range values.length).map JsString.ofNat := by
    apply List.ext_getElem
    · simp [indexed]
    · intro i _ _
      simp [indexed, plainProperty]
  apply List.Nodup.of_map Prod.fst
  rw [hnames]
  exact List.nodup_range.map fun _ _ => JsString.ofNat_injective

theorem isIndexName_ofNat {i : Nat} (length : UInt32) (h : i < length.toNat) :
    isIndexName (JsString.ofNat i) = true := by
  have hlt := length.toNat_lt
  rw [isIndexName, bigIntOf_ofNat, MAX_SAFE_INTEGER]
  simp
  omega

theorem plain_members {values : List (JsString × JsValue)} :
    o.Plain (.members values) ↔ o.Reads (.members values) := by
  have hprototype : isPlainObject o = true ↔ o.prototype = .objectPrototype ∨ o.prototype = .null := by
    rw [isPlainObject]
    cases o.prototype <;> simp
  rw [reads_members, hprototype]
  constructor
  · rintro ⟨⟩
    next inserted kind prototype symbols properties names order ordered =>
    have hnodup : (inserted.map Prod.fst).Nodup := by
      rw [← fst_plainProperty, ← properties]
      exact o.nodup
    refine ⟨kind, prototype, symbols, inserted, properties, names, ?_⟩
    refine (order.trans (perm_sortNames inserted).symm).eq_of_pairwise (fun m m' hm hm' hle hle' => ?_) ordered
      (pairwise_sortNames inserted)
    exact List.inj_on_of_nodup_map hnodup (order.mem_iff.mp hm) ((perm_sortNames inserted).mem_iff.mp hm')
      (List.le_antisymm hle hle')
  · rintro ⟨kind, prototype, symbols, members, properties, names, rfl⟩
    exact .object kind prototype symbols properties names (perm_sortNames members) (pairwise_sortNames members)

theorem Plain.reads_items {values : List JsValue} (h : o.Plain (.items values)) : o.Reads (.items values) := by
  rw [JsObject.reads_items]
  obtain ⟨kind, length_eq, prototype, symbols, properties⟩ := h
  next length =>
  refine ⟨length, kind, symbols, fun p hp => ?_, ?_, ?_⟩
  · obtain ⟨i, hi, rfl⟩ := mem_indexed.mp (properties.mem_iff.mp hp)
    exact ⟨isIndexName_ofNat length (length_eq ▸ hi), _, rfl⟩
  · rw [properties.length_eq, indexed, List.length_mapIdx, length_eq]
  · apply List.ext_getElem
    · simp [length_eq]
    · intro i hi _
      have hmem : plainProperty (JsString.ofNat i, values[i]) ∈ o.properties :=
        properties.mem_iff.mpr (mem_indexed.mpr ⟨i, hi, rfl⟩)
      simp [element_of_mem hmem]

theorem Plain.prototype_eq {values : List JsValue} (h : o.Plain (.items values)) :
    o.prototype = .arrayPrototype := by
  cases h with
  | array _ _ prototype _ _ => exact prototype

/-- An array of the usual prototype without holes is plain. -/
theorem plain_of_reads {values : List JsValue} (h : o.Reads (.items values))
    (hprototype : o.prototype = .arrayPrototype) (hdefined : .undefined ∉ values) : o.Plain (.items values) := by
  obtain ⟨length, kind, symbols, hproperties, hlength, rfl⟩ := JsObject.reads_items.mp h
  refine .array kind (by simp) hprototype symbols ?_
  have hsubset : indexed ((List.range length.toNat).map o.element) ⊆ o.properties := by
    intro p hp
    obtain ⟨i, hi, rfl⟩ := mem_indexed.mp hp
    have hne : o.element i ≠ .undefined := by
      intro heq
      rw [List.length_map, List.length_range] at hi
      exact hdefined (List.mem_map.mpr ⟨i, List.mem_range.mpr hi, heq⟩)
    obtain ⟨enumerable, hmem⟩ := mem_of_element hprototype hne
    obtain ⟨v, hv⟩ := (hproperties _ hmem).2
    cases hv
    simpa [plainProperty] using hmem
  refine (List.Subperm.perm_of_length_le (List.subperm_of_subset (nodup_indexed _) hsubset) ?_).symm
  simp [indexed, hlength]

end JsObject

variable {heap : JsHeap}

/-- The names of an object are distinct. -/
theorem JsObject.Reads.nodup {o : JsObject} {values : List (JsString × JsValue)} (h : o.Reads (.members values)) :
    (values.map Prod.fst).Nodup := by
  obtain ⟨-, -, -, members, hproperties, -, rfl⟩ := JsObject.reads_members.mp h
  rw [((JsObject.perm_sortNames members).map Prod.fst).nodup_iff, ← JsObject.fst_plainProperty, ← hproperties]
  exact o.nodup

theorem JsObject.Reads.unique {o : JsObject} {contents contents' : JsContents} (h : o.Reads contents)
    (h' : o.Reads contents') : contents = contents' := Except.ok.inj (h.symm.trans h')

theorem map_fst_of_haveOf {shape : JsShape} {members : List (JsString × Json)}
    {values : List (JsString × JsValue)} (h : Json.HaveOf shape heap members values) :
    members.map Prod.fst = values.map Prod.fst := by
  rw [haveOf_iff] at h
  induction h with
  | nil => rfl
  | cons hm _ ih => rw [List.map_cons, List.map_cons, hm.1, ih]

mutual

/-- No object that is read names a member twice. -/
theorem Json.IsOf.distinct (value : Json) {v : JsValue} (h : value.IsOf JsObject.Reads heap v) : value.Distinct := by
  match value with
  | .null | .bool _ | .num _ | .dec _ | .str _ => trivial
  | .arr items =>
    obtain ⟨_, values, -, -, hitems⟩ := h
    exact Json.AreOf.distinct items hitems
  | .obj members =>
    obtain ⟨_, values, -, hreads, hmembers⟩ := h
    refine ⟨?_, Json.HaveOf.distinct members hmembers⟩
    rw [map_fst_of_haveOf hmembers]
    exact hreads.nodup

theorem Json.AreOf.distinct (items : List Json) {values : List JsValue}
    (h : Json.AreOf JsObject.Reads heap items values) : Json.AllDistinct items := by
  match items with
  | [] => trivial
  | item :: items =>
    obtain ⟨v, rest, -, hv, hrest⟩ := h
    exact ⟨Json.IsOf.distinct item hv, Json.AreOf.distinct items hrest⟩

theorem Json.HaveOf.distinct (members : List (JsString × Json)) {values : List (JsString × JsValue)}
    (h : Json.HaveOf JsObject.Reads heap members values) : Json.MembersDistinct members := by
  match members with
  | [] => trivial
  | (key, value) :: members =>
    obtain ⟨v, rest, -, hv, hrest⟩ := h
    exact ⟨Json.IsOf.distinct value hv, Json.HaveOf.distinct members hrest⟩

end

section Reordering

/-- The same objects, the properties of each in any order. -/
structure JsObject.Reordered (o o' : JsObject) : Prop where
  kind : o'.kind = o.kind
  prototype : o'.prototype = o.prototype
  symbols : o'.symbols = o.symbols
  properties : o'.properties.Perm o.properties

def JsHeap.Reordered (heap heap' : JsHeap) : Prop := ∀ address, (heap address).Reordered (heap' address)

theorem JsObject.Reordered.symm {o o' : JsObject} (h : o.Reordered o') : o'.Reordered o :=
  ⟨h.kind.symm, h.prototype.symm, h.symbols.symm, h.properties.symm⟩

theorem JsObject.Reordered.element {o o' : JsObject} (h : o.Reordered o') (i : Nat) : o'.element i = o.element i := by
  rw [JsObject.element, JsObject.element, h.prototype, Json.find?_perm h.properties o'.nodup]

theorem exists_map_of_perm {α β : Type} {f : α → β} {l : List β} {xs : List α} (h : l.Perm (xs.map f)) :
    ∃ ys : List α, l = ys.map f ∧ ys.Perm xs := by
  have hxs : List.Forall₂ (fun b a => b = f a) (xs.map f) xs :=
    List.forall₂_map_left_iff.mpr (List.forall₂_same.mpr fun _ _ => rfl)
  obtain ⟨ys, hys, hperm⟩ := List.perm_comp_forall₂ h hxs
  refine ⟨ys, ?_, hperm⟩
  clear h hxs hperm
  induction hys with
  | nil => rfl
  | cons hb _ ih => rw [List.map_cons, hb, ih]

theorem JsObject.Reordered.reads {o o' : JsObject} (h : o.Reordered o') {contents : JsContents}
    (hreads : o.Reads contents) : o'.Reads contents := by
  cases contents with
  | items values =>
    obtain ⟨length, kind, symbols, hproperties, hlength, rfl⟩ := JsObject.reads_items.mp hreads
    refine JsObject.reads_items.mpr ⟨length, h.kind.trans kind, h.symbols.trans symbols,
      fun p hp => hproperties p (h.properties.mem_iff.mp hp), h.properties.length_eq.trans hlength, ?_⟩
    exact List.map_congr_left fun i _ => (h.element i).symm
  | members values =>
    obtain ⟨kind, plain, symbols, members, hproperties, names, rfl⟩ := JsObject.reads_members.mp hreads
    have hplain : isPlainObject o' = isPlainObject o := by rw [isPlainObject, isPlainObject, h.prototype]
    have hnodup : (members.map Prod.fst).Nodup := by
      rw [← JsObject.fst_plainProperty, ← hproperties]
      exact o.nodup
    obtain ⟨members', hproperties', hperm⟩ := exists_map_of_perm (hproperties ▸ h.properties)
    refine JsObject.reads_members.mpr ⟨h.kind.trans kind, hplain.trans plain, h.symbols.trans symbols, members',
      hproperties', fun m hm => names m (hperm.mem_iff.mp hm), ?_⟩
    exact JsObject.sortNames_perm hperm.symm hnodup

mutual

theorem Json.IsOf.reordered {heap' : JsHeap} (hheap : heap.Reordered heap') (value : Json) {v : JsValue}
    (h : value.IsOf JsObject.Reads heap v) : value.IsOf JsObject.Reads heap' v := by
  match value with
  | .null | .bool _ | .num _ | .dec _ | .str _ => exact h
  | .arr items =>
    obtain ⟨address, values, hv, hreads, hitems⟩ := h
    exact ⟨address, values, hv, (hheap address).reads hreads, Json.AreOf.reordered hheap items hitems⟩
  | .obj members =>
    obtain ⟨address, values, hv, hreads, hmembers⟩ := h
    exact ⟨address, values, hv, (hheap address).reads hreads, Json.HaveOf.reordered hheap members hmembers⟩

theorem Json.AreOf.reordered {heap' : JsHeap} (hheap : heap.Reordered heap') (items : List Json)
    {values : List JsValue} (h : Json.AreOf JsObject.Reads heap items values) :
    Json.AreOf JsObject.Reads heap' items values := by
  match items with
  | [] => exact h
  | item :: items =>
    obtain ⟨v, rest, hvalues, hv, hrest⟩ := h
    exact ⟨v, rest, hvalues, Json.IsOf.reordered hheap item hv, Json.AreOf.reordered hheap items hrest⟩

theorem Json.HaveOf.reordered {heap' : JsHeap} (hheap : heap.Reordered heap') (members : List (JsString × Json))
    {values : List (JsString × JsValue)} (h : Json.HaveOf JsObject.Reads heap members values) :
    Json.HaveOf JsObject.Reads heap' members values := by
  match members with
  | [] => exact h
  | (key, value) :: members =>
    obtain ⟨v, rest, hvalues, hv, hrest⟩ := h
    exact ⟨v, rest, hvalues, Json.IsOf.reordered hheap value hv, Json.HaveOf.reordered hheap members hrest⟩

end

/-- The order of insertion does not show. -/
theorem canonicalize_reordered {heap' : JsHeap} (h : heap.Reordered heap') (v : JsValue) :
    (heap'.canonicalize v).toOption = (heap.canonicalize v).toOption := by
  apply Option.ext
  intro text
  rw [toOption_eq_some, toOption_eq_some, canonicalize_eq_ok, canonicalize_eq_ok]
  constructor
  · rintro ⟨value, hof, hvalue⟩
    exact ⟨value, Json.IsOf.reordered (fun address => (h address).symm) value hof, hvalue⟩
  · rintro ⟨value, hof, hvalue⟩
    exact ⟨value, Json.IsOf.reordered h value hof, hvalue⟩

end Reordering

/-- The objects that a value leads to. -/
inductive JsHeap.Reaches (heap : JsHeap) : JsValue → Nat → Prop
  | here (address : Nat) : Reaches heap (.ref address) address
  | item {address a : Nat} {values : List JsValue} {v : JsValue} (hreads : (heap address).Reads (.items values))
      (hv : v ∈ values) (hrest : Reaches heap v a) : Reaches heap (.ref address) a
  | member {address a : Nat} {values : List (JsString × JsValue)} {m : JsString × JsValue}
      (hreads : (heap address).Reads (.members values)) (hm : m ∈ values) (hrest : Reaches heap m.2 a) :
      Reaches heap (.ref address) a

/-- Every array that a value leads to is one of `Array` itself. -/
def JsHeap.PlainArrays (heap : JsHeap) (v : JsValue) : Prop :=
  ∀ address, heap.Reaches v address → ∀ length, (heap address).kind = .array length →
    (heap address).prototype = .arrayPrototype

section Arrays

variable {address : Nat}

theorem plainArrays_items {values : List JsValue} (hreads : (heap address).Reads (.items values)) :
    heap.PlainArrays (.ref address) ↔
      (heap address).prototype = .arrayPrototype ∧ ∀ v ∈ values, heap.PlainArrays v := by
  constructor
  · intro h
    obtain ⟨length, hkind, -⟩ := JsObject.reads_items.mp hreads
    exact ⟨h address (.here address) length hkind, fun v hv a ha => h a (.item hreads hv ha)⟩
  · rintro ⟨hprototype, h⟩ a ha length hkind
    cases ha with
    | here => exact hprototype
    | item hreads' hv hrest =>
      cases hreads.unique hreads'
      exact h _ hv a hrest length hkind
    | member hreads' hm hrest => cases hreads.unique hreads'

theorem plainArrays_members {values : List (JsString × JsValue)}
    (hreads : (heap address).Reads (.members values)) :
    heap.PlainArrays (.ref address) ↔ ∀ m ∈ values, heap.PlainArrays m.2 := by
  constructor
  · exact fun h m hm a ha => h a (.member hreads hm ha)
  · intro h a ha length hkind
    cases ha with
    | here =>
      obtain ⟨hobject, -⟩ := JsObject.reads_members.mp hreads
      cases hobject.symm.trans hkind
    | item hreads' hv hrest => cases hreads.unique hreads'
    | member hreads' hm hrest =>
      cases hreads.unique hreads'
      exact h _ hm a hrest length hkind

theorem plainArrays_scalar {v : JsValue} (hv : ∀ address, v ≠ .ref address) : heap.PlainArrays v := by
  intro a ha
  cases ha with
  | here => exact (hv _ rfl).elim
  | item => exact (hv _ rfl).elim
  | member => exact (hv _ rfl).elim

theorem undefined_not_mem {shape : JsShape} {items : List Json} {values : List JsValue}
    (h : Json.AreOf shape heap items values) : .undefined ∉ values := by
  rw [areOf_iff] at h
  intro hmem
  induction h with
  | nil => cases hmem
  | @cons value v items values hv _ ih =>
    rcases List.mem_cons.mp hmem with rfl | hmem
    · cases value <;> simp_all [Json.IsOf]
    · exact ih hmem

mutual

/-- To be an I-JSON value is to be read as one with arrays of `Array` itself. -/
theorem Json.isOf_plain (value : Json) {v : JsValue} : value.IsOf JsObject.Plain heap v ↔
    value.IsOf JsObject.Reads heap v ∧ heap.PlainArrays v := by
  match value with
  | .null | .bool _ | .str _ =>
    refine ⟨fun h => ⟨h, ?_⟩, And.left⟩
    obtain rfl := h
    exact plainArrays_scalar (by simp)
  | .num n =>
    refine ⟨fun h => ⟨h, ?_⟩, And.left⟩
    obtain ⟨m, -, rfl⟩ := h
    exact plainArrays_scalar (by simp)
  | .dec _ => exact ⟨False.elim, fun h => h.1⟩
  | .arr items =>
    constructor
    · rintro ⟨address, values, rfl, hplain, hitems⟩
      obtain ⟨hitems, hvalues⟩ := (Json.areOf_plain items).mp hitems
      exact ⟨⟨address, values, rfl, hplain.reads_items, hitems⟩,
        (plainArrays_items hplain.reads_items).mpr ⟨hplain.prototype_eq, hvalues⟩⟩
    · rintro ⟨⟨address, values, rfl, hreads, hitems⟩, harrays⟩
      obtain ⟨hprototype, hvalues⟩ := (plainArrays_items hreads).mp harrays
      exact ⟨address, values, rfl, JsObject.plain_of_reads hreads hprototype (undefined_not_mem hitems),
        (Json.areOf_plain items).mpr ⟨hitems, hvalues⟩⟩
  | .obj members =>
    constructor
    · rintro ⟨address, values, rfl, hplain, hmembers⟩
      have hreads := JsObject.plain_members.mp hplain
      obtain ⟨hmembers, hvalues⟩ := (Json.haveOf_plain members).mp hmembers
      exact ⟨⟨address, values, rfl, hreads, hmembers⟩, (plainArrays_members hreads).mpr hvalues⟩
    · rintro ⟨⟨address, values, rfl, hreads, hmembers⟩, harrays⟩
      exact ⟨address, values, rfl, JsObject.plain_members.mpr hreads,
        (Json.haveOf_plain members).mpr ⟨hmembers, (plainArrays_members hreads).mp harrays⟩⟩

theorem Json.areOf_plain (items : List Json) {values : List JsValue} :
    Json.AreOf JsObject.Plain heap items values ↔
      Json.AreOf JsObject.Reads heap items values ∧ ∀ v ∈ values, heap.PlainArrays v := by
  match items with
  | [] =>
    refine ⟨fun h => ⟨h, ?_⟩, And.left⟩
    obtain rfl := h
    exact fun _ hv => by cases hv
  | item :: items =>
    constructor
    · rintro ⟨v, rest, rfl, hv, hrest⟩
      obtain ⟨hv, harrays⟩ := (Json.isOf_plain item).mp hv
      obtain ⟨hrest, hall⟩ := (Json.areOf_plain items).mp hrest
      exact ⟨⟨v, rest, rfl, hv, hrest⟩, List.forall_mem_cons.mpr ⟨harrays, hall⟩⟩
    · rintro ⟨⟨v, rest, rfl, hv, hrest⟩, hall⟩
      rw [List.forall_mem_cons] at hall
      exact ⟨v, rest, rfl, (Json.isOf_plain item).mpr ⟨hv, hall.1⟩, (Json.areOf_plain items).mpr ⟨hrest, hall.2⟩⟩

theorem Json.haveOf_plain (members : List (JsString × Json)) {values : List (JsString × JsValue)} :
    Json.HaveOf JsObject.Plain heap members values ↔
      Json.HaveOf JsObject.Reads heap members values ∧ ∀ m ∈ values, heap.PlainArrays m.2 := by
  match members with
  | [] =>
    refine ⟨fun h => ⟨h, ?_⟩, And.left⟩
    obtain rfl := h
    exact fun _ hm => by cases hm
  | (key, value) :: members =>
    constructor
    · rintro ⟨v, rest, rfl, hv, hrest⟩
      obtain ⟨hv, harrays⟩ := (Json.isOf_plain value).mp hv
      obtain ⟨hrest, hall⟩ := (Json.haveOf_plain members).mp hrest
      exact ⟨⟨v, rest, rfl, hv, hrest⟩, List.forall_mem_cons.mpr ⟨harrays, hall⟩⟩
    · rintro ⟨⟨v, rest, rfl, hv, hrest⟩, hall⟩
      rw [List.forall_mem_cons] at hall
      exact ⟨v, rest, rfl, (Json.isOf_plain value).mpr ⟨hv, hall.1⟩,
        (Json.haveOf_plain members).mpr ⟨hrest, hall.2⟩⟩

end

end Arrays

/-- What canonical text is to be for one value. -/
structure Canonicalizes (heap : JsHeap) (v : JsValue) : Prop where
  round_trip : ∀ text, heap.canonicalize v = .ok text →
    ∃ value : Json, value.IsOf JsObject.Reads heap v ∧ Json.parse text = some value
  injective : ∀ text (heap' : JsHeap) v', heap.canonicalize v = .ok text → heap'.canonicalize v' = .ok text →
    ∃ value : Json, value.IsOf JsObject.Reads heap v ∧ value.IsOf JsObject.Reads heap' v'
  order : ∀ heap', heap.Reordered heap' → (heap'.canonicalize v).toOption = (heap.canonicalize v).toOption
  rejects : (¬ ∃ value : Json, value.IsOf JsObject.Plain heap v ∧ value.InBounds) →
    ∃ e, heap.canonicalize v = .error e

/-- `canonicalize` does what it should, save that it takes arrays of subclasses for arrays. -/
theorem canonicalize_exact (heap : JsHeap) (v : JsValue) : Canonicalizes heap v ↔
    ((∃ value : Json, value.IsOf JsObject.Reads heap v ∧ value.InBounds) → heap.PlainArrays v) := by
  constructor
  · rintro h ⟨value, hof, hbounds⟩
    have haccepted : heap.canonicalize v = .ok value.stringify :=
      canonicalize_eq_ok.mpr ⟨value, hof, hbounds, rfl⟩
    obtain ⟨value', hplain, -⟩ : ∃ value : Json, value.IsOf JsObject.Plain heap v ∧ value.InBounds := by
      by_contra hnone
      obtain ⟨e, he⟩ := h.rejects hnone
      cases haccepted.symm.trans he
    exact ((Json.isOf_plain value').mp hplain).2
  · intro h
    refine ⟨fun text htext => ?_, fun text heap' v' htext htext' => ?_, fun heap' hheap => canonicalize_reordered hheap v,
      fun hnone => ?_⟩
    · obtain ⟨value, hof, -, rfl⟩ := canonicalize_eq_ok.mp htext
      exact ⟨value, hof, Json.parse_stringify hof.distinct⟩
    · obtain ⟨value, hof, -, rfl⟩ := canonicalize_eq_ok.mp htext
      obtain ⟨value', hof', -, heq⟩ := canonicalize_eq_ok.mp htext'
      obtain rfl := Json.stringify_injective hof.distinct hof'.distinct heq
      exact ⟨value, hof, hof'⟩
    · cases hresult : heap.canonicalize v with
      | error e => exact ⟨e, rfl⟩
      | ok text =>
        obtain ⟨value, hof, hbounds, -⟩ := canonicalize_eq_ok.mp hresult
        exact (hnone ⟨value, (Json.isOf_plain value).mpr ⟨hof, h ⟨value, hof, hbounds⟩⟩, hbounds⟩).elim

/-- `class Batch extends Array {}`, and one with a single element. -/
def sampleBatch : JsHeap := fun _ =>
  { kind := .array 1, prototype := .other fun _ => .undefined,
    properties := [(JsString.lit "0", .data (.num (.int 7)) true)], nodup := by decide }

theorem canonicalize_takes_subclass : ¬ Canonicalizes sampleBatch (.ref 0) := by
  intro h
  have haccepted : (sampleBatch.canonicalize (.ref 0)).toOption = some (JsString.lit "[7]") := by decide +kernel
  have hnone : ¬ ∃ value : Json, value.IsOf JsObject.Plain sampleBatch (.ref 0) ∧ value.InBounds := by
    rintro ⟨value, hplain, -⟩
    cases ((Json.isOf_plain value).mp hplain).2 0 (.here 0) 1 rfl
  obtain ⟨e, he⟩ := h.rejects hnone
  rw [he] at haccepted
  cases haccepted

end TskProtocol
