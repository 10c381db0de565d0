import Mathlib.Data.List.Nodup
import Mathlib.Data.List.Perm.Basic

universe u v

/-- A finite map that remembers insertion order: overwriting a key keeps its place,
a new key goes to the end. -/
structure OrderedMap (κ : Type u) (α : Type v) where
  entries : List (κ × α)
  nodup : (entries.map Prod.fst).Nodup

namespace OrderedMap

variable {κ : Type u} {α : Type v}

instance : EmptyCollection (OrderedMap κ α) := ⟨⟨[], by simp⟩⟩

def size (m : OrderedMap κ α) : Nat := m.entries.length

def keys (m : OrderedMap κ α) : List κ := m.entries.map Prod.fst

variable [DecidableEq κ]

def lookupIn (k : κ) : List (κ × α) → Option α
  | [] => none
  | (k', a) :: rest => if k' = k then some a else lookupIn k rest

def get? (m : OrderedMap κ α) (k : κ) : Option α := lookupIn k m.entries

def has (m : OrderedMap κ α) (k : κ) : Bool := (m.get? k).isSome

def putIn (k : κ) (a : α) : List (κ × α) → List (κ × α)
  | [] => [(k, a)]
  | (k', b) :: rest => if k' = k then (k, a) :: rest else (k', b) :: putIn k a rest

def dropIn (k : κ) : List (κ × α) → List (κ × α)
  | [] => []
  | (k', b) :: rest => if k' = k then dropIn k rest else (k', b) :: dropIn k rest

theorem dropIn_sublist (k : κ) (l : List (κ × α)) : (dropIn k l).Sublist l := by
  induction l with
  | nil => exact .slnil
  | cons e l ih =>
    simp only [dropIn]
    split
    · exact ih.cons _
    · exact ih.cons_cons _

theorem dropIn_of_not_mem {k : κ} {l : List (κ × α)} (h : k ∉ l.map Prod.fst) :
    dropIn k l = l := by
  induction l with
  | nil => rfl
  | cons e l ih =>
    simp only [List.map_cons, List.mem_cons, not_or] at h
    simp [dropIn, Ne.symm h.1, ih h.2]

theorem lookupIn_eq_none {k : κ} {l : List (κ × α)} :
    lookupIn k l = none ↔ k ∉ l.map Prod.fst := by
  induction l with
  | nil => simp [lookupIn]
  | cons e l ih =>
    by_cases h : e.1 = k
    · simp [lookupIn, h]
    · simp [lookupIn, h, ih, Ne.symm h]

theorem map_fst_putIn_of_mem {k : κ} {a : α} {l : List (κ × α)}
    (h : k ∈ l.map Prod.fst) : (putIn k a l).map Prod.fst = l.map Prod.fst := by
  induction l with
  | nil => simp at h
  | cons e l ih =>
    by_cases he : e.1 = k
    · simp [putIn, he]
    · have hk : k ∈ l.map Prod.fst := by simpa [Ne.symm he] using h
      simp [putIn, he, ih hk]

theorem putIn_of_not_mem {k : κ} {a : α} {l : List (κ × α)}
    (h : k ∉ l.map Prod.fst) : putIn k a l = l ++ [(k, a)] := by
  induction l with
  | nil => rfl
  | cons e l ih =>
    simp only [List.map_cons, List.mem_cons, not_or] at h
    simp [putIn, Ne.symm h.1, ih h.2]

theorem nodup_putIn {k : κ} {a : α} {l : List (κ × α)} (h : (l.map Prod.fst).Nodup) :
    ((putIn k a l).map Prod.fst).Nodup := by
  by_cases hk : k ∈ l.map Prod.fst
  · rwa [map_fst_putIn_of_mem hk]
  · rw [putIn_of_not_mem hk, List.map_append, List.nodup_append]
    refine ⟨h, by simp, ?_⟩
    intro x hx y hy hxy
    obtain rfl : y = k := by simpa using hy
    exact hk (hxy ▸ hx)

def set (m : OrderedMap κ α) (k : κ) (a : α) : OrderedMap κ α :=
  ⟨putIn k a m.entries, nodup_putIn m.nodup⟩

def erase (m : OrderedMap κ α) (k : κ) : OrderedMap κ α :=
  ⟨dropIn k m.entries, m.nodup.sublist ((dropIn_sublist k m.entries).map Prod.fst)⟩

theorem get?_congr {m n : OrderedMap κ α} (h : m.entries = n.entries) {k : κ} :
    m.get? k = n.get? k := congrArg (lookupIn k) h

@[simp] theorem get?_empty (k : κ) : (∅ : OrderedMap κ α).get? k = none := rfl

theorem lookupIn_putIn (k k' : κ) (a : α) (l : List (κ × α)) :
    lookupIn k' (putIn k a l) = if k = k' then some a else lookupIn k' l := by
  induction l with
  | nil => simp [putIn, lookupIn]
  | cons e l ih =>
    by_cases he : e.1 = k
    · by_cases hk : k = k' <;> simp [putIn, lookupIn, he, hk]
    · by_cases hk : k = k'
      · subst hk; simp [putIn, lookupIn, he, ih]
      · simp [putIn, lookupIn, he, ih, hk]

theorem lookupIn_dropIn (k k' : κ) (l : List (κ × α)) :
    lookupIn k' (dropIn k l) = if k = k' then none else lookupIn k' l := by
  induction l with
  | nil => simp [dropIn, lookupIn]
  | cons e l ih =>
    by_cases he : e.1 = k
    · by_cases hk : k = k'
      · simp only [dropIn, if_pos he, ih]
        simp [hk]
      · simp [dropIn, lookupIn, he, ih, hk]
    · by_cases hk : k = k'
      · subst hk; simp [dropIn, lookupIn, he, ih]
      · simp [dropIn, lookupIn, he, ih, hk]

theorem get?_set (m : OrderedMap κ α) (k k' : κ) (a : α) :
    (m.set k a).get? k' = if k = k' then some a else m.get? k' := lookupIn_putIn ..

@[simp] theorem get?_set_self (m : OrderedMap κ α) (k : κ) (a : α) :
    (m.set k a).get? k = some a := by simp [get?_set]

theorem get?_set_ne (m : OrderedMap κ α) {k k' : κ} (a : α) (h : k ≠ k') :
    (m.set k a).get? k' = m.get? k' := by simp [get?_set, h]

theorem get?_erase (m : OrderedMap κ α) (k k' : κ) :
    (m.erase k).get? k' = if k = k' then none else m.get? k' := lookupIn_dropIn ..

@[simp] theorem get?_erase_self (m : OrderedMap κ α) (k : κ) :
    (m.erase k).get? k = none := by simp [get?_erase]

theorem get?_erase_ne (m : OrderedMap κ α) {k k' : κ} (h : k ≠ k') :
    (m.erase k).get? k' = m.get? k' := by simp [get?_erase, h]

/-- `for (const [k, a] of m) if (!p(k, a)) m.delete(k)`. -/
def filter (m : OrderedMap κ α) (p : κ → α → Bool) : OrderedMap κ α :=
  ⟨m.entries.filter fun e => p e.1 e.2, (List.filter_sublist.map Prod.fst).nodup m.nodup⟩

/-- `for (const [k, a] of m) m.set(k, f(a))`. -/
def mapValues {β : Type*} (m : OrderedMap κ α) (f : α → β) : OrderedMap κ β :=
  ⟨m.entries.map fun e => (e.1, f e.2), by
    rw [List.map_map]
    exact m.nodup⟩

@[simp] theorem mem_keys {m : OrderedMap κ α} {k : κ} : k ∈ m.keys ↔ m.has k = true := by
  have h : m.get? k = none ↔ k ∉ m.keys := lookupIn_eq_none
  rw [has, Option.isSome_iff_ne_none, ne_eq, h, not_not]

theorem has_iff {m : OrderedMap κ α} {k : κ} : m.has k = true ↔ ∃ a, m.get? k = some a := by
  rw [has, Option.isSome_iff_exists]

theorem mem_of_lookupIn {k : κ} {a : α} {l : List (κ × α)} (h : lookupIn k l = some a) :
    (k, a) ∈ l := by
  induction l with
  | nil => cases h
  | cons e l ih =>
    obtain ⟨k', b⟩ := e
    simp only [lookupIn] at h
    split at h
    · next hk => simp [hk, Option.some.inj h]
    · exact List.mem_cons_of_mem _ (ih h)

theorem lookupIn_eq_some {k : κ} {a : α} {l : List (κ × α)} (hn : (l.map Prod.fst).Nodup) :
    lookupIn k l = some a ↔ (k, a) ∈ l := by
  induction l with
  | nil => simp [lookupIn]
  | cons e l ih =>
    obtain ⟨k', b⟩ := e
    simp only [List.map_cons, List.nodup_cons] at hn
    by_cases hk : k' = k
    · subst hk
      have hnot : (k', a) ∉ l := fun h => hn.1 (List.mem_map_of_mem (f := Prod.fst) h)
      simp [lookupIn, hnot, eq_comm]
    · simp [lookupIn, hk, ih hn.2, Ne.symm hk]

theorem get?_eq_some {m : OrderedMap κ α} {k : κ} {a : α} :
    m.get? k = some a ↔ (k, a) ∈ m.entries := lookupIn_eq_some m.nodup

theorem get?_mapValues {β : Type*} (m : OrderedMap κ α) (f : α → β) (k : κ) :
    (m.mapValues f).get? k = (m.get? k).map f := by
  apply Option.ext
  intro b
  rw [get?_eq_some, Option.map_eq_some_iff]
  simp only [mapValues, List.mem_map, Prod.mk.injEq, Prod.exists, get?_eq_some]
  exact ⟨fun ⟨_, a, hmem, hk, hb⟩ => ⟨a, hk ▸ hmem, hb⟩, fun ⟨a, hmem, hb⟩ => ⟨k, a, hmem, rfl, hb⟩⟩

theorem get?_filter {m : OrderedMap κ α} {p : κ → α → Bool} {k : κ} {a : α} :
    (m.filter p).get? k = some a ↔ m.get? k = some a ∧ p k a = true := by
  rw [get?_eq_some, get?_eq_some, filter, List.mem_filter]

theorem size_set (m : OrderedMap κ α) (k : κ) (a : α) :
    (m.set k a).size = if m.has k then m.size else m.size + 1 := by
  by_cases hk : k ∈ m.keys
  · have hfst : (putIn k a m.entries).map Prod.fst = m.entries.map Prod.fst :=
      map_fst_putIn_of_mem hk
    rw [if_pos (mem_keys.mp hk)]
    simpa [size, set] using congrArg List.length hfst
  · have hput : putIn k a m.entries = m.entries ++ [(k, a)] := putIn_of_not_mem hk
    rw [if_neg (fun h => hk (mem_keys.mpr h))]
    simpa [size, set] using congrArg List.length hput

theorem size_erase_of_not_has {m : OrderedMap κ α} {k : κ} (h : m.has k = false) :
    (m.erase k).size = m.size := by
  have hk : k ∉ m.keys := fun hk => by simp [mem_keys.mp hk] at h
  have hdrop : dropIn k m.entries = m.entries := dropIn_of_not_mem hk
  simpa [size, erase] using congrArg List.length hdrop

theorem size_erase_of_has {m : OrderedMap κ α} {k : κ} (h : m.has k = true) :
    (m.erase k).size + 1 = m.size := by
  have hmem : k ∈ m.entries.map Prod.fst := mem_keys.mpr h
  have hnodup := m.nodup
  simp only [size, erase]
  generalize m.entries = l at hmem hnodup
  induction l with
  | nil => cases hmem
  | cons e l ih =>
    rw [List.map_cons, List.nodup_cons] at hnodup
    by_cases he : e.1 = k
    · rw [dropIn, if_pos he, dropIn_of_not_mem (he ▸ hnodup.1), List.length_cons]
    · have hrest : k ∈ l.map Prod.fst := by simpa [Ne.symm he] using hmem
      rw [dropIn, if_neg he, List.length_cons, List.length_cons, ih hrest hnodup.2]

theorem size_erase_le (m : OrderedMap κ α) (k : κ) : (m.erase k).size ≤ m.size :=
  (dropIn_sublist k m.entries).length_le

theorem putIn_of_lookupIn {k : κ} {a : α} {l : List (κ × α)} (h : lookupIn k l = some a) :
    putIn k a l = l := by
  induction l with
  | nil => cases h
  | cons e l ih =>
    obtain ⟨k', b⟩ := e
    simp only [lookupIn] at h
    split at h
    · next hk => simp [putIn, hk, Option.some.inj h]
    · next hk => simp [putIn, hk, ih h]

/-- Writing what is there changes nothing. -/
theorem set_of_get? {m : OrderedMap κ α} {k : κ} {a : α} (h : m.get? k = some a) : m.set k a = m := by
  cases m
  simp only [set, mk.injEq]
  exact putIn_of_lookupIn h

omit [DecidableEq κ] in
/-- The keys enumerate the domain without repetition. -/
theorem nodup_keys (m : OrderedMap κ α) : m.keys.Nodup := m.nodup

omit [DecidableEq κ] in
theorem size_eq_length_keys (m : OrderedMap κ α) : m.size = m.keys.length := by
  simp [size, keys]

/-- Insertion of the pairs one after another. -/
def insertAll (m : OrderedMap κ α) : List (κ × α) → OrderedMap κ α
  | [] => m
  | (k, a) :: rest => insertAll (m.set k a) rest

def ofEntries (l : List (κ × α)) : OrderedMap κ α := insertAll ∅ l

theorem mem_entries_set {m : OrderedMap κ α} {k : κ} {a : α} {e : κ × α} (h : e ∈ (m.set k a).entries) :
    e = (k, a) ∨ e ∈ m.entries := by
  obtain ⟨k', b⟩ := e
  have hget := get?_eq_some.mpr h
  rw [get?_set] at hget
  split at hget
  · next heq => exact .inl (by rw [← Option.some.inj hget, heq])
  · exact .inr (get?_eq_some.mp hget)

theorem mem_entries_insertAll {m : OrderedMap κ α} {l : List (κ × α)} {e : κ × α}
    (h : e ∈ (m.insertAll l).entries) : e ∈ m.entries ∨ e ∈ l := by
  induction l generalizing m with
  | nil => exact .inl h
  | cons e' l ih =>
    obtain ⟨k, a⟩ := e'
    rcases ih h with hset | hrest
    · rcases mem_entries_set hset with rfl | hm
      · exact .inr List.mem_cons_self
      · exact .inl hm
    · exact .inr (List.mem_cons_of_mem _ hrest)

theorem entries_insertAll {m : OrderedMap κ α} {l : List (κ × α)}
    (hn : ((m.entries ++ l).map Prod.fst).Nodup) : (m.insertAll l).entries = m.entries ++ l := by
  induction l generalizing m with
  | nil => simp [insertAll]
  | cons e l ih =>
    obtain ⟨k, a⟩ := e
    have hk : k ∉ m.entries.map Prod.fst := by
      rw [List.map_append, List.nodup_append] at hn
      intro hmem
      exact hn.2.2 k hmem k (by simp) rfl
    have hset : (m.set k a).entries = m.entries ++ [(k, a)] := putIn_of_not_mem hk
    rw [insertAll, ih (by rw [hset]; simpa using hn), hset]
    simp

@[simp] theorem ofEntries_entries (m : OrderedMap κ α) : ofEntries m.entries = m := by
  have h : (ofEntries m.entries).entries = m.entries :=
    entries_insertAll (m := ∅) (by simpa [EmptyCollection.emptyCollection] using m.nodup)
  cases hm : ofEntries m.entries with
  | mk entries nodup =>
    rw [hm] at h
    cases m
    cases h
    rfl

end OrderedMap
