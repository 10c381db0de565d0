import Mathlib.Data.List.Dedup
import TskProtocol.SourceFence.Payload

namespace TskProtocol

section Order

theorem bytesLe_total (a b : List UInt8) : bytesLe a b = true ∨ bytesLe b a = true := by
  induction a generalizing b with
  | nil => exact .inl rfl
  | cons x a ih =>
    cases b with
    | nil => exact .inr rfl
    | cons y b =>
      simp only [bytesLe, Bool.or_eq_true, Bool.and_eq_true, decide_eq_true_eq]
      rcases Nat.lt_trichotomy x.toNat y.toNat with hlt | heq | hgt
      · exact .inl (.inl (UInt8.lt_iff_toNat_lt.mpr hlt))
      · obtain rfl := UInt8.toNat_inj.mp heq
        exact (ih b).imp (fun h => .inr ⟨rfl, h⟩) (fun h => .inr ⟨rfl, h⟩)
      · exact .inr (.inl (UInt8.lt_iff_toNat_lt.mpr hgt))

theorem bytesLe_trans {a b c : List UInt8} (hab : bytesLe a b = true) (hbc : bytesLe b c = true) :
    bytesLe a c = true := by
  induction a generalizing b c with
  | nil => rfl
  | cons x a ih =>
    cases b with
    | nil => cases hab
    | cons y b =>
      cases c with
      | nil => cases hbc
      | cons z c =>
        simp only [bytesLe, Bool.or_eq_true, Bool.and_eq_true, decide_eq_true_eq] at hab hbc ⊢
        rcases hab with hxy | ⟨rfl, hab⟩
        · rcases hbc with hyz | ⟨rfl, -⟩
          · exact .inl (UInt8.lt_trans hxy hyz)
          · exact .inl hxy
        · rcases hbc with hyz | ⟨rfl, hbc⟩
          · exact .inl hyz
          · exact .inr ⟨rfl, ih hab hbc⟩

theorem bytesLe_antisymm {a b : List UInt8} (hab : bytesLe a b = true) (hba : bytesLe b a = true) :
    a = b := by
  induction a generalizing b with
  | nil =>
    cases b with
    | nil => rfl
    | cons y b => cases hba
  | cons x a ih =>
    cases b with
    | nil => cases hab
    | cons y b =>
      simp only [bytesLe, Bool.or_eq_true, Bool.and_eq_true, decide_eq_true_eq] at hab hba
      rcases hab with hxy | ⟨rfl, hab⟩
      · rcases hba with hyx | ⟨rfl, -⟩
        · exact (UInt8.lt_irrefl x (UInt8.lt_trans hxy hyx)).elim
        · exact (UInt8.lt_irrefl _ hxy).elim
      · rcases hba with hyx | ⟨-, hba⟩
        · exact (UInt8.lt_irrefl _ hyx).elim
        · rw [ih hab hba]

/-- The order in which state pairs stand. -/
def pairLe (a b : StatePair) : Prop := bytesLe a.1.utf8 b.1.utf8 = true

instance : DecidableRel pairLe := fun a b => inferInstanceAs (Decidable (bytesLe a.1.utf8 b.1.utf8 = true))

instance : Std.Total pairLe := ⟨fun _ _ => bytesLe_total _ _⟩

instance : IsTrans StatePair pairLe := ⟨fun _ _ _ => bytesLe_trans⟩

theorem pairwise_sortPairs (pairs : List StatePair) : (sortPairs pairs).Pairwise pairLe :=
  List.pairwise_insertionSort pairLe pairs

@[simp] theorem sortPairs_sortPairs (pairs : List StatePair) :
    sortPairs (sortPairs pairs) = sortPairs pairs :=
  (pairwise_sortPairs pairs).insertionSort_eq

@[simp] theorem length_sortPairs (pairs : List StatePair) : (sortPairs pairs).length = pairs.length :=
  List.length_insertionSort _ pairs

/-- Two listings of one state are sorted alike. -/
theorem sortPairs_eq {ps qs : List StatePair} (hps : (ps.map Prod.fst).Nodup) (hqs : (qs.map Prod.fst).Nodup)
    (hmem : ∀ p, p ∈ ps ↔ p ∈ qs) (hwell : ∀ p ∈ ps, p.1.WellFormed) : sortPairs ps = sortPairs qs := by
  have hperm : ps.Perm qs := (List.perm_ext_iff_of_nodup hps.of_map hqs.of_map).mpr hmem
  have hsorted : (sortPairs ps).Perm (sortPairs qs) :=
    ((List.perm_insertionSort _ ps).trans hperm).trans (List.perm_insertionSort _ qs).symm
  refine hsorted.eq_of_pairwise (fun p q hp hq hpq hqp => ?_) (pairwise_sortPairs ps) (pairwise_sortPairs qs)
  have hp : p ∈ ps := mem_sortPairs.mp hp
  have hq : q ∈ ps := (hmem q).mpr (mem_sortPairs.mp hq)
  have hkey : p.1 = q.1 := JsString.utf8_injective (hwell p hp) (hwell q hq) (bytesLe_antisymm hpq hqp)
  exact List.inj_on_of_nodup_map hps hp hq hkey

end Order

/-- The counter of the last row of a tumbler. -/
def latestCounter (entries : List OutboxEntry) (tumblerId : JsString) : Option Int :=
  (entries.reverse.find? (fun entry => entry.1.mutation.tumblerId = tumblerId)).map
    (fun entry => entry.1.mutation.counter)

/-- The latest counter of each tumbler, as the replay collects them. -/
def collected (entries : List OutboxEntry) : OrderedMap JsString Int :=
  entries.foldl (fun state entry => state.set entry.1.mutation.tumblerId entry.1.mutation.counter) ∅

section Latest

variable {entries : List OutboxEntry}

theorem latestCounter_snoc (entry : OutboxEntry) (tumblerId : JsString) :
    latestCounter (entries ++ [entry]) tumblerId =
      if entry.1.mutation.tumblerId = tumblerId then some entry.1.mutation.counter
      else latestCounter entries tumblerId := by
  simp only [latestCounter, List.reverse_append, List.reverse_singleton, List.singleton_append,
    List.find?_cons]
  split <;> simp_all

theorem collected_snoc (entries : List OutboxEntry) (entry : OutboxEntry) :
    collected (entries ++ [entry]) =
      (collected entries).set entry.1.mutation.tumblerId entry.1.mutation.counter := by
  rw [collected, List.foldl_append]
  rfl

theorem get?_collected (entries : List OutboxEntry) (tumblerId : JsString) :
    (collected entries).get? tumblerId = latestCounter entries tumblerId := by
  induction entries using List.reverseRecOn with
  | nil => rfl
  | append_singleton es e ih =>
    rw [latestCounter_snoc, ← ih, collected_snoc, OrderedMap.get?_set]

theorem mem_latestRows {p : StatePair} :
    p ∈ latestRows entries ↔ latestCounter entries p.1 = some p.2 := by
  simp only [latestRows, List.mem_filterMap, List.mem_dedup, List.mem_map, latestCounter,
    Option.map_eq_some_iff]
  constructor
  · rintro ⟨tumblerId, -, entry, hfind, rfl⟩
    exact ⟨entry, hfind, rfl⟩
  · rintro ⟨entry, hfind, hcounter⟩
    have hmem : entry ∈ entries := List.mem_reverse.mp (List.mem_of_find?_eq_some hfind)
    have hid : entry.1.mutation.tumblerId = p.1 := by simpa using List.find?_some hfind
    exact ⟨p.1, ⟨entry, hmem, hid⟩, entry, hfind, Prod.ext rfl hcounter⟩

theorem nodup_latestRows (entries : List OutboxEntry) : ((latestRows entries).map Prod.fst).Nodup := by
  rw [latestRows, List.map_filterMap]
  refine List.Nodup.filterMap (fun t t' key h h' => ?_) (List.nodup_dedup _)
  simp only [Option.mem_def, Option.map_map, Option.map_eq_some_iff, Function.comp_apply] at h h'
  obtain ⟨-, -, rfl⟩ := h
  obtain ⟨-, -, rfl⟩ := h'
  rfl

theorem nodup_collected (entries : List OutboxEntry) :
    ((collected entries).entries.map Prod.fst).Nodup :=
  (collected entries).nodup_keys

/-- The replay and the query find the same state. -/
theorem sortPairs_collected (h : ∀ entry ∈ entries, entry.1.mutation.tumblerId.WellFormed) :
    sortPairs (collected entries).entries = sortPairs (latestRows entries) := by
  have hmem (p : StatePair) : p ∈ (collected entries).entries ↔ p ∈ latestRows entries := by
    rw [mem_latestRows, ← get?_collected]
    exact OrderedMap.get?_eq_some.symm
  refine sortPairs_eq (nodup_collected entries) (nodup_latestRows entries) hmem fun p hp => ?_
  obtain ⟨entry, hfind, -⟩ := Option.map_eq_some_iff.mp (mem_latestRows.mp ((hmem p).mp hp))
  have hid : entry.1.mutation.tumblerId = p.1 := by simpa using List.find?_some hfind
  exact hid ▸ h entry (List.mem_reverse.mp (List.mem_of_find?_eq_some hfind))

end Latest

end TskProtocol
