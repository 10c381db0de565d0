import Mathlib.Data.List.Basic
import Mathlib.Data.List.Induction

universe u v

/-- A labelled machine.  The label carries every choice of the environment, so a
state either refuses a label or has exactly one successor. -/
structure Machine (σ : Type u) (ℓ : Type v) where
  step : σ → ℓ → Option σ

namespace Machine

variable {σ : Type u} {ℓ : Type v} {M : Machine σ ℓ} {C D : σ → ℓ → Prop}

/-- Finite runs whose every step is admitted by `C` in the state it is taken from. -/
inductive Runs (M : Machine σ ℓ) (C : σ → ℓ → Prop) : σ → List ℓ → σ → Prop
  | nil (s : σ) : Runs M C s [] s
  | snoc {s t u : σ} {ls : List ℓ} {l : ℓ} :
      Runs M C s ls t → C t l → M.step t l = some u → Runs M C s (ls ++ [l]) u

abbrev Reaches (M : Machine σ ℓ) : σ → List ℓ → σ → Prop := M.Runs (fun _ _ => True)

theorem Runs.mono {s t : σ} {ls : List ℓ} (h : M.Runs C s ls t)
    (hCD : ∀ s l, C s l → D s l) : M.Runs D s ls t := by
  induction h with
  | nil => exact .nil _
  | snoc _ hC hstep ih => exact .snoc ih (hCD _ _ hC) hstep

theorem Runs.append {s t u : σ} {ls ks : List ℓ} (h : M.Runs C s ls t)
    (k : M.Runs C t ks u) : M.Runs C s (ls ++ ks) u := by
  induction k with
  | nil => simpa using h
  | snoc _ hC hstep ih => rw [← List.append_assoc]; exact .snoc ih hC hstep

theorem Runs.nil_inv {s t : σ} (h : M.Runs C s [] t) : s = t := by
  generalize hl : ([] : List ℓ) = ls at h
  cases h with
  | nil => rfl
  | snoc => simp at hl

theorem Runs.snoc_inv {s u : σ} {ls : List ℓ} {l : ℓ} (h : M.Runs C s (ls ++ [l]) u) :
    ∃ t, M.Runs C s ls t ∧ C t l ∧ M.step t l = some u := by
  generalize hl : ls ++ [l] = ks at h
  cases h with
  | nil => simp at hl
  | snoc hrun hC hstep =>
    obtain ⟨rfl, hlast⟩ := List.append_inj' hl rfl
    obtain rfl := List.singleton_inj.mp hlast
    exact ⟨_, hrun, hC, hstep⟩

theorem Runs.append_inv {s u : σ} {ls ks : List ℓ} (h : M.Runs C s (ls ++ ks) u) :
    ∃ t, M.Runs C s ls t ∧ M.Runs C t ks u := by
  induction ks using List.reverseRecOn generalizing u with
  | nil => exact ⟨u, by simpa using h, .nil u⟩
  | append_singleton ks k ih =>
    rw [← List.append_assoc] at h
    obtain ⟨v, hrun, hC, hstep⟩ := Runs.snoc_inv h
    obtain ⟨t, ht, hrest⟩ := ih hrun
    exact ⟨t, ht, hrest.snoc hC hstep⟩

/-- The invariant rule: what holds at the start and survives one step holds throughout. -/
theorem Runs.invariant {I : σ → Prop} {s t : σ} {ls : List ℓ} (h : M.Runs C s ls t)
    (hstep : ∀ s l t, I s → C s l → M.step s l = some t → I t) (hs : I s) : I t := by
  induction h with
  | nil => exact hs
  | snoc _ hC hl ih => exact hstep _ _ _ ih hC hl

/-- A preorder that every step respects relates the two ends of a run. -/
theorem Runs.relates {I : σ → Prop} {R : σ → σ → Prop} {s t : σ} {ls : List ℓ}
    (h : M.Runs C s ls t) (hrefl : ∀ s, R s s) (htrans : ∀ s t u, R s t → R t u → R s u)
    (hI : ∀ s l t, I s → C s l → M.step s l = some t → I t)
    (hR : ∀ s l t, I s → C s l → M.step s l = some t → R s t) (hs : I s) : R s t := by
  induction h with
  | nil => exact hrefl _
  | snoc hrun hC hl ih =>
    exact htrans _ _ _ ih (hR _ _ _ (hrun.invariant hI hs) hC hl)

/-- Execute a list of labels, checking the admission predicate on the way. -/
def exec (M : Machine σ ℓ) (C : σ → ℓ → Prop) [∀ s l, Decidable (C s l)] :
    σ → List ℓ → Option σ
  | s, [] => some s
  | s, l :: ls => if C s l then (M.step s l).bind (fun t => M.exec C t ls) else none

theorem Runs.cons {s t u : σ} {l : ℓ} {ls : List ℓ} (hC : C s l)
    (hl : M.step s l = some t) (h : M.Runs C t ls u) : M.Runs C s (l :: ls) u :=
  ((Runs.nil (C := C) s).snoc hC hl).append h

theorem Runs.cons_inv {s u : σ} {l : ℓ} {ls : List ℓ} (h : M.Runs C s (l :: ls) u) :
    ∃ t, C s l ∧ M.step s l = some t ∧ M.Runs C t ls u := by
  induction ls using List.reverseRecOn generalizing u with
  | nil =>
    obtain ⟨t, hnil, hC, hstep⟩ := Runs.snoc_inv (show M.Runs C s ([] ++ [l]) u from h)
    obtain rfl := hnil.nil_inv
    exact ⟨u, hC, hstep, .nil u⟩
  | append_singleton ls k ih =>
    obtain ⟨t, hrun, hC, hstep⟩ := Runs.snoc_inv (show M.Runs C s ((l :: ls) ++ [k]) u from h)
    obtain ⟨v, hCv, hv, hrest⟩ := ih hrun
    exact ⟨v, hCv, hv, hrest.snoc hC hstep⟩

theorem Runs.of_exec [∀ s l, Decidable (C s l)] {s t : σ} {ls : List ℓ}
    (h : M.exec C s ls = some t) : M.Runs C s ls t := by
  induction ls generalizing s with
  | nil =>
    obtain rfl : s = t := by simpa [exec] using h
    exact .nil s
  | cons l ls ih =>
    simp only [exec] at h
    split at h
    · next hC =>
      obtain ⟨u, hu, hrest⟩ := Option.bind_eq_some_iff.mp h
      exact .cons hC hu (ih hrest)
    · cases h

/-- A run is found by evaluating what is observed at its end. -/
theorem Runs.of_observed [∀ s l, Decidable (C s l)] {β : Type*} (s : σ) (ls : List ℓ) (f : σ → β)
    {b : β} (h : (M.exec C s ls).map f = some b) : ∃ t, M.Runs C s ls t ∧ f t = b := by
  obtain ⟨t, ht, rfl⟩ := Option.map_eq_some_iff.mp h
  exact ⟨t, .of_exec ht, rfl⟩

end Machine
