import Mathlib.Data.List.Induction
import Mathlib.Tactic.Common

universe u v

/-- Entries of a log, and what they do to a state that admits them. -/
structure Replay (σ : Type u) (α : Type v) where
  Admits : σ → α → Prop
  apply : σ → α → σ

namespace Replay

variable {σ : Type u} {α : Type v} (R : Replay σ α) {s : σ} {log log' : List α} {a : α}

/-- The state behind a log. -/
def run (s : σ) (log : List α) : σ := log.foldl R.apply s

/-- Every entry is admitted by the state behind the ones before it. -/
def Admitted : σ → List α → Prop
  | _, [] => True
  | s, a :: rest => R.Admits s a ∧ Admitted (R.apply s a) rest

@[simp] theorem run_nil : R.run s [] = s := rfl

theorem run_append : R.run s (log ++ log') = R.run (R.run s log) log' := List.foldl_append

@[simp] theorem run_snoc : R.run s (log ++ [a]) = R.apply (R.run s log) a := R.run_append

theorem admitted_append : R.Admitted s (log ++ log') ↔ R.Admitted s log ∧ R.Admitted (R.run s log) log' := by
  induction log generalizing s with
  | nil => simp [Admitted]
  | cons a log ih => simp only [List.cons_append, Admitted, ih, run, List.foldl_cons, and_assoc]

theorem admitted_snoc : R.Admitted s (log ++ [a]) ↔ R.Admitted s log ∧ R.Admits (R.run s log) a := by
  simp [admitted_append, Admitted]

end Replay
