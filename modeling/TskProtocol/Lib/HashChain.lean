import Mathlib.Data.List.Induction
import Mathlib.Tactic.Common

universe u v w x

inductive ChainBreak (α : Type u) (ε : Type v)
  | nonContiguous (entry : α)
  | brokenLink (entry : α)
  | hashMismatch (entry : α)
  | thrown (error : ε)
  deriving DecidableEq, Repr

/-- Entries that each carry a number, the hash of the one before and their own.  The hash is
recomputed from the entry, which may throw. -/
structure HashChain (α : Type u) (δ : Type v) (ε : Type w) where
  seq : α → Int
  prev : α → δ
  hash : α → δ
  recompute : α → Except ε δ

namespace HashChain

variable {α : Type u} {δ : Type v} {ε : Type w} [DecidableEq δ] {C : HashChain α δ ε}
  {genesis head : δ} {n : Nat} {l k : List α} {a b : α}

def check (C : HashChain α δ ε) (n : Nat) (prev : δ) (a : α) : Except (ChainBreak α ε) δ :=
  if C.seq a ≠ n + 1 then .error (.nonContiguous a)
  else if C.prev a ≠ prev then .error (.brokenLink a)
  else match C.recompute a with
    | .error e => .error (.thrown e)
    | .ok hash => if hash ≠ C.hash a then .error (.hashMismatch a) else .ok (C.hash a)

/-- The entries behind the first `n`, of which the last one has the hash `prev`.  The result is
the head of the chain. -/
def verifyFrom (C : HashChain α δ ε) : Nat → δ → List α → Except (ChainBreak α ε) δ
  | _, prev, [] => .ok prev
  | n, prev, a :: rest =>
    match C.check n prev a with
    | .error fault => .error fault
    | .ok hash => C.verifyFrom (n + 1) hash rest

theorem check_eq_ok : C.check n genesis a = .ok head ↔
    C.seq a = n + 1 ∧ C.prev a = genesis ∧ C.recompute a = .ok head ∧ C.hash a = head := by
  simp only [check]
  split
  · next hseq => simp [hseq]
  next hseq =>
  split
  · next hprev => simp [hprev]
  next hprev =>
  cases hrec : C.recompute a with
  | error e => simp
  | ok hash =>
    simp only [ne_eq, Except.ok.injEq]
    split
    · next hne =>
      refine ⟨fun h => (by cases h), ?_⟩
      rintro ⟨-, -, rfl, hhash⟩
      exact absurd hhash.symm hne
    · next heq =>
      rw [not_not] at heq hseq hprev
      simp [heq, hseq, hprev]

theorem verifyFrom_append (C : HashChain α δ ε) (n : Nat) (prev : δ) (l k : List α) :
    C.verifyFrom n prev (l ++ k) =
      match C.verifyFrom n prev l with
      | .error fault => .error fault
      | .ok hash => C.verifyFrom (n + l.length) hash k := by
  induction l generalizing n prev with
  | nil => rfl
  | cons a l ih =>
    simp only [List.cons_append, verifyFrom]
    cases C.check n prev a with
    | error fault => rfl
    | ok hash =>
      simp only [ih, List.length_cons]
      rw [show n + 1 + l.length = n + (l.length + 1) by omega]

/-- A chain with one more entry is one that the entry was checked against. -/
theorem verifyFrom_snoc : C.verifyFrom n genesis (l ++ [a]) = .ok head ↔
    ∃ prev, C.verifyFrom n genesis l = .ok prev ∧ C.check (n + l.length) prev a = .ok head := by
  rw [verifyFrom_append]
  cases C.verifyFrom n genesis l with
  | error fault => simp
  | ok prev =>
    simp only [verifyFrom, Except.ok.injEq, exists_eq_left']
    cases C.check (n + l.length) prev a <;> simp

end HashChain
