import Mathlib.Control.Monad.Basic

universe u

/-- A computation that reads random bytes off a tape, and may throw. -/
def Draw (ε α : Type) := List UInt8 → Except ε (α × List UInt8)

namespace Draw

variable {ε α β : Type} {x : Draw ε α} {f : α → Draw ε β} {P P' : α → Prop} {Q : β → Prop} {ran : ε}

protected def pure (a : α) : Draw ε α := fun tape => .ok (a, tape)

protected def bind (x : Draw ε α) (f : α → Draw ε β) : Draw ε β := fun tape =>
  match x tape with
  | .ok (a, rest) => f a rest
  | .error e => .error e

instance : Monad (Draw ε) where
  pure := Draw.pure
  bind := Draw.bind

protected def throw (e : ε) : Draw ε α := fun _ => .error e

/-- A computation that reads nothing. -/
def lift (x : Except ε α) : Draw ε α := fun tape => x.map (fun a => (a, tape))

@[simp] theorem pure_apply (a : α) (tape : List UInt8) : (pure a : Draw ε α) tape = .ok (a, tape) := rfl

theorem bind_apply (tape : List UInt8) : (x >>= f) tape =
    match x tape with
    | .ok (a, rest) => f a rest
    | .error e => .error e := rfl

/-- Whatever is on the tape, the computation returns a value in `P`, unless the tape runs out. -/
def Yields (ran : ε) (x : Draw ε α) (P : α → Prop) : Prop :=
  ∀ tape, x tape = .error ran ∨ ∃ a rest, x tape = .ok (a, rest) ∧ P a

/-- A computation that has returned does not look at the rest of the tape. -/
def Local (x : Draw ε α) : Prop :=
  ∀ tape a rest, x tape = .ok (a, rest) → ∀ more, x (tape ++ more) = .ok (a, rest ++ more)

/-- Every tape can be continued until the computation returns. -/
def Returns (x : Draw ε α) (P : α → Prop) : Prop :=
  ∀ tape, ∃ more a rest, x (tape ++ more) = .ok (a, rest) ∧ P a

/-- The computation returns a value in `P` on every tape that goes on long enough. -/
structure Total (ran : ε) (x : Draw ε α) (P : α → Prop) : Prop where
  yields : Yields ran x P
  localized : Local x
  returns : Returns x P

theorem Total.mono (h : Total ran x P) (hP : ∀ a, P a → P' a) : Total ran x P' where
  yields tape := (h.yields tape).imp_right fun ⟨a, rest, hx, ha⟩ => ⟨a, rest, hx, hP a ha⟩
  localized := h.localized
  returns tape := by
    obtain ⟨more, a, rest, hx, ha⟩ := h.returns tape
    exact ⟨more, a, rest, hx, hP a ha⟩

theorem Total.pure {a : α} (ha : P a) : Total ran (pure a) P where
  yields tape := .inr ⟨a, tape, rfl, ha⟩
  localized tape b rest h more := by
    cases h
    rfl
  returns tape := ⟨[], a, tape ++ [], rfl, ha⟩

/-- The rule of sequencing. -/
theorem Total.bind (h : Total ran x P) (hf : ∀ a, P a → Total ran (f a) Q) : Total ran (x >>= f) Q where
  yields tape := by
    rcases h.yields tape with hran | ⟨a, rest, hx, ha⟩
    · left
      rw [bind_apply, hran]
    · rw [bind_apply, hx]
      exact (hf a ha).yields rest
  localized tape b rest hb more := by
    rw [bind_apply] at hb ⊢
    rcases h.yields tape with hran | ⟨a, rest', hx, ha⟩
    · rw [hran] at hb
      cases hb
    · rw [hx] at hb
      rw [h.localized tape a rest' hx more]
      exact (hf a ha).localized rest' b rest hb more
  returns tape := by
    obtain ⟨more, a, rest, hx, ha⟩ := h.returns tape
    obtain ⟨more', b, rest', hb, hQ⟩ := (hf a ha).returns rest
    refine ⟨more ++ more', b, rest', ?_, hQ⟩
    rw [← List.append_assoc, bind_apply, h.localized _ a rest hx more']
    exact hb

theorem Total.lift {y : Except ε α} {a : α} (hy : y = .ok a) (ha : P a) : Total ran (lift y) P := by
  subst hy
  exact .pure ha

end Draw
