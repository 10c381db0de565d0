import Mathlib.Tactic.Common

namespace TskProtocol

universe u

/-- Statements one after another.  One that throws ends them, and leaves behind what the others have
written. -/
abbrev Statements (σ ε α : Type u) : Type u := ExceptT ε (StateM σ) α

namespace Statements

variable {σ ε α β : Type u}

/-- The outcome, and the state that is left behind. -/
def exec (body : Statements σ ε α) (s : σ) : Except ε α × σ := body.run.run s

/-- A check that writes nothing. -/
def check (x : Except ε α) : Statements σ ε α := ExceptT.mk (pure x)

/-- Statements on a part of the state. -/
def zoom {τ : Type u} (get : σ → τ) (put : τ → σ → σ) (body : Statements τ ε α) : Statements σ ε α :=
  ExceptT.mk fun s =>
    let (outcome, t) := body.exec (get s)
    (outcome, put t s)

/-- `BEGIN`, the statements, and `COMMIT`; or `ROLLBACK`. -/
def transaction (body : Statements σ ε α) (s : σ) : Except ε α × σ :=
  match body.exec s with
  | (.ok a, s') => (.ok a, s')
  | (.error e, _) => (.error e, s)

theorem exec_bind (body : Statements σ ε α) (f : α → Statements σ ε β) (s : σ) :
    (body >>= f).exec s = match body.exec s with
      | (.ok a, s') => (f a).exec s'
      | (.error e, s') => (.error e, s') := by
  change (StateT.run (ExceptT.run body >>= ExceptT.bindCont f) s : Id _) = _
  rw [StateT.run_bind]
  change (StateT.run (ExceptT.bindCont f (body.exec s).1) (body.exec s).2 : Id _) = _
  rcases body.exec s with ⟨_ | _, s'⟩ <;> rfl

@[simp] theorem exec_pure (a : α) (s : σ) : exec (ε := ε) (pure a) s = (.ok a, s) := rfl

@[simp] theorem exec_throw (e : ε) (s : σ) : exec (α := α) (throw e) s = (.error e, s) := rfl

@[simp] theorem exec_check (x : Except ε α) (s : σ) : (check x).exec s = (x, s) := rfl

@[simp] theorem exec_get (s : σ) : exec (ε := ε) get s = (.ok s, s) := rfl

@[simp] theorem exec_set (s t : σ) : exec (ε := ε) (set t) s = (.ok ⟨⟩, t) := rfl

theorem exec_bind_eq_ok {body : Statements σ ε α} {f : α → Statements σ ε β} {s s' : σ} {b : β} :
    (body >>= f).exec s = (.ok b, s') ↔
      ∃ a t, body.exec s = (.ok a, t) ∧ (f a).exec t = (.ok b, s') := by
  rw [exec_bind]
  constructor
  · intro h
    rcases hbody : body.exec s with ⟨e | a, t⟩
    · rw [hbody] at h
      cases h
    · rw [hbody] at h
      exact ⟨a, t, rfl, h⟩
  · rintro ⟨a, t, hbody, hf⟩
    rw [hbody]
    exact hf

theorem exec_check_bind_eq_ok {x : Except ε α} {f : α → Statements σ ε β} {s s' : σ} {b : β} :
    (check x >>= f).exec s = (.ok b, s') ↔ ∃ a, x = .ok a ∧ (f a).exec s = (.ok b, s') := by
  simp [exec_bind_eq_ok]

theorem exec_zoom_eq_ok {τ : Type u} {get : σ → τ} {put : τ → σ → σ} {body : Statements τ ε α}
    {s s' : σ} {a : α} : (zoom get put body).exec s = (.ok a, s') ↔
      ∃ t, body.exec (get s) = (.ok a, t) ∧ put t s = s' := by
  change ((body.exec (get s)).1, put (body.exec (get s)).2 s) = _ ↔ _
  rw [Prod.mk.injEq]
  constructor
  · rintro ⟨hok, hput⟩
    exact ⟨_, Prod.ext hok rfl, hput⟩
  · rintro ⟨t, ht, rfl⟩
    rw [ht]
    exact ⟨rfl, rfl⟩

/-- A transaction that throws has changed nothing. -/
theorem transaction_error {body : Statements σ ε α} {s s' : σ} {e : ε}
    (h : body.transaction s = (.error e, s')) : s' = s := by
  rw [transaction] at h
  split at h
  · cases h
  · exact (Prod.mk.inj h).2.symm

theorem transaction_eq_ok {body : Statements σ ε α} {s s' : σ} {a : α} :
    body.transaction s = (.ok a, s') ↔ body.exec s = (.ok a, s') := by
  rw [transaction]
  rcases body.exec s with ⟨_ | _, t⟩ <;> simp

end Statements

end TskProtocol
