import Mathlib.Data.Option.Basic
import Mathlib.Logic.Function.Iterate
import TskProtocol.Lib.Machine

universe u v

/-- A file: the document that its text is, if it is one, and whether it has reached the disk.  The
beginning of a text is no document. -/
structure LockedFile.File (δ : Type u) where
  contents : Option δ
  synced : Bool

namespace LockedFile

/-- Which documents may be read and written, and what a missing file stands for. -/
structure Format (δ : Type u) where
  empty : δ
  valid : δ → Bool

/-- What an operation makes of the document that it is given. -/
inductive Attempt (δ : Type u)
  | throws
  | returns
  | publishes (candidate : δ)

inductive Ending
  | returned | threw | crashed
  deriving DecidableEq

/-- The file operations of a publication: the directory is looked up, and a temporary file is opened,
written, flushed to the disk, closed and renamed. -/
inductive Stage
  | locating | creating | writing | syncing | closing | replacing
  deriving DecidableEq

/-- The file operation that a transaction is about to make. -/
inductive Phase (δ : Type u)
  | opening | identifying | marking | syncingLock | loading
  | publishing (stage : Stage) (candidate : δ)
  | abandoning | discarding
  | releasing (ending : Ending) | checking (ending : Ending) | unlocking (ending : Ending)
  | ended (ending : Ending)

/-- Whether the lock file is the transaction's. -/
def Phase.inside {δ : Type u} : Phase δ → Bool
  | .opening | .ended _ => false
  | _ => true

/-- Whether the file is still to be replaced. -/
def Phase.early {δ : Type u} : Phase δ → Bool
  | .opening | .identifying | .marking | .syncingLock | .loading | .publishing _ _ => true
  | _ => false

def Phase.finished {δ : Type u} : Phase δ → Bool
  | .ended _ => true
  | _ => false

/-- A transaction with its temporary file, the candidate it has published, and what the file was before
and after it. -/
structure Transaction (δ : Type u) where
  operation : δ → Attempt δ
  phase : Phase δ := .opening
  lock : Nat := 0
  temporary : Option (File δ) := none
  published : Option δ := none
  before : Option (File δ) := none
  after : Option (File δ) := none

/-- The file, and the lock file beside it by its inode. -/
structure Disk (δ : Type u) where
  store : Option (File δ)
  lock : Option Nat := none
  nextInode : Nat := 0

/-- How a file operation ends: a file may be reported missing that is there, and the process may be gone
in the middle of it. -/
inductive Outcome
  | ok | missing | failed | crash
  deriving DecidableEq

variable {δ : Type u}

def Format.load (F : Format δ) (store : Option (File δ)) : Outcome → Option δ
  | .missing => some F.empty
  | .ok =>
    match store with
    | none => some F.empty
    | some file => file.contents.filter F.valid
  | _ => none

namespace Transaction

/-- The lock was not this transaction's where it never got it. -/
def finish (t : Transaction δ) (disk : Disk δ) (ending : Ending) : Transaction δ :=
  { t with
    phase := .ended ending
    before := if t.phase.inside then t.before else disk.store
    after := disk.store }

def goto (t : Transaction δ) (phase : Phase δ) : Transaction δ := { t with phase := phase }

/-- What follows the loading: a candidate is validated before anything is written. -/
def operate (F : Format δ) (t : Transaction δ) : Option δ → Phase δ
  | none => .releasing .threw
  | some document =>
    match t.operation document with
    | .throws => .releasing .threw
    | .returns => .releasing .returned
    | .publishes candidate =>
      if F.valid candidate then .publishing .locating candidate else .releasing .threw

/-- The file operations of a publication that succeed. -/
def publish (disk : Disk δ) (t : Transaction δ) (candidate : δ) : Stage → Disk δ × Transaction δ
  | .locating => (disk, t.goto (.publishing .creating candidate))
  | .creating =>
    (disk, { t with phase := .publishing .writing candidate, temporary := some ⟨none, false⟩ })
  | .writing =>
    (disk, { t with phase := .publishing .syncing candidate, temporary := some ⟨some candidate, false⟩ })
  | .syncing => (disk, { t with
      phase := .publishing .closing candidate
      temporary := t.temporary.map fun file => { file with synced := true } })
  | .closing => (disk, t.goto (.publishing .replacing candidate))
  | .replacing => ({ disk with store := t.temporary }, { t with
      phase := .releasing .returned, temporary := none, published := some candidate })

/-- Where one of them fails, the temporary file is closed if it is open, and removed. -/
def cleanup : Stage → Phase δ
  | .locating => .releasing .threw
  | .creating | .replacing => .discarding
  | .writing | .syncing | .closing => .abandoning

def advance (F : Format δ) (disk : Disk δ) (t : Transaction δ) (outcome : Outcome) :
    Disk δ × Transaction δ :=
  if outcome = .crash then (disk, t.finish disk .crashed)
  else match t.phase with
    | .opening =>
      if outcome = .ok ∧ disk.lock = none then
        ({ disk with lock := some disk.nextInode, nextInode := disk.nextInode + 1 },
          { t with phase := .identifying, lock := disk.nextInode, before := disk.store })
      else (disk, t.finish disk .threw)
    | .identifying => if outcome = .ok then (disk, t.goto .marking) else (disk, t.finish disk .threw)
    | .marking => (disk, t.goto (if outcome = .ok then .syncingLock else .releasing .threw))
    | .syncingLock => (disk, t.goto (if outcome = .ok then .loading else .releasing .threw))
    | .loading => (disk, t.goto (t.operate F (F.load disk.store outcome)))
    | .publishing stage candidate =>
      if outcome = .ok then t.publish disk candidate stage else (disk, t.goto (cleanup stage))
    | .abandoning => (disk, t.goto .discarding)
    | .discarding => (disk, { t with
        phase := .releasing .threw
        temporary := if outcome = .ok then none else t.temporary })
    | .releasing ending =>
      if outcome = .ok then (disk, t.goto (.checking ending)) else (disk, t.finish disk .threw)
    | .checking ending =>
      if outcome = .ok ∧ disk.lock = some t.lock then (disk, t.goto (.unlocking ending))
      else (disk, t.finish disk .threw)
    | .unlocking ending =>
      if outcome = .ok then ({ disk with lock := none }, t.finish disk ending)
      else (disk, t.finish disk .threw)
    | .ended _ => (disk, t)

/-- What an operation leaves of a document where nothing fails. -/
def leaves (F : Format δ) (operation : δ → Attempt δ) (document : δ) : δ :=
  match operation document with
  | .publishes candidate => if F.valid candidate then candidate else document
  | .throws | .returns => document

/-- Where nothing fails, a transaction makes fourteen file operations at most. -/
theorem undisturbed {F : Format δ} {operation : δ → Attempt δ} {disk : Disk δ} {document : δ}
    (hstore : disk.store = some ⟨some document, true⟩) (hlock : disk.lock = none)
    (hvalid : F.valid document = true) :
    ∃ disk' t ending, (fun p : Disk δ × Transaction δ => p.2.advance F p.1 .ok)^[14]
        (disk, { operation := operation }) = (disk', t) ∧ t.phase = .ended ending ∧
      disk'.store = some ⟨some (leaves F operation document), true⟩ ∧ disk'.lock = none := by
  have hload : F.load (some ⟨some document, true⟩) .ok = some document :=
    Option.filter_eq_some_iff.mpr ⟨rfl, hvalid⟩
  cases hoperation : operation document with
  | throws =>
    refine ⟨_, _, .threw, rfl, ?_⟩
    simp [advance, goto, finish, operate, hlock, hload, hoperation, leaves, hstore]
  | returns =>
    refine ⟨_, _, .returned, rfl, ?_⟩
    simp [advance, goto, finish, operate, hlock, hload, hoperation, leaves, hstore]
  | publishes candidate =>
    cases hcandidate : F.valid candidate with
    | false =>
      refine ⟨_, _, .threw, rfl, ?_⟩
      simp [advance, goto, finish, operate, hlock, hload, hoperation, hcandidate, leaves,
        hstore]
    | true =>
      refine ⟨_, _, .returned, rfl, ?_⟩
      simp [advance, goto, finish, operate, publish, hlock, hload, hoperation, hcandidate,
        leaves, hstore]

end Transaction

/-- The disk, and every transaction so far. -/
structure World (δ : Type u) where
  disk : Disk δ
  transactions : List (Transaction δ) := []

/-- A call begins, unless it throws before its transaction; a transaction makes its next file operation;
the power fails; or an abandoned lock file is removed by hand. -/
inductive Label (ι : Type v)
  | begin (call : ι)
  | advance (i : Nat) (outcome : Outcome)
  | powerLoss
  | resolve

/-- What the power loss leaves of a file. -/
def File.lose (file : File δ) : File δ := if file.synced then file else ⟨none, true⟩

namespace World

/-- A transaction that was going on when everything stopped. -/
def stopped (disk : Disk δ) (t : Transaction δ) : Transaction δ :=
  if t.phase.finished then t else t.finish disk .crashed

def step {ι : Type v} (F : Format δ) (operation : ι → Option (δ → Attempt δ)) (w : World δ) :
    Label ι → Option (World δ)
  | .begin call =>
    match operation call with
    | none => some w
    | some operation => some { w with transactions := w.transactions ++ [{ operation := operation }] }
  | .advance i outcome => (w.transactions[i]?.filter fun t => !t.phase.finished).map fun t =>
    { disk := (t.advance F w.disk outcome).1
      transactions := w.transactions.set i (t.advance F w.disk outcome).2 }
  | .powerLoss =>
    let disk := { w.disk with store := w.disk.store.map File.lose }
    some { disk := disk, transactions := w.transactions.map (stopped disk) }
  | .resolve =>
    if w.transactions.any (fun t => t.phase.inside) then none
    else some { w with disk := { w.disk with lock := none } }

end World

def machine {ι : Type v} (F : Format δ) (operation : ι → Option (δ → Attempt δ)) :
    Machine (World δ) (Label ι) where
  step := World.step F operation

section Atomicity

variable {ι : Type v} {F : Format δ} {operation : ι → Option (δ → Attempt δ)} {disk disk' : Disk δ}
  {t t' : Transaction δ}

/-- A candidate that is valid, and made from what the file was before the transaction. -/
def Transaction.Offers (F : Format δ) (t : Transaction δ) (candidate : δ) : Prop :=
  F.valid candidate = true ∧ ∃ outcome document, F.load t.before outcome = some document ∧
    t.operation document = .publishes candidate

/-- The file is what it was before the transaction, or the whole document that it has published. -/
def Transaction.Leaves (F : Format δ) (t : Transaction δ) (store : Option (File δ)) : Prop :=
  match t.published with
  | none => store = t.before
  | some candidate => t.Offers F candidate ∧ store = some ⟨some candidate, true⟩

/-- How far a publication has come. -/
structure Transaction.Consistent (F : Format δ) (t : Transaction δ) : Prop where
  unpublished : t.phase.early = true → t.published = none
  offered : ∀ stage candidate, t.phase = .publishing stage candidate → t.Offers F candidate
  written : ∀ candidate, t.phase = .publishing .syncing candidate →
    t.temporary = some ⟨some candidate, false⟩
  synced : ∀ stage candidate, t.phase = .publishing stage candidate → stage = .closing ∨ stage = .replacing →
    t.temporary = some ⟨some candidate, true⟩

/-- A phase that asks for nothing. -/
theorem Transaction.Consistent.of_phase (hunpublished : t.phase.early = true → t.published = none)
    (hpublishing : ∀ stage candidate, t.phase ≠ .publishing stage candidate) : t.Consistent F :=
  ⟨hunpublished, fun _ _ h => absurd h (hpublishing _ _), fun _ h => absurd h (hpublishing _ _),
    fun _ _ h => absurd h (hpublishing _ _)⟩

/-- The transaction goes on with its lock, and has published nothing more. -/
structure Transaction.Continues (F : Format δ) (t t' : Transaction δ) : Prop where
  inside : t.phase.inside = true
  inside' : t'.phase.inside = true
  operation : t'.operation = t.operation
  lock : t'.lock = t.lock
  before : t'.before = t.before
  published : t'.published = t.published
  consistent : t'.Consistent F

/-- All that a file operation can do. -/
inductive Transaction.Effect (F : Format δ) (disk : Disk δ) (t : Transaction δ) : Disk δ → Transaction δ → Prop
  | opens (hphase : t.phase = .opening) (hlock : disk.lock = none) : Effect F disk t
      { disk with lock := some disk.nextInode, nextInode := disk.nextInode + 1 }
      { t with phase := .identifying, lock := disk.nextInode, before := disk.store }
  | continues {t' : Transaction δ} (h : t.Continues F t') : Effect F disk t disk t'
  | renames {candidate : δ} (hphase : t.phase = .publishing .replacing candidate) : Effect F disk t
      { disk with store := t.temporary }
      { t with phase := .releasing .returned, temporary := none, published := some candidate }
  | finishes (ending : Ending) (hphase : t.phase.finished = false) : Effect F disk t disk (t.finish disk ending)
  | unlocks (ending : Ending) (hinside : t.phase.inside = true) :
      Effect F disk t { disk with lock := none } (t.finish disk ending)

namespace Transaction

theorem Effect.goto {phase : Phase δ} (hunpublished : phase.early = true → t.published = none)
    (hinside : t.phase.inside = true) (hinside' : phase.inside = true)
    (hpublishing : ∀ stage candidate, phase = .publishing stage candidate →
      t.Offers F candidate ∧ (stage = .locating ∨ stage = .creating)) :
    Effect F disk t disk (t.goto phase) := by
  refine .continues ⟨hinside, hinside', rfl, rfl, rfl, rfl, hunpublished, ?_, ?_, ?_⟩
  · exact fun stage candidate h => (hpublishing stage candidate h).1
  · intro candidate h
    rcases (hpublishing _ candidate h).2 with h | h <;> cases h
  · rintro stage candidate h hstage
    rcases (hpublishing stage candidate h).2 with rfl | rfl <;> rcases hstage with h | h <;> cases h

theorem operate_inside (t : Transaction δ) (document : Option δ) :
    (t.operate F document).inside = true := by
  unfold operate
  split
  · rfl
  split
  · rfl
  · rfl
  split <;> rfl

/-- Only what the operation makes of a loaded document is published. -/
theorem operate_offers {outcome : Outcome} {stage : Stage} {candidate : δ}
    (h : t.operate F (F.load t.before outcome) = .publishing stage candidate) :
    t.Offers F candidate ∧ (stage = .locating ∨ stage = .creating) := by
  unfold operate at h
  split at h
  · cases h
  next document hload =>
  split at h
  · cases h
  · cases h
  next other hoperation =>
  split at h
  · next hvalid =>
    obtain ⟨rfl, rfl⟩ := Phase.publishing.inj h
    exact ⟨⟨hvalid, outcome, document, hload, hoperation⟩, .inl rfl⟩
  · cases h

theorem publish_effect {candidate : δ} {stage : Stage} (hconsistent : t.Consistent F)
    (hphase : t.phase = .publishing stage candidate) :
    Effect F disk t (t.publish disk candidate stage).1 (t.publish disk candidate stage).2 := by
  have hoffered := hconsistent.offered stage candidate hphase
  have hinside : t.phase.inside = true := by
    rw [hphase]
    rfl
  have hunpublished : t.published = none := hconsistent.unpublished (by rw [hphase]; rfl)
  cases stage with
  | locating =>
    apply Effect.goto (fun _ => hunpublished) hinside rfl
    intro stage other h
    obtain ⟨rfl, rfl⟩ := Phase.publishing.inj h
    exact ⟨hoffered, .inr rfl⟩
  | creating =>
    refine .continues ⟨hinside, rfl, rfl, rfl, rfl, rfl, fun _ => hunpublished, ?_, fun _ h => (by cases h), ?_⟩
    · intro stage other h
      obtain ⟨rfl, rfl⟩ := Phase.publishing.inj h
      exact hoffered
    · rintro stage other h hstage
      obtain ⟨rfl, rfl⟩ := Phase.publishing.inj h
      rcases hstage with h | h <;> cases h
  | writing =>
    refine .continues ⟨hinside, rfl, rfl, rfl, rfl, rfl, fun _ => hunpublished, ?_, ?_, ?_⟩
    · intro stage other h
      obtain ⟨rfl, rfl⟩ := Phase.publishing.inj h
      exact hoffered
    · intro other h
      obtain ⟨-, rfl⟩ := Phase.publishing.inj h
      rfl
    · rintro stage other h hstage
      obtain ⟨rfl, rfl⟩ := Phase.publishing.inj h
      rcases hstage with h | h <;> cases h
  | syncing =>
    refine .continues ⟨hinside, rfl, rfl, rfl, rfl, rfl, fun _ => hunpublished, ?_, fun _ h => (by cases h), ?_⟩
    · intro stage other h
      obtain ⟨rfl, rfl⟩ := Phase.publishing.inj h
      exact hoffered
    · intro stage other h _
      obtain ⟨rfl, rfl⟩ := Phase.publishing.inj h
      simp only [publish, hconsistent.written _ hphase, Option.map_some]
  | closing =>
    have hsynced := hconsistent.synced _ _ hphase (.inl rfl)
    refine .continues ⟨hinside, rfl, rfl, rfl, rfl, rfl, fun _ => hunpublished, ?_, fun _ h => (by cases h), ?_⟩
    · intro stage other h
      obtain ⟨rfl, rfl⟩ := Phase.publishing.inj h
      exact hoffered
    · intro stage other h _
      obtain ⟨rfl, rfl⟩ := Phase.publishing.inj h
      exact hsynced
  | replacing => exact .renames hphase

theorem advance_effect (hconsistent : t.Consistent F) (hover : t.phase.finished = false)
    (hleaves : t.phase.inside = true → t.Leaves F disk.store) (outcome : Outcome) :
    Effect F disk t (t.advance F disk outcome).1 (t.advance F disk outcome).2 := by
  have hfinish (ending : Ending) : Effect F disk t disk (t.finish disk ending) := .finishes ending hover
  have hgoto {phase : Phase δ} (hearly : phase.early = true → t.phase.early = true)
      (hinside : t.phase.inside = true) (hinside' : phase.inside = true)
      (hpublishing : ∀ stage candidate, phase ≠ .publishing stage candidate) :
      Effect F disk t disk (t.goto phase) :=
    .goto (fun h => hconsistent.unpublished (hearly h)) hinside hinside' fun _ _ h => absurd h (hpublishing _ _)
  unfold advance
  split
  · exact hfinish _
  cases hphase : t.phase with
  | opening =>
    simp only
    split
    · next h => exact .opens hphase h.2
    · exact hfinish _
  | identifying =>
    simp only
    split
    · exact hgoto (fun _ => by rw [hphase]; rfl) (by rw [hphase]; rfl) rfl nofun
    · exact hfinish _
  | marking =>
    simp only
    split
    · exact hgoto (fun _ => by rw [hphase]; rfl) (by rw [hphase]; rfl) rfl nofun
    · exact hgoto nofun (by rw [hphase]; rfl) rfl nofun
  | syncingLock =>
    simp only
    split
    · exact hgoto (fun _ => by rw [hphase]; rfl) (by rw [hphase]; rfl) rfl nofun
    · exact hgoto nofun (by rw [hphase]; rfl) rfl nofun
  | loading =>
    have hunpublished := hconsistent.unpublished (by rw [hphase]; rfl)
    have hleaves := hleaves (by rw [hphase]; rfl)
    have hbefore : disk.store = t.before := by simpa only [Leaves, hunpublished] using hleaves
    refine .goto (fun _ => hunpublished) (by rw [hphase]; rfl) (operate_inside t _) fun stage candidate h => ?_
    rw [hbefore] at h
    exact operate_offers h
  | publishing stage candidate =>
    simp only
    split
    · exact publish_effect hconsistent hphase
    · cases stage <;> exact hgoto nofun (by rw [hphase]; rfl) rfl nofun
  | abandoning => exact hgoto nofun (by rw [hphase]; rfl) rfl nofun
  | discarding =>
    refine .continues ⟨by rw [hphase]; rfl, rfl, rfl, rfl, rfl, rfl, ?_⟩
    exact .of_phase nofun nofun
  | releasing ending =>
    simp only
    split
    · exact hgoto nofun (by rw [hphase]; rfl) rfl nofun
    · exact hfinish _
  | checking ending =>
    simp only
    split
    · exact hgoto nofun (by rw [hphase]; rfl) rfl nofun
    · exact hfinish _
  | unlocking ending =>
    simp only
    split
    · exact .unlocks _ (by rw [hphase]; rfl)
    · exact hfinish _
  | ended ending =>
    rw [hphase] at hover
    cases hover

end Transaction

theorem Transaction.finish_leaves (hconsistent : t.Consistent F) (hover : t.phase.finished = false)
    (hleaves : t.phase.inside = true → t.Leaves F disk.store) (ending : Ending) :
    (t.finish disk ending).Leaves F disk.store := by
  cases hinside : t.phase.inside with
  | true =>
    have hleaves := hleaves hinside
    simpa only [Transaction.Leaves, Transaction.Offers, Transaction.finish, hinside, if_true] using hleaves
  | false =>
    have hopening : t.phase = .opening := by
      generalize t.phase = phase at hinside hover
      cases phase with
      | opening => rfl
      | ended ending => cases hover
      | _ => cases hinside
    simp only [Transaction.Leaves, Transaction.finish, hinside, hconsistent.unpublished (by rw [hopening]; rfl),
      Bool.false_eq_true, if_false]

/-- The lock is with the one transaction inside, and no file operation has left anything but the document
from before or the one published. -/
structure World.Sound (F : Format δ) (w : World δ) : Prop where
  consistent : ∀ t ∈ w.transactions, t.Consistent F
  held : ∀ t ∈ w.transactions, t.phase.inside = true → w.disk.lock = some t.lock
  alone : ∀ (i j : Nat) (t t' : Transaction δ), w.transactions[i]? = some t → w.transactions[j]? = some t' →
    t.phase.inside = true → t'.phase.inside = true → i = j
  inside : ∀ t ∈ w.transactions, t.phase.inside = true → t.Leaves F w.disk.store
  finished : ∀ t ∈ w.transactions, t.phase.finished = true → t.Leaves F t.after
  synced : ∀ file ∈ w.disk.store, file.synced = true

namespace World

variable {w w' : World δ} {i : Nat}

theorem Sound.outside (h : w.Sound F) (hlock : w.disk.lock = none) :
    ∀ t ∈ w.transactions, t.phase.inside = false := by
  intro t hmem
  rw [Bool.eq_false_iff]
  intro hinside
  have hheld := h.held t hmem hinside
  rw [hlock] at hheld
  cases hheld

/-- Where one transaction takes the place of another, the rest is as it was. -/
theorem Sound.replace (h : w.Sound F) (ht : w.transactions[i]? = some t)
    (hconsistent : t'.Consistent F)
    (hothers : ∀ (j : Nat) (other : Transaction δ), w.transactions[j]? = some other → j ≠ i → other.phase.inside = true →
      disk'.lock = w.disk.lock ∧ disk'.store = w.disk.store ∧ t'.phase.inside = false)
    (hheld : t'.phase.inside = true → disk'.lock = some t'.lock)
    (hinside : t'.phase.inside = true → t'.Leaves F disk'.store)
    (hover : t'.phase.finished = true → t'.Leaves F t'.after)
    (hsynced : ∀ file ∈ disk'.store, file.synced = true) :
    Sound F { disk := disk', transactions := w.transactions.set i t' } := by
  have hlength : i < w.transactions.length := (List.getElem?_eq_some_iff.mp ht).1
  have hget (j : Nat) (other : Transaction δ) (hother : (w.transactions.set i t')[j]? = some other) :
      (j = i ∧ other = t') ∨ (j ≠ i ∧ w.transactions[j]? = some other) := by
    by_cases heq : i = j
    · subst heq
      rw [List.getElem?_set_self hlength, Option.some.injEq] at hother
      exact .inl ⟨rfl, hother.symm⟩
    · rw [List.getElem?_set_ne heq] at hother
      exact .inr ⟨Ne.symm heq, hother⟩
  have hall (other : Transaction δ) (hmem : other ∈ w.transactions.set i t') :
      other = t' ∨ ∃ j, j ≠ i ∧ w.transactions[j]? = some other := by
    obtain ⟨j, hj⟩ := List.mem_iff_getElem?.mp hmem
    rcases hget j other hj with ⟨-, rfl⟩ | ⟨hne, hother⟩
    · exact .inl rfl
    · exact .inr ⟨j, hne, hother⟩
  refine ⟨?_, ?_, ?_, ?_, ?_, hsynced⟩
  · intro other hmem
    rcases hall other hmem with rfl | ⟨j, -, hother⟩
    · exact hconsistent
    · exact h.consistent other (List.mem_of_getElem? hother)
  · intro other hmem hotherInside
    rcases hall other hmem with rfl | ⟨j, hne, hother⟩
    · exact hheld hotherInside
    · rw [(hothers j other hother hne hotherInside).1]
      exact h.held other (List.mem_of_getElem? hother) hotherInside
  · intro j k other other' hj hk hotherInside hotherInside'
    rcases hget j other hj with ⟨rfl, rfl⟩ | ⟨hne, hother⟩
    · rcases hget k other' hk with ⟨rfl, -⟩ | ⟨hne', hother'⟩
      · rfl
      · rw [(hothers k other' hother' hne' hotherInside').2.2] at hotherInside
        cases hotherInside
    · rcases hget k other' hk with ⟨rfl, rfl⟩ | ⟨hne', hother'⟩
      · rw [(hothers j other hother hne hotherInside).2.2] at hotherInside'
        cases hotherInside'
      · exact h.alone j k other other' hother hother' hotherInside hotherInside'
  · intro other hmem hotherInside
    rcases hall other hmem with rfl | ⟨j, hne, hother⟩
    · exact hinside hotherInside
    · rw [(hothers j other hother hne hotherInside).2.1]
      exact h.inside other (List.mem_of_getElem? hother) hotherInside
  · intro other hmem hotherOver
    rcases hall other hmem with rfl | ⟨j, -, hother⟩
    · exact hover hotherOver
    · exact h.finished other (List.mem_of_getElem? hother) hotherOver

/-- One file operation of one transaction. -/
theorem Sound.advance (h : w.Sound F) (ht : w.transactions[i]? = some t) (hover : t.phase.finished = false)
    (heffect : t.Effect F w.disk disk' t') :
    Sound F { disk := disk', transactions := w.transactions.set i t' } := by
  have hmem := List.mem_of_getElem? ht
  have hconsistent := h.consistent t hmem
  -- Next to a transaction inside there is no other.
  have halone (hinside : t.phase.inside = true) (j : Nat) (other : Transaction δ)
      (hother : w.transactions[j]? = some other) (hne : j ≠ i) (hotherInside : other.phase.inside = true) :
      False := hne (h.alone j i other t hother ht hotherInside hinside)
  cases heffect with
  | opens hphase hlock =>
    have houtside := h.outside hlock
    refine h.replace ht (.of_phase (fun _ => hconsistent.unpublished (by rw [hphase]; rfl)) nofun) ?_
      (fun _ => rfl) ?_ nofun h.synced
    · intro j other hother _ hotherInside
      rw [houtside other (List.mem_of_getElem? hother)] at hotherInside
      cases hotherInside
    · intro _
      simp only [Transaction.Leaves, hconsistent.unpublished (by rw [hphase]; rfl)]
  | continues hcontinues =>
    have hleaves := h.inside t hmem hcontinues.inside
    have hheld := h.held t hmem hcontinues.inside
    refine h.replace ht hcontinues.consistent ?_ ?_ ?_ ?_ h.synced
    · exact fun j other hother hne hotherInside => (halone hcontinues.inside j other hother hne hotherInside).elim
    · intro _
      rw [hcontinues.lock]
      exact hheld
    · intro _
      simpa only [Transaction.Leaves, Transaction.Offers, hcontinues.published, hcontinues.before,
        hcontinues.operation] using hleaves
    · intro hover'
      have hinside' := hcontinues.inside'
      generalize t'.phase = phase at hover' hinside'
      cases phase with
      | ended ending => cases hinside'
      | _ => cases hover'
  | @renames candidate hphase =>
    have hinside : t.phase.inside = true := by
      rw [hphase]
      rfl
    have hoffered := hconsistent.offered _ _ hphase
    have hsynced := hconsistent.synced _ _ hphase (.inr rfl)
    refine h.replace ht (.of_phase nofun nofun) ?_ (fun _ => h.held t hmem hinside) ?_ nofun ?_
    · exact fun j other hother hne hotherInside => (halone hinside j other hother hne hotherInside).elim
    · exact fun _ => ⟨hoffered, hsynced⟩
    · intro file hfile
      rw [hsynced] at hfile
      obtain rfl := Option.some.inj hfile
      rfl
  | finishes ending hphase =>
    have hleaves := Transaction.finish_leaves hconsistent hover (h.inside t hmem) ending
    exact h.replace ht (.of_phase nofun nofun) (fun _ _ _ _ _ => ⟨rfl, rfl, rfl⟩) nofun nofun
      (fun _ => hleaves) h.synced
  | unlocks ending hinside =>
    have hleaves := Transaction.finish_leaves hconsistent hover (h.inside t hmem) ending
    exact h.replace ht (.of_phase nofun nofun)
      (fun j other hother hne hotherInside => (halone hinside j other hother hne hotherInside).elim) nofun nofun
      (fun _ => hleaves) h.synced

/-- What is on the disk survives a power loss. -/
theorem Sound.lose (h : w.Sound F) : w.disk.store.map File.lose = w.disk.store := by
  have hsynced := h.synced
  cases hstore : w.disk.store with
  | none => rfl
  | some file =>
    rw [Option.map_some, File.lose, if_pos (hsynced file hstore)]

theorem Sound.powerLoss (h : w.Sound F) :
    Sound F { disk := w.disk, transactions := w.transactions.map (stopped w.disk) } := by
  have hall (other : Transaction δ) (hmem : other ∈ w.transactions.map (stopped w.disk)) :
      ∃ t ∈ w.transactions, (t.phase.finished = true ∧ other = t) ∨
        (t.phase.finished = false ∧ other = t.finish w.disk .crashed) := by
    obtain ⟨t, ht, rfl⟩ := List.mem_map.mp hmem
    refine ⟨t, ht, ?_⟩
    rw [stopped]
    cases t.phase.finished with
    | true => exact .inl ⟨rfl, rfl⟩
    | false => exact .inr ⟨rfl, rfl⟩
  have houtside (other : Transaction δ) (hmem : other ∈ w.transactions.map (stopped w.disk)) :
      other.phase.inside = false := by
    obtain ⟨t, -, ⟨hover, rfl⟩ | ⟨-, rfl⟩⟩ := hall other hmem
    · generalize other.phase = phase at hover
      cases phase with
      | ended ending => rfl
      | _ => cases hover
    · rfl
  have hcontra {other : Transaction δ} (hmem : other ∈ w.transactions.map (stopped w.disk))
      (hinside : other.phase.inside = true) : False := by
    rw [houtside other hmem] at hinside
    cases hinside
  refine ⟨?_, fun _ hmem hinside => (hcontra hmem hinside).elim,
    fun _ _ _ _ hj _ hinside _ => (hcontra (List.mem_of_getElem? hj) hinside).elim,
    fun _ hmem hinside => (hcontra hmem hinside).elim, ?_, h.synced⟩
  · intro other hmem
    obtain ⟨t, ht, ⟨-, rfl⟩ | ⟨-, rfl⟩⟩ := hall other hmem
    · exact h.consistent other ht
    · exact .of_phase nofun nofun
  · intro other hmem _
    obtain ⟨t, ht, ⟨hover, rfl⟩ | ⟨hover, rfl⟩⟩ := hall other hmem
    · exact h.finished other ht hover
    · exact Transaction.finish_leaves (h.consistent t ht) hover (h.inside t ht) .crashed

theorem Sound.step {l : Label ι} (h : w.Sound F) (hstep : (machine F operation).step w l = some w') :
    w'.Sound F := by
  cases l with
  | begin call =>
    simp only [machine, World.step] at hstep
    cases hoperation : operation call with
    | none =>
      rw [hoperation] at hstep
      obtain rfl := Option.some.inj hstep
      exact h
    | some attempt =>
      rw [hoperation] at hstep
      obtain rfl := Option.some.inj hstep
      have hall {P : Transaction δ → Prop} (hold : ∀ t ∈ w.transactions, P t)
          (hnew : P { operation := attempt }) : ∀ t ∈ w.transactions ++ [{ operation := attempt }], P t := by
        intro t hmem
        rcases List.mem_append.mp hmem with hmem | hmem
        · exact hold t hmem
        · rw [List.mem_singleton.mp hmem]
          exact hnew
      refine ⟨hall h.consistent ⟨fun _ => rfl, nofun, nofun, nofun⟩, hall h.held nofun, ?_,
        hall h.inside nofun, hall h.finished nofun, h.synced⟩
      intro j k t t' hj hk hinside hinside'
      have hold {j : Nat} {t : Transaction δ} (hj : (w.transactions ++ [{ operation := attempt }])[j]? = some t)
          (hinside : t.phase.inside = true) : w.transactions[j]? = some t := by
        rw [List.getElem?_append] at hj
        split at hj
        · exact hj
        · obtain rfl := List.mem_singleton.mp (List.mem_of_getElem? hj)
          cases hinside
      exact h.alone j k t t' (hold hj hinside) (hold hk hinside') hinside hinside'
  | advance i outcome =>
    simp only [machine, World.step] at hstep
    obtain ⟨t, ht, hstep⟩ := Option.map_eq_some_iff.mp hstep
    obtain ⟨ht, hover⟩ := Option.filter_eq_some_iff.mp ht
    rw [Bool.not_eq_true'] at hover
    rw [← hstep]
    have hmem := List.mem_of_getElem? ht
    exact h.advance ht hover (Transaction.advance_effect (h.consistent t hmem) hover (h.inside t hmem) outcome)
  | powerLoss =>
    obtain rfl := Option.some.inj hstep
    simp only [h.lose]
    exact h.powerLoss
  | resolve =>
    simp only [machine, World.step] at hstep
    split at hstep
    · cases hstep
    next hany =>
    obtain rfl := Option.some.inj hstep
    have houtside (t : Transaction δ) (hmem : t ∈ w.transactions) (hinside : t.phase.inside = true) : False :=
      hany (List.any_eq_true.mpr ⟨t, hmem, hinside⟩)
    exact ⟨h.consistent, fun t hmem hinside => (houtside t hmem hinside).elim, h.alone, h.inside, h.finished, h.synced⟩

/-- The file changes in one step from the whole document of before to the whole one published. -/
theorem Sound.changes {l : Label ι} (h : w.Sound F) (hstep : (machine F operation).step w l = some w') :
    w'.disk.store = w.disk.store ∨ ∃ t ∈ w.transactions, ∃ candidate, t.Offers F candidate ∧
      w.disk.store = t.before ∧ w'.disk.store = some ⟨some candidate, true⟩ := by
  cases l with
  | begin call =>
    simp only [machine, World.step] at hstep
    cases hoperation : operation call with
    | none =>
      rw [hoperation] at hstep
      obtain rfl := Option.some.inj hstep
      exact .inl rfl
    | some attempt =>
      rw [hoperation] at hstep
      obtain rfl := Option.some.inj hstep
      exact .inl rfl
  | advance i outcome =>
    simp only [machine, World.step] at hstep
    obtain ⟨t, ht, hstep⟩ := Option.map_eq_some_iff.mp hstep
    obtain ⟨ht, hover⟩ := Option.filter_eq_some_iff.mp ht
    rw [Bool.not_eq_true'] at hover
    have hmem := List.mem_of_getElem? ht
    have hconsistent := h.consistent t hmem
    rw [← hstep]
    have heffect : t.Effect F w.disk (t.advance F w.disk outcome).1 (t.advance F w.disk outcome).2 :=
      Transaction.advance_effect hconsistent hover (h.inside t hmem) outcome
    generalize t.advance F w.disk outcome = next at heffect
    obtain ⟨disk, t'⟩ := next
    cases heffect with
    | opens => exact .inl rfl
    | continues => exact .inl rfl
    | @renames candidate hphase =>
      have hinside : t.phase.inside = true := by
        rw [hphase]
        rfl
      have hleaves := h.inside t hmem hinside
      refine .inr ⟨t, hmem, candidate, hconsistent.offered _ _ hphase, ?_, hconsistent.synced _ _ hphase (.inr rfl)⟩
      simpa only [Transaction.Leaves, hconsistent.unpublished (by rw [hphase]; rfl)] using hleaves
    | finishes => exact .inl rfl
    | unlocks => exact .inl rfl
  | powerLoss =>
    obtain rfl := Option.some.inj hstep
    exact .inl h.lose
  | resolve =>
    simp only [machine, World.step] at hstep
    split at hstep
    · cases hstep
    · obtain rfl := Option.some.inj hstep
      exact .inl rfl

/-- Whatever fails and whoever crashes: within a transaction and after it, the file is what it was before,
or the document that the transaction has published. -/
theorem sound_of_runs {store : Option (File δ)} {ls : List (Label ι)}
    (hrun : (machine F operation).Reaches { disk := { store := store } } ls w)
    (hsynced : ∀ file ∈ store, file.synced = true) : w.Sound F := by
  apply hrun.invariant
  · intro before l after hsound _ hstep
    exact hsound.step hstep
  · have hnone {P : Transaction δ → Prop} : ∀ t ∈ ([] : List (Transaction δ)), P t := fun _ h => (by cases h)
    exact ⟨hnone, hnone, fun _ _ _ _ h => (by cases h), hnone, hnone, hsynced⟩

end World

end Atomicity

end LockedFile
