import Mathlib.Data.List.Basic
import Mathlib.Data.List.Induction
import Mathlib.Tactic.Common

universe u v w

/-- A record of an append-only history with the links that its writer has added. -/
structure Linked (α : Type u) (δ : Type v) (κ : Type w) where
  body : α
  seq : Nat
  prev : Option δ
  digest : δ
  signature : κ
  deriving DecidableEq, Repr

/-- A record without its signature, as far as `content` shows its body. -/
def Linked.covered {α : Type u} {δ : Type v} {κ : Type w} {β : Type*} (content : α → β) (l : Linked α δ κ) :
    β × Nat × Option δ × δ := (content l.body, l.seq, l.prev, l.digest)

/-- What a reader recomputes of one record. -/
structure ChainReader (α : Type u) (δ : Type v) (κ : Type w) where
  readable : Linked α δ κ → Bool
  digestOf : α → Nat → Option δ → δ
  verifies : Linked α δ κ → Bool

inductive ChainFault
  | unreadable | missingHistory | nonContiguous | brokenLink | digestMismatch | badSignature
  | notLatest
  deriving DecidableEq, Repr

namespace ChainReader

variable {α : Type u} {δ : Type v} {κ : Type w} [DecidableEq δ]

def verifyRecord (C : ChainReader α δ κ) (l : Linked α δ κ) : Except ChainFault Unit :=
  if C.digestOf l.body l.seq l.prev ≠ l.digest then .error .digestMismatch
  else if C.verifies l = false then .error .badSignature
  else .ok ()

/-- The loop over a history; `n` and `prev` are what the next record has to carry. -/
def verifyFrom (C : ChainReader α δ κ) : Nat → Option δ → List (Linked α δ κ) →
    Except ChainFault Unit
  | _, _, [] => .ok ()
  | n, prev, l :: ls =>
    if l.seq ≠ n then .error .nonContiguous
    else if l.prev ≠ prev then .error .brokenLink
    else match C.verifyRecord l with
      | .error fault => .error fault
      | .ok () => C.verifyFrom (n + 1) (some l.digest) ls

/-- The history from its first record on, and the head as its last one. -/
def verify (C : ChainReader α δ κ) (history : List (Linked α δ κ)) (head : Linked α δ κ) :
    Except ChainFault Unit :=
  if (head :: history).all C.readable = false then .error .unreadable
  else match history.getLast? with
    | none => .error .missingHistory
    | some last =>
      match C.verifyFrom 1 none history with
      | .error fault => .error fault
      | .ok () =>
        if head.seq ≠ last.seq ∨ head.digest ≠ last.digest then .error .notLatest
        else C.verifyRecord head

/-- A record that passes on its own. -/
structure Valid (C : ChainReader α δ κ) (l : Linked α δ κ) : Prop where
  readable : C.readable l = true
  digest : C.digestOf l.body l.seq l.prev = l.digest
  verifies : C.verifies l = true

omit [DecidableEq δ] in
/-- The links of a history whose next record has the number `n`. -/
inductive Chained : Nat → Option δ → List (Linked α δ κ) → Prop
  | nil : Chained 1 none []
  | snoc {n : Nat} {prev : Option δ} {ls : List (Linked α δ κ)} {l : Linked α δ κ} :
      Chained n prev ls → l.seq = n → l.prev = prev → Chained (n + 1) (some l.digest) (ls ++ [l])

theorem verifyRecord_eq_ok {C : ChainReader α δ κ} {l : Linked α δ κ} :
    C.verifyRecord l = .ok () ↔ C.digestOf l.body l.seq l.prev = l.digest ∧ C.verifies l = true := by
  simp only [verifyRecord]
  split_ifs <;> simp_all

theorem Valid.verifyRecord {C : ChainReader α δ κ} {l : Linked α δ κ} (h : C.Valid l) :
    C.verifyRecord l = .ok () :=
  verifyRecord_eq_ok.mpr ⟨h.digest, h.verifies⟩

theorem verifyFrom_append {C : ChainReader α δ κ} {ls ks : List (Linked α δ κ)} {n : Nat}
    {prev : Option δ} (h : C.verifyFrom n prev ls = .ok ()) :
    C.verifyFrom n prev (ls ++ ks) =
      C.verifyFrom (n + ls.length) ((ls.getLast?.map (·.digest)).or prev) ks := by
  induction ls generalizing n prev with
  | nil => simp
  | cons l ls ih =>
    simp only [verifyFrom, List.cons_append] at h ⊢
    split_ifs at h with hseq hprev
    split at h
    · cases h
    · next hl =>
      have hlen : n + 1 + ls.length = n + (l :: ls).length := by
        rw [List.length_cons]
        omega
      have hlast : (ls.getLast?.map (·.digest)).or (some l.digest) =
          ((l :: ls).getLast?.map (·.digest)).or prev := by
        rw [List.getLast?_cons]
        cases ls.getLast? <;> rfl
      rw [ih h, hlen, hlast, if_neg hseq, if_neg hprev]

omit [DecidableEq δ] in
theorem Chained.next {n : Nat} {prev : Option δ} {ls : List (Linked α δ κ)}
    (h : Chained n prev ls) : n = ls.length + 1 ∧ prev = ls.getLast?.map (·.digest) := by
  induction h with
  | nil => simp
  | snoc _ _ _ ih => simp [ih.1]

omit [DecidableEq δ] in
theorem Chained.seq {n : Nat} {prev : Option δ} {ls : List (Linked α δ κ)}
    (h : Chained n prev ls) : (ls.getLast?.map (·.seq)).getD 0 + 1 = n := by
  cases h with
  | nil => rfl
  | snoc _ hseq _ => simp [hseq]

/-- What the writer links together is what the reader accepts. -/
theorem Chained.verifyFrom {C : ChainReader α δ κ} {n : Nat} {prev : Option δ}
    {ls : List (Linked α δ κ)} (h : Chained n prev ls) (hvalid : ∀ l ∈ ls, C.Valid l) :
    C.verifyFrom 1 none ls = .ok () := by
  induction h with
  | nil => rfl
  | @snoc n prev ls l hls hseq hprev ih =>
    have hrest := ih (fun k hk => hvalid k (List.mem_append_left _ hk))
    have hl : C.Valid l := hvalid l (by simp)
    rw [verifyFrom_append hrest]
    obtain ⟨rfl, rfl⟩ := hls.next
    have hn : 1 + ls.length = l.seq := by omega
    simp [ChainReader.verifyFrom, hn, hprev, hl.verifyRecord]

theorem verifyFrom_of_append {C : ChainReader α δ κ} {ls ks : List (Linked α δ κ)} {n : Nat} {prev : Option δ}
    (h : C.verifyFrom n prev (ls ++ ks) = .ok ()) : C.verifyFrom n prev ls = .ok () := by
  induction ls generalizing n prev with
  | nil => rfl
  | cons l ls ih =>
    simp only [List.cons_append, ChainReader.verifyFrom] at h ⊢
    split_ifs at h with hseq hprev
    rw [if_neg hseq, if_neg hprev]
    split at h
    · cases h
    · next hl => exact ih h

/-- What the reader accepts from the first record on is linked together, and each record passes. -/
theorem chained_of_verifyFrom {C : ChainReader α δ κ} {ls : List (Linked α δ κ)}
    (h : C.verifyFrom 1 none ls = .ok ()) :
    Chained (ls.length + 1) (ls.getLast?.map (·.digest)) ls ∧ ∀ l ∈ ls, C.verifyRecord l = .ok () := by
  induction ls using List.reverseRecOn with
  | nil => exact ⟨.nil, by simp⟩
  | append_singleton ls l ih =>
    have hfront := verifyFrom_of_append h
    obtain ⟨hchain, hrecords⟩ := ih hfront
    rw [verifyFrom_append hfront] at h
    simp only [ChainReader.verifyFrom] at h
    split_ifs at h with hseq hprev
    split at h
    · cases h
    next hl =>
    have hlast : (ls ++ [l]).getLast?.map (·.digest) = some l.digest := by
      rw [List.getLast?_concat, Option.map_some]
    rw [hlast, List.length_append, List.length_singleton]
    refine ⟨hchain.snoc (by omega) ?_, fun k hk => ?_⟩
    · rw [not_not.mp hprev, Option.or_none]
    · rcases List.mem_append.mp hk with hk | hk
      · exact hrecords k hk
      · rw [List.mem_singleton.mp hk]
        exact hl

/-- The loop of a reader that looks at each record before its links. -/
def verifyRows (C : ChainReader α δ κ) : Nat → Option δ → List (Linked α δ κ) → Except ChainFault Unit
  | _, _, [] => .ok ()
  | n, prev, l :: ls =>
    if C.readable l = false then .error .unreadable
    else match C.verifyRecord l with
      | .error fault => .error fault
      | .ok () =>
        if l.seq ≠ n then .error .nonContiguous
        else if l.prev ≠ prev then .error .brokenLink
        else C.verifyRows (n + 1) (some l.digest) ls

/-- A head on its own. -/
def verifyHead (C : ChainReader α δ κ) (head : Linked α δ κ) : Except ChainFault Unit :=
  if C.readable head = false then .error .unreadable else C.verifyRecord head

/-- A history next to a head that has been verified on its own; only without a head may it be empty. -/
def verifyHistory (C : ChainReader α δ κ) (history : List (Linked α δ κ)) (head : Option (Linked α δ κ)) :
    Except ChainFault Unit :=
  match history.getLast? with
  | none => if head.isSome then .error .missingHistory else .ok ()
  | some last =>
    match C.verifyRows 1 none history with
    | .error fault => .error fault
    | .ok () =>
      match head with
      | none => .error .notLatest
      | some head => if head.seq ≠ last.seq ∨ head.digest ≠ last.digest then .error .notLatest else .ok ()

theorem verifyHead_eq_ok {C : ChainReader α δ κ} {head : Linked α δ κ} :
    C.verifyHead head = .ok () ↔ C.readable head = true ∧ C.verifyRecord head = .ok () := by
  simp only [verifyHead]
  split_ifs with h <;> simp [h]

/-- The order of the checks does not matter to what passes them all. -/
theorem verifyRows_eq_ok {C : ChainReader α δ κ} {n : Nat} {prev : Option δ} {ls : List (Linked α δ κ)} :
    C.verifyRows n prev ls = .ok () ↔ (∀ l ∈ ls, C.readable l = true) ∧ C.verifyFrom n prev ls = .ok () := by
  induction ls generalizing n prev with
  | nil => simp [verifyRows, ChainReader.verifyFrom]
  | cons l ls ih =>
    simp only [verifyRows, ChainReader.verifyFrom, List.forall_mem_cons]
    by_cases hreadable : C.readable l = true
    case neg => simp [hreadable]
    case pos =>
      cases hrecord : C.verifyRecord l with
      | error fault => split_ifs <;> simp_all
      | ok u =>
        by_cases hseq : l.seq = n
        case neg => simp [hreadable, hseq]
        case pos =>
          by_cases hprev : l.prev = prev
          · simp [hreadable, hseq, hprev, ih]
          · simp [hreadable, hseq, hprev]

theorem verify_eq_ok {C : ChainReader α δ κ} {history : List (Linked α δ κ)} {head : Linked α δ κ} :
    C.verify history head = .ok () ↔
      C.verifyHead head = .ok () ∧ C.verifyHistory history (some head) = .ok () := by
  simp only [verify, verifyHistory]
  cases history.getLast? with
  | none => split_ifs <;> simp_all
  | some last =>
    cases hrows : C.verifyRows 1 none history with
    | ok u =>
      obtain ⟨hreadable, hfrom⟩ := verifyRows_eq_ok.mp hrows
      have hall : history.all C.readable = true := List.all_eq_true.mpr hreadable
      simp only [hfrom, List.all_cons, hall, Bool.and_true, verifyHead]
      split_ifs <;> simp
    | error fault =>
      simp only [reduceCtorEq, and_false, iff_false]
      intro h
      split at h
      · cases h
      next hall =>
      simp only [List.all_cons, Bool.not_eq_false, Bool.and_eq_true, List.all_eq_true] at hall
      split at h
      · cases h
      · next hfrom => simp [verifyRows_eq_ok.mpr ⟨hall.2, hfrom⟩] at hrows

theorem verifyHistory_none {C : ChainReader α δ κ} {history : List (Linked α δ κ)} :
    C.verifyHistory history none = .ok () ↔ history = [] := by
  simp only [verifyHistory]
  constructor
  · intro h
    split at h
    · next hlast => exact List.getLast?_eq_none_iff.mp hlast
    · split at h <;> cases h
  · rintro rfl
    rfl

/-- What the reader accepts behind a head. -/
structure Accepted (C : ChainReader α δ κ) (history : List (Linked α δ κ)) (head : Linked α δ κ) : Prop where
  chained : Chained (history.length + 1) (some head.digest) history
  seq : history.getLast?.map (·.seq) = some head.seq
  readable : ∀ l ∈ head :: history, C.readable l = true
  verified : ∀ l ∈ head :: history, C.verifyRecord l = .ok ()

theorem accepted_of_verify {C : ChainReader α δ κ} {history : List (Linked α δ κ)} {head : Linked α δ κ}
    (h : C.verify history head = .ok ()) : C.Accepted history head := by
  obtain ⟨hhead, hhistory⟩ := verify_eq_ok.mp h
  obtain ⟨hreadable, hrecord⟩ := verifyHead_eq_ok.mp hhead
  simp only [verifyHistory] at hhistory
  split at hhistory
  · cases hhistory
  next last hlast =>
  split at hhistory
  · cases hhistory
  next hrows =>
  split_ifs at hhistory with hlatest
  simp only [not_or, not_not] at hlatest
  obtain ⟨hrows, hfrom⟩ := verifyRows_eq_ok.mp hrows
  obtain ⟨hchain, hrecords⟩ := chained_of_verifyFrom hfrom
  rw [hlast, Option.map_some, ← hlatest.2] at hchain
  refine ⟨hchain, ?_, ?_, ?_⟩
  · rw [hlast, Option.map_some, hlatest.1]
  · exact List.forall_mem_cons.mpr ⟨hreadable, hrows⟩
  · exact List.forall_mem_cons.mpr ⟨hrecord, hrecords⟩

/-- A history with the head that it was verified with. -/
def AcceptedWith (C : ChainReader α δ κ) (history : List (Linked α δ κ)) : Option (Linked α δ κ) → Prop
  | none => history = []
  | some head => C.Accepted history head

theorem acceptedWith_of_verifyHistory {C : ChainReader α δ κ} {history : List (Linked α δ κ)}
    {head : Option (Linked α δ κ)} (hhead : ∀ row ∈ head, C.verifyHead row = .ok ())
    (h : C.verifyHistory history head = .ok ()) : C.AcceptedWith history head := by
  cases head with
  | none => exact verifyHistory_none.mp h
  | some row => exact accepted_of_verify (verify_eq_ok.mpr ⟨hhead row rfl, h⟩)

section Covered

omit [DecidableEq δ]

variable {β : Type*} {content content' : α → β}

/-- The numbers of a history, from its first record on. -/
theorem Chained.map_seq {n : Nat} {prev : Option δ} {ls : List (Linked α δ κ)} (h : Chained n prev ls) :
    ls.map (·.seq) = List.range' 1 ls.length := by
  induction h with
  | nil => rfl
  | snoc hls hseq _ ih =>
    have hn := hls.next.1
    rw [List.map_append, ih, List.map_singleton, List.length_append, List.length_singleton, List.range'_concat, hseq,
      hn, Nat.one_mul, Nat.add_comm]

/-- Where a digest fixes what it covers, the last one fixes the whole history. -/
theorem Chained.covered_eq {n n' : Nat} {prev prev' : Option δ} {ls ls' : List (Linked α δ κ)}
    (h : Chained n prev ls) (h' : Chained n' prev' ls')
    (hinj : ∀ l ∈ ls, ∀ l' ∈ ls', l.digest = l'.digest → l.covered content = l'.covered content')
    (hprev : prev = prev') : ls.map (Linked.covered content) = ls'.map (Linked.covered content') := by
  induction h generalizing n' prev' ls' with
  | nil =>
    cases h' with
    | nil => rfl
    | snoc => cases hprev
  | @snoc n prev ls l hls _ hlink ih =>
    cases h' with
    | nil => cases hprev
    | @snoc n' prev' ls' l' hls' _ hlink' =>
      have hcovered := hinj l (by simp) l' (by simp) (Option.some.inj hprev)
      have hprevs : prev = prev' := by
        rw [← hlink, ← hlink']
        exact (Prod.mk.inj (Prod.mk.inj (Prod.mk.inj hcovered).2).2).1
      have hfront := ih hls' (fun k hk k' hk' => hinj k (List.mem_append_left _ hk) k' (List.mem_append_left _ hk'))
        hprevs
      rw [List.map_append, List.map_append, hfront, List.map_singleton, List.map_singleton, hcovered]

end Covered

namespace Accepted

variable {β : Type*} {content content' : α → β} {C C' : ChainReader α δ κ} {history history' : List (Linked α δ κ)}
  {head head' : Linked α δ κ}

theorem digest (h : C.Accepted history head) {l : Linked α δ κ} (hl : l ∈ head :: history) :
    C.digestOf l.body l.seq l.prev = l.digest :=
  (verifyRecord_eq_ok.mp (h.verified l hl)).1

theorem covered_eq (h : C.Accepted history head) (h' : C'.Accepted history' head')
    (hinj : ∀ l ∈ history, ∀ l' ∈ history', l.digest = l'.digest → l.covered content = l'.covered content')
    (hdigest : head.digest = head'.digest) :
    history.map (Linked.covered content) = history'.map (Linked.covered content') :=
  h.chained.covered_eq h'.chained hinj (congrArg some hdigest)

/-- The head is the last record, as far as the digests cover them. -/
theorem covered_head (h : C.Accepted history head)
    (hinj : ∀ l ∈ history, l.digest = head.digest → l.covered content = head.covered content) :
    (history.map (Linked.covered content)).getLast? = some (head.covered content) := by
  have hlast := h.chained.next.2
  cases hhistory : history.getLast? with
  | none => simp [hhistory] at hlast
  | some last =>
    rw [hhistory, Option.map_some, Option.some.injEq] at hlast
    rw [List.getLast?_map, hhistory, Option.map_some,
      hinj last (List.mem_of_getLast? hhistory) hlast.symm]

end Accepted

/-- Another reader of the same digests takes whatever this one takes. -/
structure Admits (C C' : ChainReader α δ κ) : Prop where
  readable : ∀ l, C.readable l = true → C'.readable l = true
  digestOf : C'.digestOf = C.digestOf
  verifies : ∀ l, C.verifies l = true → C'.verifies l = true

namespace Admits

variable {C C' : ChainReader α δ κ}

theorem verifyRecord (h : C.Admits C') {l : Linked α δ κ} (hl : C.verifyRecord l = .ok ()) : C'.verifyRecord l = .ok () := by
  obtain ⟨hdigest, hverifies⟩ := verifyRecord_eq_ok.mp hl
  exact verifyRecord_eq_ok.mpr ⟨h.digestOf ▸ hdigest, h.verifies l hverifies⟩

theorem verifyFrom (h : C.Admits C') {n : Nat} {prev : Option δ} {ls : List (Linked α δ κ)}
    (hls : C.verifyFrom n prev ls = .ok ()) : C'.verifyFrom n prev ls = .ok () := by
  induction ls generalizing n prev with
  | nil => rfl
  | cons l ls ih =>
    simp only [ChainReader.verifyFrom] at hls ⊢
    split_ifs at hls with hseq hprev
    split at hls
    · cases hls
    · next hl => rw [if_neg hseq, if_neg hprev, h.verifyRecord hl, ih hls]

theorem verify (h : C.Admits C') {history : List (Linked α δ κ)} {head : Linked α δ κ}
    (hv : C.verify history head = .ok ()) : C'.verify history head = .ok () := by
  simp only [ChainReader.verify] at hv ⊢
  split_ifs at hv with hreadable
  split at hv
  · cases hv
  next hlast =>
  split at hv
  · cases hv
  next hrest =>
  split_ifs at hv with hlatest
  have hreadable' : ¬ (head :: history).all C'.readable = false := by
    simp only [Bool.not_eq_false, List.all_eq_true] at hreadable ⊢
    exact fun l hl => h.readable l (hreadable l hl)
  rw [if_neg hreadable']
  simp only [h.verifyFrom hrest, if_neg hlatest, h.verifyRecord hv]

end Admits

end ChainReader

/-- A history table and the table of its head. -/
structure SignedTable (α : Type u) (δ : Type v) (κ : Type w) where
  head : Option (Linked α δ κ) := none
  history : List (Linked α δ κ) := []
  deriving DecidableEq, Repr

namespace SignedTable

variable {α : Type u} {δ : Type v} {κ : Type w} [DecidableEq δ] {C : ChainReader α δ κ}
  {t : SignedTable α δ κ}

/-- A table without a head is empty to its reader. -/
def read (C : ChainReader α δ κ) (t : SignedTable α δ κ) :
    Except ChainFault (Option (Linked α δ κ)) :=
  match t.head with
  | none => .ok none
  | some head =>
    match C.verify t.history head with
    | .error fault => .error fault
    | .ok () => .ok (some head)

def bodies (t : SignedTable α δ κ) : List α := t.history.map (·.body)

/-- The record behind the current head. -/
def next (C : ChainReader α δ κ) (sign : α → Nat → Option δ → δ → κ) (t : SignedTable α δ κ)
    (body : α) : Linked α δ κ :=
  let seq := (t.head.map (·.seq)).getD 0 + 1
  let prev := t.head.map (·.digest)
  let digest := C.digestOf body seq prev
  { body, seq, prev, digest, signature := sign body seq prev digest }

def append (t : SignedTable α δ κ) (l : Linked α δ κ) : SignedTable α δ κ :=
  { head := some l, history := t.history ++ [l] }

/-- Append the next record and make it the head. -/
def extend (C : ChainReader α δ κ) (sign : α → Nat → Option δ → δ → κ) (t : SignedTable α δ κ)
    (body : α) : SignedTable α δ κ :=
  t.append (t.next C sign body)

omit [DecidableEq δ] in
@[simp] theorem bodies_append (t : SignedTable α δ κ) (l : Linked α δ κ) :
    (t.append l).bodies = t.bodies ++ [l.body] := by
  simp [append, bodies]

omit [DecidableEq δ] in
@[simp] theorem bodies_extend (C : ChainReader α δ κ) (sign : α → Nat → Option δ → δ → κ)
    (t : SignedTable α δ κ) (body : α) : (t.extend C sign body).bodies = t.bodies ++ [body] := by
  simp [extend, next]

omit [DecidableEq δ] in
@[simp] theorem bodies_empty : (({} : SignedTable α δ κ)).bodies = [] := rfl

/-- The head is the last record of the history. -/
def Headed (t : SignedTable α δ κ) : Prop := t.head = t.history.getLast?

omit [DecidableEq δ] in
theorem headed_empty : Headed ({} : SignedTable α δ κ) := rfl

omit [DecidableEq δ] in
theorem headed_append (t : SignedTable α δ κ) (l : Linked α δ κ) : (t.append l).Headed := by
  simp [append, Headed]

omit [DecidableEq δ] in
theorem headed_extend (C : ChainReader α δ κ) (sign : α → Nat → Option δ → δ → κ)
    (t : SignedTable α δ κ) (body : α) : (t.extend C sign body).Headed :=
  t.headed_append _

omit [DecidableEq δ] in
theorem Headed.body (h : t.Headed) : t.head.map (·.body) = t.bodies.getLast? := by
  rw [h, bodies, List.getLast?_map]

omit [DecidableEq δ] in
/-- A relation that orders the bodies relates each of them to the head's. -/
theorem Headed.rel_of_pairwise {R : α → α → Prop} (h : t.Headed) (hR : t.bodies.Pairwise R)
    (hrefl : ∀ a, R a a) {c : Linked α δ κ} (hc : t.head = some c) {a : α} (ha : a ∈ t.bodies) :
    R a c.body := by
  have hlast : t.bodies.getLast? = some c.body := by
    rw [← h.body, hc, Option.map_some]
  obtain ⟨front, hfront⟩ := List.getLast?_eq_some_iff.mp hlast
  rw [hfront] at ha hR
  rcases List.mem_append.mp ha with ha | ha
  · exact (List.pairwise_append.mp hR).2.2 a ha c.body (by simp)
  · rw [List.mem_singleton.mp ha]
    exact hrefl _

omit [DecidableEq δ] in
theorem Headed.exists_head (h : t.Headed) {a : α} (ha : a ∈ t.bodies) : ∃ c, t.head = some c := by
  have hlast := h.body
  cases hhead : t.head with
  | some c => exact ⟨c, rfl⟩
  | none =>
    rw [hhead, Option.map_none, eq_comm, List.getLast?_eq_none_iff] at hlast
    rw [hlast] at ha
    cases ha

omit [DecidableEq δ] in
theorem Headed.mem_bodies (h : t.Headed) {c : Linked α δ κ} (hc : t.head = some c) :
    c.body ∈ t.bodies := by
  rw [h] at hc
  exact List.mem_map_of_mem (List.mem_of_getLast? hc)

/-- What a reader returns is the head. -/
theorem head_of_read {head : Option (Linked α δ κ)} (h : t.read C = .ok head) : t.head = head := by
  cases hhead : t.head with
  | none =>
    rw [read, hhead] at h
    exact Except.ok.inj h
  | some last =>
    simp only [read, hhead] at h
    split at h
    · cases h
    · exact Except.ok.inj h

/-- A reader that refuses a history without a head reads a head that passes on its own, in front of a history
that ends with it. -/
theorem read_eq_ok {head : Option (Linked α δ κ)} :
    t.read C = .ok head ∧ (head = none → t.history = []) ↔
      t.head = head ∧ (∀ row ∈ head, C.verifyHead row = .ok ()) ∧ C.verifyHistory t.history head = .ok () := by
  constructor
  · rintro ⟨hread, hempty⟩
    obtain rfl := head_of_read hread
    refine ⟨rfl, ?_⟩
    cases hhead : t.head with
    | none => simp [ChainReader.verifyHistory_none, hempty hhead]
    | some row =>
      simp only [read, hhead] at hread
      split at hread
      · cases hread
      · next hverify =>
        obtain ⟨hrow, hhistory⟩ := ChainReader.verify_eq_ok.mp hverify
        exact ⟨by rintro _ ⟨⟩; exact hrow, hhistory⟩
  · rintro ⟨rfl, hrow, hhistory⟩
    cases hhead : t.head with
    | none =>
      rw [hhead] at hhistory
      simp [read, hhead, ChainReader.verifyHistory_none.mp hhistory]
    | some row =>
      rw [hhead] at hhistory
      simp [read, hhead, ChainReader.verify_eq_ok.mpr ⟨hrow row hhead, hhistory⟩]

theorem read_of_admits {C' : ChainReader α δ κ} {head : Option (Linked α δ κ)} (hadmits : C.Admits C')
    (h : t.read C = .ok head) : t.read C' = .ok head := by
  obtain rfl := head_of_read h
  cases hhead : t.head with
  | none => rw [read, hhead]
  | some last =>
    simp only [read, hhead] at h ⊢
    split at h
    · cases h
    · next hverify => rw [hadmits.verify hverify]

/-- A table whose reader finds nothing to reject. -/
structure Sound (C : ChainReader α δ κ) (t : SignedTable α δ κ) : Prop where
  headed : t.Headed
  chained : ∃ n prev, ChainReader.Chained n prev t.history
  valid : ∀ l ∈ t.history, C.Valid l

omit [DecidableEq δ] in
theorem sound_empty : Sound C ({} : SignedTable α δ κ) :=
  ⟨headed_empty, ⟨1, none, .nil⟩, by simp⟩

theorem Sound.read (h : t.Sound C) : t.read C = .ok t.head := by
  have hhead := h.headed
  cases hlast : t.history.getLast? with
  | none =>
    rw [Headed, hlast] at hhead
    simp [SignedTable.read, hhead]
  | some last =>
    rw [Headed, hlast] at hhead
    have hmem : last ∈ t.history := List.mem_of_getLast? hlast
    obtain ⟨n, prev, hchain⟩ := h.chained
    have hreadable : (last :: t.history).all C.readable = true := by
      simp only [List.all_cons, List.all_eq_true, Bool.and_eq_true]
      exact ⟨(h.valid last hmem).readable, fun l hl => (h.valid l hl).readable⟩
    simp [SignedTable.read, hhead, ChainReader.verify, hreadable, hlast,
      hchain.verifyFrom h.valid, (h.valid last hmem).verifyRecord]

omit [DecidableEq δ] in
/-- A record that links to the head goes on with the chain. -/
theorem Headed.chained_append {l : Linked α δ κ} (hheaded : t.Headed)
    (hchained : ∃ n prev, ChainReader.Chained n prev t.history) (hseq : l.seq = (t.head.map (·.seq)).getD 0 + 1)
    (hprev : l.prev = t.head.map (·.digest)) : ∃ n prev, ChainReader.Chained n prev (t.append l).history := by
  obtain ⟨n, prev, hchain⟩ := hchained
  have hhead : t.head = t.history.getLast? := hheaded
  refine ⟨_, _, hchain.snoc (l := l) ?_ ?_⟩
  · rw [hseq, hhead]
    exact hchain.seq
  · rw [hprev, hhead]
    exact hchain.next.2.symm

omit [DecidableEq δ] in
/-- The head of a chain carries the number of its records. -/
theorem Headed.seq (hheaded : t.Headed) (hchained : ∃ n prev, ChainReader.Chained n prev t.history) :
    (t.head.map (·.seq)).getD 0 = t.history.length := by
  obtain ⟨n, prev, hchain⟩ := hchained
  have hseq := hchain.seq
  have hn := hchain.next.1
  rw [hheaded]
  omega

omit [DecidableEq δ] in
/-- A sound table stays sound behind a valid record that links to its head. -/
theorem Sound.append {l : Linked α δ κ} (h : t.Sound C)
    (hseq : l.seq = (t.head.map (·.seq)).getD 0 + 1) (hprev : l.prev = t.head.map (·.digest))
    (hvalid : C.Valid l) : (t.append l).Sound C := by
  refine ⟨headed_append t l, h.headed.chained_append h.chained hseq hprev, fun k hk => ?_⟩
  rcases List.mem_append.mp hk with hk | hk
  · exact h.valid k hk
  · obtain rfl := List.mem_singleton.mp hk
    exact hvalid

omit [DecidableEq δ] in
/-- The table stays sound when the next record is readable and its signature verifies. -/
theorem Sound.extend {sign : α → Nat → Option δ → δ → κ} {body : α} (h : t.Sound C)
    (hreadable : C.readable (t.next C sign body) = true)
    (hverifies : C.verifies (t.next C sign body) = true) : (t.extend C sign body).Sound C :=
  h.append rfl rfl ⟨hreadable, rfl, hverifies⟩

omit [DecidableEq δ] in
theorem Sound.seq (h : t.Sound C) : (t.head.map (·.seq)).getD 0 = t.history.length :=
  h.headed.seq h.chained

omit [DecidableEq δ] in
theorem Headed.history_eq_nil (h : t.Headed) (hhead : t.head = none) : t.history = [] :=
  List.getLast?_eq_none_iff.mp (h.symm.trans hhead)

/-- A table whose records are valid while their numbers stay within a bound. -/
structure SoundTo (C : ChainReader α δ κ) (bound : Nat) (t : SignedTable α δ κ) : Prop where
  headed : t.Headed
  chained : ∃ n prev, ChainReader.Chained n prev t.history
  valid : ∀ l ∈ t.history, l.seq ≤ bound → C.Valid l

namespace SoundTo

variable {bound : Nat}

omit [DecidableEq δ] in
theorem empty : SoundTo C bound ({} : SignedTable α δ κ) :=
  ⟨headed_empty, ⟨1, none, .nil⟩, by simp⟩

omit [DecidableEq δ] in
theorem seq_le (h : t.SoundTo C bound) {l : Linked α δ κ} (hl : l ∈ t.history) : l.seq ≤ t.history.length := by
  obtain ⟨n, prev, hchain⟩ := h.chained
  have hmem : l.seq ∈ t.history.map (·.seq) := List.mem_map_of_mem hl
  rw [hchain.map_seq, List.mem_range'_1] at hmem
  omega

omit [DecidableEq δ] in
theorem sound (h : t.SoundTo C bound) (hlength : t.history.length ≤ bound) : t.Sound C :=
  ⟨h.headed, h.chained, fun l hl => h.valid l hl (Nat.le_trans (h.seq_le hl) hlength)⟩

omit [DecidableEq δ] in
theorem append {l : Linked α δ κ} (h : t.SoundTo C bound) (hseq : l.seq = (t.head.map (·.seq)).getD 0 + 1)
    (hprev : l.prev = t.head.map (·.digest)) (hvalid : l.seq ≤ bound → C.Valid l) :
    (t.append l).SoundTo C bound := by
  refine ⟨headed_append t l, h.headed.chained_append h.chained hseq hprev, fun k hk => ?_⟩
  rcases List.mem_append.mp hk with hk | hk
  · exact h.valid k hk
  · obtain rfl := List.mem_singleton.mp hk
    exact hvalid

end SoundTo

end SignedTable
