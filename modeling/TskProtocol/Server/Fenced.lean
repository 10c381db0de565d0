import TskProtocol.Server.Mutation
import TskProtocol.Server.OneTime
import TskProtocol.Server.SingleWriter

namespace TskProtocol

/-- Where a mutation of a `FencedTumblerStore` stands: `requireWritable` checks the fence and
takes the snapshot, then the inner store is called. -/
inductive FencedStage
  | checking (check : WriteCheck)
  | admitted

structure FencedMutation where
  controller : Nat
  mutation : StoreMutation
  stage : FencedStage
  /-- The epochs that had been claimed when the check was begun. -/
  observed : List Int
  /-- The epoch of the lease that the verdict was reached with. -/
  epoch : Option Int

inductive FencedOutcome
  | writerFenced
  | performed (result : Except StoreError MutationResult)

structure FencedState where
  promotion : PromotionState
  inner : MemoryTumblerStore
  pending : List FencedMutation
  finished : List (FencedMutation × FencedOutcome)

inductive FencedLabel
  | promotion (label : PromotionLabel)
  | mutate (controller : Nat) (mutation : StoreMutation) (now : Int)
  | resume (index : Nat) (now : Int)

namespace FencedState

def start (inner : MemoryTumblerStore) : FencedState where
  promotion := .start
  inner := inner
  pending := []
  finished := []

def suspend (s : FencedState) (m : FencedMutation) : FencedState :=
  { s with pending := s.pending ++ [m] }

def finish (s : FencedState) (m : FencedMutation) (outcome : FencedOutcome) : FencedState :=
  { s with finished := s.finished ++ [(m, outcome)] }

def mutate (s : FencedState) (i : Nat) (controller : PromotionController) (mutation : StoreMutation)
    (now : Int) : FencedState :=
  s.suspend {
    controller := i
    mutation := mutation
    stage := .checking (.begin controller s.promotion.fence now)
    observed := s.promotion.claims.map Prod.snd
    epoch := none }

def resume (s : FencedState) (controller : PromotionController) (now : Int) (m : FencedMutation) :
    FencedState :=
  match m.stage with
  | .checking (.asked current) =>
    s.suspend { m with
      stage := .checking (WriteCheck.settle controller now (.asked current))
      epoch := controller.lease.map (·.fenceEpoch) }
  | .checking (.settled writable) =>
    if writable && (controller.snapshot writable).fenceEpoch.isSome then
      s.suspend { m with stage := .admitted }
    else s.finish m .writerFenced
  | .admitted =>
    let (result, inner) := m.mutation.perform s.inner
    { s with inner := inner }.finish m (.performed result)

def step (H : HmacSha256) (guardSecret : JsString) (s : FencedState) :
    FencedLabel → Option FencedState
  | .promotion label =>
    ((promotionMachine H guardSecret).step s.promotion label).map
      (fun promotion => { s with promotion := promotion })
  | .mutate i mutation now =>
    (s.promotion.controllers[i]?).map (fun controller => s.mutate i controller mutation now)
  | .resume index now =>
    match s.pending[index]? with
    | none => none
    | some m =>
      (s.promotion.controllers[m.controller]?).map
        (fun controller => { s with pending := s.pending.eraseIdx index }.resume controller now m)

end FencedState

/-- Mutations through any number of `FencedTumblerStore`s, each with its controller, over one
inner store and one fence. -/
def fencedMachine (H : HmacSha256) (guardSecret : JsString) : Machine FencedState FencedLabel where
  step := FencedState.step H guardSecret

variable {H : HmacSha256} {guardSecret : JsString}

/-- What has been established about a mutation at each stage of its check. -/
def FencedMutation.Sound (m : FencedMutation) : Prop :=
  match m.stage with
  | .checking (.asked current) => ∀ e ∈ m.observed, ∃ r, current = some r ∧ e ≤ r.fenceEpoch
  | .checking (.settled false) => True
  | .checking (.settled true) => ∃ e, m.epoch = some e ∧ ∀ g ∈ m.observed, g ≤ e
  | .admitted => ∃ e, m.epoch = some e ∧ ∀ g ∈ m.observed, g ≤ e

/-- Every mutation in flight is sound, and those performed were admitted. -/
structure FencedState.Sound (s : FencedState) : Prop where
  guarded : s.promotion.Guarded
  pending : ∀ m ∈ s.pending, m.Sound
  finished : ∀ m result, (m, FencedOutcome.performed result) ∈ s.finished →
    ∃ e, m.epoch = some e ∧ ∀ g ∈ m.observed, g ≤ e

namespace FencedState

variable {s t : FencedState}

theorem Sound.suspend {m : FencedMutation} (h : s.Sound) (hm : m.Sound) : (s.suspend m).Sound where
  guarded := h.guarded
  pending n hn := by
    rcases List.mem_append.mp hn with hn | hn
    · exact h.pending n hn
    · rwa [List.mem_singleton.mp hn]
  finished := h.finished

theorem Sound.finish {m : FencedMutation} {outcome : FencedOutcome} (h : s.Sound)
    (hm : ∀ result, outcome = .performed result → ∃ e, m.epoch = some e ∧ ∀ g ∈ m.observed, g ≤ e) :
    (s.finish m outcome).Sound where
  guarded := h.guarded
  pending := h.pending
  finished n result hn := by
    rcases List.mem_append.mp hn with hn | hn
    · exact h.finished n result hn
    · obtain ⟨rfl, rfl⟩ : n = m ∧ .performed result = outcome := by simpa using hn
      exact hm result rfl

theorem Sound.eraseIdx {k : Nat} (h : s.Sound) :
    Sound { s with pending := s.pending.eraseIdx k } where
  guarded := h.guarded
  pending m hm := h.pending m (List.mem_of_mem_eraseIdx hm)
  finished := h.finished

theorem Sound.mutate {i : Nat} {controller : PromotionController} {mutation : StoreMutation}
    {now : Int} (h : s.Sound) : (s.mutate i controller mutation now).Sound := by
  refine h.suspend ?_
  by_cases hlive : controller.leaseLive now = true
  · simp only [FencedMutation.Sound, WriteCheck.begin, hlive, if_true]
    intro e he
    obtain ⟨g, hg, rfl⟩ := List.mem_map.mp he
    exact h.guarded.top g hg
  · simp [FencedMutation.Sound, WriteCheck.begin, hlive]

/-- The verdict compares the lease with the record that was read, so a passing one carries
the epoch on record at the time of asking. -/
theorem Sound.resume {controller : PromotionController} {now : Int} {m : FencedMutation}
    (h : s.Sound) (hm : m.Sound) : (s.resume controller now m).Sound := by
  obtain ⟨i, mutation, stage, observed, epoch⟩ := m
  cases stage with
  | checking check =>
    cases check with
    | asked current =>
      refine h.suspend ?_
      cases hadmits : controller.admits current now with
      | false => simp [FencedMutation.Sound, WriteCheck.settle, hadmits]
      | true =>
        obtain ⟨r, lease, rfl, hlease, -, -, hepoch, -⟩ := PromotionController.admits_iff.mp hadmits
        simp only [FencedMutation.Sound, WriteCheck.settle, hadmits]
        refine ⟨lease.fenceEpoch, by rw [hlease]; rfl, fun g hg => ?_⟩
        obtain ⟨q, hq, hle⟩ := hm g hg
        obtain rfl := Option.some.inj hq
        exact hepoch ▸ hle
    | settled writable =>
      simp only [FencedState.resume]
      split
      · next hw =>
        obtain rfl : writable = true := (Bool.and_eq_true_iff.mp hw).1
        exact h.suspend hm
      · exact h.finish (fun _ hne => by cases hne)
  | admitted => exact Sound.finish ⟨h.guarded, h.pending, h.finished⟩ (fun _ _ => hm)

theorem Sound.step {l : FencedLabel} (h : s.Sound)
    (hstep : (fencedMachine H guardSecret).step s l = some t) : t.Sound := by
  cases l with
  | promotion label =>
    obtain ⟨promotion, hp, rfl⟩ := Option.map_eq_some_iff.mp hstep
    exact ⟨h.guarded.step hp, h.pending, h.finished⟩
  | mutate i mutation now =>
    obtain ⟨controller, -, rfl⟩ := Option.map_eq_some_iff.mp hstep
    exact h.mutate
  | resume index now =>
    simp only [fencedMachine, FencedState.step] at hstep
    split at hstep
    · cases hstep
    next m hm =>
    obtain ⟨controller, -, rfl⟩ := Option.map_eq_some_iff.mp hstep
    exact h.eraseIdx.resume (h.pending m (List.mem_of_getElem? hm))

theorem Sound.of_runs {inner : MemoryTumblerStore} {ls : List FencedLabel}
    (h : (fencedMachine H guardSecret).Reaches (start inner) ls s) : s.Sound := by
  refine h.invariant (fun _ _ _ hs _ hstep => hs.step hstep) ⟨.start, fun m hm => ?_, fun _ _ hm => ?_⟩
  · cases hm
  · cases hm

/-- The inner store moves only when a mutation that was admitted is performed on it. -/
theorem step_inner {l : FencedLabel} (h : (fencedMachine H guardSecret).step s l = some t) :
    t.inner = s.inner ∨ ∃ m, m.stage = .admitted ∧
      t.inner = (m.mutation.perform s.inner).2 ∧
      t.finished = s.finished ++ [(m, .performed (m.mutation.perform s.inner).1)] := by
  cases l with
  | promotion label =>
    obtain ⟨promotion, -, rfl⟩ := Option.map_eq_some_iff.mp h
    exact .inl rfl
  | mutate i mutation now =>
    obtain ⟨controller, -, rfl⟩ := Option.map_eq_some_iff.mp h
    exact .inl rfl
  | resume index now =>
    simp only [fencedMachine, FencedState.step] at h
    split at h
    · cases h
    next m _ =>
    obtain ⟨controller, -, rfl⟩ := Option.map_eq_some_iff.mp h
    obtain ⟨i, mutation, stage, observed, epoch⟩ := m
    cases stage with
    | checking check =>
      cases check with
      | asked current => exact .inl rfl
      | settled writable =>
        left
        simp only [FencedState.resume]
        split <;> rfl
    | admitted => exact .inr ⟨_, rfl, rfl, rfl⟩

end FencedState

/-- Only admitted mutations move the inner store, and each reached its verdict holding an
epoch at least as high as every epoch claimed before its check was begun. -/
theorem fenced_write {inner : MemoryTumblerStore} {ls : List FencedLabel} {s : FencedState}
    (hrun : (fencedMachine H guardSecret).Reaches (.start inner) ls s) :
    (∀ m result, (m, FencedOutcome.performed result) ∈ s.finished →
      ∃ e, m.epoch = some e ∧ ∀ g ∈ m.observed, g ≤ e) ∧
    (∀ l t, (fencedMachine H guardSecret).step s l = some t → t.inner = s.inner ∨
      ∃ m, t.inner = (m.mutation.perform s.inner).2 ∧
        t.finished = s.finished ++ [(m, .performed (m.mutation.perform s.inner).1)]) := by
  refine ⟨(FencedState.Sound.of_runs hrun).finished, fun l t hstep => ?_⟩
  rcases FencedState.step_inner hstep with h | ⟨m, -, hinner, hfinished⟩
  · exact .inl h
  · exact .inr ⟨m, hinner, hfinished⟩

section Sample

/-- `a` is activated, then deletes; its check has passed and its write is still to come. -/
def sampleAdmitted : List FencedLabel :=
  sampleActivation.map .promotion ++
    [.mutate 0 (.delete (JsString.lit "tsk_a")) 6, .resume 0 6, .resume 0 6]

/-- `b` takes over, and a deletion through `b` runs to its end. -/
def sampleSuccessor : List FencedLabel :=
  (sampleActivation ++ sampleTakeover).map .promotion ++
    [.mutate 1 (.delete (JsString.lit "tsk_a")) 8, .resume 0 8, .resume 0 8, .resume 0 8]

end Sample

theorem fenced_write_sample : ∃ s m,
    (fencedMachine mirrorHmac sampleGuardSecret).Reaches (.start sampleStore) sampleSuccessor s ∧
    s.finished = [(m, .performed (.ok .done))] ∧ m.controller = 1 ∧ m.observed = [1, 2] ∧
    m.epoch = some 2 ∧ ∃ e, m.epoch = some e ∧ ∀ g ∈ m.observed, g ≤ e := by
  obtain ⟨s, hs, m, hfinished, hcontroller, hobserved, hepoch⟩ : ∃ s,
      (fencedMachine mirrorHmac sampleGuardSecret).exec (fun _ _ => True) (.start sampleStore)
        sampleSuccessor = some s ∧ ∃ m, s.finished = [(m, .performed (.ok .done))] ∧
      m.controller = 1 ∧ m.observed = [1, 2] ∧ m.epoch = some 2 :=
    ⟨_, rfl, _, rfl, rfl, rfl, rfl⟩
  have hrun := Machine.Runs.of_exec hs
  refine ⟨s, m, hrun, hfinished, hcontroller, hobserved, hepoch, ?_⟩
  exact (fenced_write hrun).1 m (.ok .done) (by rw [hfinished]; exact List.mem_singleton.mpr rfl)

/-- Epoch 2 is claimed and `b` writable between the check and the write of `a`, and the
deletion through `a`, whose lease is of epoch 1, still empties the store. -/
theorem admitted_write_outlives_takeover : ∃ s t u m b,
    (fencedMachine mirrorHmac sampleGuardSecret).Reaches (.start sampleStore) sampleAdmitted s ∧
    (fencedMachine mirrorHmac sampleGuardSecret).Reaches s (sampleTakeover.map .promotion) t ∧
    t.promotion.claims = [(0, 1), (1, 2)] ∧
    t.promotion.controllers[1]? = some b ∧ b.isWritable t.promotion.fence 8 8 = true ∧
    (fencedMachine mirrorHmac sampleGuardSecret).Reaches t [.resume 0 8] u ∧
    t.finished = [] ∧ u.finished = [(m, .performed (.ok .done))] ∧
    m.controller = 0 ∧ m.epoch = some 1 ∧
    t.inner.maps.get? (JsString.lit "tsk_a") = some sampleMap ∧
    u.inner.maps.get? (JsString.lit "tsk_a") = none := by
  obtain ⟨s, hs, t, ht, hclaims, b, hb, hwritable, u, hu, hbefore, m, hafter, hcontroller, hepoch,
      hstored, hgone⟩ : ∃ s,
      (fencedMachine mirrorHmac sampleGuardSecret).exec (fun _ _ => True) (.start sampleStore)
        sampleAdmitted = some s ∧ ∃ t,
      (fencedMachine mirrorHmac sampleGuardSecret).exec (fun _ _ => True) s
        (sampleTakeover.map .promotion) = some t ∧ t.promotion.claims = [(0, 1), (1, 2)] ∧ ∃ b,
      t.promotion.controllers[1]? = some b ∧ b.isWritable t.promotion.fence 8 8 = true ∧ ∃ u,
      (fencedMachine mirrorHmac sampleGuardSecret).exec (fun _ _ => True) t [.resume 0 8] = some u ∧
      t.finished = [] ∧ ∃ m, u.finished = [(m, .performed (.ok .done))] ∧
      m.controller = 0 ∧ m.epoch = some 1 ∧
      t.inner.maps.get? (JsString.lit "tsk_a") = some sampleMap ∧
      u.inner.maps.get? (JsString.lit "tsk_a") = none :=
    ⟨_, rfl, _, rfl, rfl, _, rfl, by decide, _, rfl, rfl, _, rfl, rfl, rfl, rfl, rfl⟩
  exact ⟨s, t, u, m, b, .of_exec hs, .of_exec ht, hclaims, hb, hwritable, .of_exec hu, hbefore,
    hafter, hcontroller, hepoch, hstored, hgone⟩

end TskProtocol
