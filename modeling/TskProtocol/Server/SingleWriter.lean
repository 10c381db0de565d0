import TskProtocol.Core.MirrorHmac
import TskProtocol.Server.Guard

namespace TskProtocol

variable {H : HmacSha256} {guardSecret : JsString}

theorem MemoryFencingStore.claim_spec (store : MemoryFencingStore) (nodeId : JsString)
    (fenceEpoch expiresAt : Int) (commandId : JsString) :
    (store.claim nodeId fenceEpoch expiresAt commandId = (false, store)) ∨
    ((∀ q, store.record = some q → q.fenceEpoch < fenceEpoch) ∧
      store.claim nodeId fenceEpoch expiresAt commandId =
        (true, ⟨some ⟨nodeId, fenceEpoch, expiresAt, commandId, true⟩⟩)) := by
  by_cases h : store.record.any (fun r => fenceEpoch ≤ r.fenceEpoch) = true
  · exact .inl (if_pos h)
  · refine .inr ⟨fun q hq => ?_, if_neg h⟩
    simpa [hq] using h

theorem MemoryFencingStore.release_spec (store : MemoryFencingStore) (nodeId : JsString)
    (fenceEpoch : Int) (commandId : JsString) :
    (store.release nodeId fenceEpoch commandId = (false, store)) ∨
    ∃ r, store.record = some r ∧
      store.release nodeId fenceEpoch commandId = (true, ⟨some { r with active := false }⟩) := by
  cases hr : store.record with
  | none => exact .inl (by simp [release, hr])
  | some r =>
    simp only [release, hr]
    split
    · exact .inl rfl
    · exact .inr ⟨r, rfl, rfl⟩

/-- The outcomes of a delivered command, with what each did to the fence. -/
inductive Handled (fence : MemoryFencingStore) :
    Except PromotionResponse PendingCommand → MemoryFencingStore → Prop
  | refused (response : PromotionResponse) : Handled fence (.error response) fence
  | beaten (command : GuardCommand) : Handled fence (.ok (.activating command false)) fence
  | claimed (nodeId : JsString) (command : GuardCommand)
      (hbelow : ∀ q, fence.record = some q → q.fenceEpoch < command.fenceEpoch) :
      Handled fence (.ok (.activating command true))
        ⟨some ⟨nodeId, command.fenceEpoch, command.expiresAt, command.commandId, true⟩⟩
  | unreleased : Handled fence (.ok (.demoting false)) fence
  | released (r : FenceRecord) (hr : fence.record = some r) :
      Handled fence (.ok (.demoting true)) ⟨some { r with active := false }⟩

theorem PromotionController.activate_spec (controller : PromotionController)
    (replicaCheckpoint : Option ReplicationCheckpoint) (fence : MemoryFencingStore)
    (command : GuardCommand) :
    (∃ e, controller.activate replicaCheckpoint fence command = (.error e, fence)) ∨
    (controller.activate replicaCheckpoint fence command = (.ok false, fence)) ∨
    ((∀ q, fence.record = some q → q.fenceEpoch < command.fenceEpoch) ∧
      controller.activate replicaCheckpoint fence command = (.ok true,
        ⟨some ⟨controller.nodeId, command.fenceEpoch, command.expiresAt, command.commandId, true⟩⟩)) := by
  simp only [activate]
  split
  · exact .inl ⟨_, rfl⟩
  split
  · exact .inl ⟨_, rfl⟩
  split
  · exact .inl ⟨_, rfl⟩
  split
  · exact .inl ⟨_, rfl⟩
  rcases fence.claim_spec controller.nodeId command.fenceEpoch command.expiresAt command.commandId
    with h | ⟨hbelow, h⟩
  · exact .inr (.inl (by rw [h]))
  · exact .inr (.inr ⟨hbelow, by rw [h]⟩)

theorem PromotionController.demote_spec (controller : PromotionController)
    (fence : MemoryFencingStore) (command : GuardCommand) :
    (∃ e, controller.demote fence command = (.error e, fence)) ∨
    (controller.demote fence command = (.ok false, fence)) ∨
    ∃ r, fence.record = some r ∧
      controller.demote fence command = (.ok true, ⟨some { r with active := false }⟩) := by
  simp only [demote]
  split
  · exact .inl ⟨_, rfl⟩
  split
  · exact .inl ⟨_, rfl⟩
  next lease _ =>
  split
  · exact .inl ⟨_, rfl⟩
  rcases fence.release_spec controller.nodeId lease.fenceEpoch lease.commandId with h | ⟨r, hr, h⟩
  · exact .inr (.inl (by rw [h]))
  · exact .inr (.inr ⟨r, hr, by rw [h]⟩)

theorem handlePromotionCommand_handled (H : HmacSha256) (guardSecret : JsString)
    (controller : PromotionController) (replicaCheckpoint : Option ReplicationCheckpoint)
    (fence : MemoryFencingStore) (now : Int) (body : Json) :
    ∃ outcome fence',
      handlePromotionCommand H guardSecret controller replicaCheckpoint fence now body =
        (outcome, fence') ∧ Handled fence outcome fence' := by
  simp only [handlePromotionCommand]
  split
  · exact ⟨_, _, rfl, .refused _⟩
  next command _ =>
  split
  · exact ⟨_, _, rfl, .refused _⟩
  split
  · exact ⟨_, _, rfl, .refused _⟩
  split
  · rcases controller.demote_spec fence command with ⟨e, h⟩ | h | ⟨r, hr, h⟩
    · exact ⟨_, _, by rw [h], .refused _⟩
    · exact ⟨_, _, by rw [h], .unreleased⟩
    · exact ⟨_, _, by rw [h], .released r hr⟩
  · rcases controller.activate_spec replicaCheckpoint fence command with ⟨e, h⟩ | h | ⟨hbelow, h⟩
    · exact ⟨_, _, by rw [h], .refused _⟩
    · exact ⟨_, _, by rw [h], .beaten command⟩
    · exact ⟨_, _, by rw [h], .claimed controller.nodeId command hbelow⟩

namespace PromotionState

variable {s t u : PromotionState}

/-- Controller `i` has `e` in its cached lease, or is about to. -/
inductive Holds (s : PromotionState) (i : Nat) (e : Int) : Prop
  | lease {controller : PromotionController} {lease : GuardCommand}
      (hi : s.controllers[i]? = some controller) (hlease : controller.lease = some lease)
      (he : lease.fenceEpoch = e)
  | soon {command : GuardCommand} (hmem : (i, .activating command true) ∈ s.pending)
      (he : command.fenceEpoch = e)

/-- What a step does to the shared fence and to the history of claims. -/
inductive FenceMove (s t : PromotionState) : Prop
  | kept (hfence : t.fence = s.fence) (hclaims : t.claims = s.claims)
  | released {r : FenceRecord} (hr : s.fence.record = some r)
      (hfence : t.fence = ⟨some { r with active := false }⟩) (hclaims : t.claims = s.claims)
  | claimed {i : Nat} {r : FenceRecord}
      (hbelow : ∀ q, s.fence.record = some q → q.fenceEpoch < r.fenceEpoch)
      (hfence : t.fence = ⟨some r⟩) (hclaims : t.claims = s.claims ++ [(i, r.fenceEpoch)])

theorem setLease_lease {i j : Nat} {lease : Option GuardCommand} {c : PromotionController}
    (h : (s.setLease i lease).controllers[j]? = some c) :
    (∃ d, s.controllers[j]? = some d ∧ d.lease = c.lease) ∨ (i = j ∧ c.lease = lease) := by
  rw [setLease, List.getElem?_modify] at h
  obtain ⟨d, hd, rfl⟩ := Option.map_eq_some_iff.mp h
  split
  · next hij => exact .inr ⟨hij, rfl⟩
  · exact .inl ⟨d, hd, rfl⟩

/-- Nothing is held anew when the leases and the granted claims in flight are old ones. -/
theorem Holds.of_subset {i : Nat} {e : Int} (h : t.Holds i e)
    (hc : ∀ c, t.controllers[i]? = some c → c.lease.isSome →
      ∃ d, s.controllers[i]? = some d ∧ d.lease = c.lease)
    (hp : ∀ command, (i, .activating command true) ∈ t.pending →
      (i, .activating command true) ∈ s.pending) : s.Holds i e := by
  cases h with
  | lease hi hlease he =>
    obtain ⟨d, hd, heq⟩ := hc _ hi (by simp [hlease])
    exact .lease hd (heq.trans hlease) he
  | soon hmem he => exact .soon (hp _ hmem) he

theorem construct_holds {node : PromotionNode} {i : Nat} {e : Int}
    (h : Holds { s with controllers := s.controllers ++ [{ node with }] } i e) : s.Holds i e := by
  refine h.of_subset (fun c hc hsome => ?_) (fun _ hmem => hmem)
  rcases List.mem_append.mp (List.mem_of_getElem? hc) with _ | hnew
  · rw [List.getElem?_append] at hc
    split at hc
    · exact ⟨c, hc, rfl⟩
    · obtain rfl : c = { node with } := by simpa using List.mem_of_getElem? hc
      cases hsome
  · obtain rfl : c = { node with } := by simpa using hnew
    cases hsome

theorem deliver_move (i : Nat) (controller : PromotionController) (body : Json)
    (replicaCheckpoint : Option ReplicationCheckpoint) (now : Int) :
    FenceMove s (s.deliver H guardSecret i controller body replicaCheckpoint now) ∧
    ∀ j e, (s.deliver H guardSecret i controller body replicaCheckpoint now).Holds j e →
      s.Holds j e ∨
        (j, e) ∈ (s.deliver H guardSecret i controller body replicaCheckpoint now).claims := by
  obtain ⟨outcome, fence, heq, hhandled⟩ :=
    handlePromotionCommand_handled H guardSecret controller replicaCheckpoint s.fence now body
  have hold : ∀ {t : PromotionState} {j e}, t.Holds j e → t.controllers = s.controllers →
      (∀ command, (j, PendingCommand.activating command true) ∈ t.pending →
        (j, .activating command true) ∈ s.pending) → s.Holds j e := by
    intro t j e h hc hp
    exact h.of_subset (fun c hget _ => ⟨c, hc ▸ hget, rfl⟩) hp
  simp only [deliver, heq]
  cases hhandled with
  | refused response =>
    exact ⟨.kept rfl rfl, fun j e h => .inl (hold h rfl (fun _ hmem => hmem))⟩
  | beaten command =>
    refine ⟨.kept rfl rfl, fun j e h => .inl (hold h rfl (fun _ hmem => ?_))⟩
    simpa [suspend, record] using hmem
  | unreleased =>
    refine ⟨.kept rfl rfl, fun j e h => .inl (hold h rfl (fun _ hmem => ?_))⟩
    simpa [suspend, record] using hmem
  | released r hr =>
    refine ⟨.released hr rfl rfl, fun j e h => .inl (hold h rfl (fun _ hmem => ?_))⟩
    simpa [suspend, record] using hmem
  | claimed nodeId command hbelow =>
    refine ⟨.claimed hbelow rfl rfl, fun j e h => ?_⟩
    cases h with
    | lease hi hlease he => exact .inl (.lease hi hlease he)
    | soon hmem he =>
      rcases List.mem_append.mp hmem with hmem | hmem
      · exact .inl (.soon hmem he)
      · right
        simp only [List.mem_singleton, Prod.mk.injEq, PendingCommand.activating.injEq,
          and_true] at hmem
        simp [suspend, record, hmem.1, ← he, hmem.2]

theorem resume_move (i : Nat) (controller : PromotionController) (now : Int)
    (call : PendingCommand) : FenceMove s (s.resume i controller now call) := by
  cases call with
  | activating command claimed => cases claimed <;> exact .kept rfl rfl
  | demoting released => cases released <;> exact .kept rfl rfl
  | succeeded => exact .kept rfl rfl
  | reporting check => cases check <;> exact .kept rfl rfl

/-- A resumed command moves at most its own grant from the flight into the lease. -/
theorem resume_holds {i j : Nat} {controller : PromotionController} {now : Int}
    {call : PendingCommand} {e : Int} (h : (s.resume i controller now call).Holds j e) :
    s.Holds j e ∨ ∃ command, call = .activating command true ∧ i = j ∧ command.fenceEpoch = e := by
  have hold : ∀ {t : PromotionState}, t.Holds j e → t.controllers = s.controllers →
      (∀ command, (j, PendingCommand.activating command true) ∈ t.pending →
        (j, .activating command true) ∈ s.pending) → s.Holds j e := by
    intro t h hc hp
    exact h.of_subset (fun c hget _ => ⟨c, hc ▸ hget, rfl⟩) hp
  cases call with
  | activating command claimed =>
    cases claimed with
    | false => exact .inl (hold h rfl (fun _ hmem => hmem))
    | true =>
      cases h with
      | lease hi hlease he =>
        rcases setLease_lease hi with ⟨d, hd, heq⟩ | ⟨hij, heq⟩
        · exact .inl (.lease hd (heq.trans hlease) he)
        · obtain rfl : command = _ := Option.some.inj (heq.symm.trans hlease)
          exact .inr ⟨command, rfl, hij, he⟩
      | soon hmem he =>
        exact .inl (.soon (by simpa [resume, suspend, setLease] using hmem) he)
  | demoting released =>
    cases released with
    | false => exact .inl (hold h rfl (fun _ hmem => hmem))
    | true =>
      left
      refine h.of_subset (fun c hc hsome => ?_) (fun _ hmem => ?_)
      · rcases setLease_lease hc with hd | ⟨-, heq⟩
        · exact hd
        · rw [heq] at hsome; cases hsome
      · simpa [resume, suspend, setLease] using hmem
  | succeeded =>
    refine .inl (hold h rfl (fun _ hmem => ?_))
    simpa [resume, suspend] using hmem
  | reporting check =>
    cases check with
    | settled writable => exact .inl (hold h rfl (fun _ hmem => hmem))
    | asked current =>
      refine .inl (hold h rfl (fun _ hmem => ?_))
      simpa [resume, suspend] using hmem

theorem Holds.of_eraseIdx {k i : Nat} {e : Int}
    (h : Holds { s with pending := s.pending.eraseIdx k } i e) : s.Holds i e :=
  h.of_subset (fun c hc _ => ⟨c, hc, rfl⟩) (fun _ hmem => List.mem_of_mem_eraseIdx hmem)

theorem step_move {l : PromotionLabel} (h : (promotionMachine H guardSecret).step s l = some t) :
    FenceMove s t := by
  cases l with
  | construct node =>
    obtain rfl := Option.some.inj h
    exact .kept rfl rfl
  | deliver i body replicaCheckpoint now =>
    simp only [promotionMachine, step] at h
    split at h
    · cases h
    · obtain rfl := Option.some.inj h
      exact (deliver_move ..).1
  | resume index now =>
    simp only [promotionMachine, step] at h
    split at h
    · cases h
    split at h
    · cases h
    · obtain rfl := Option.some.inj h
      cases resume_move (s := { s with pending := s.pending.eraseIdx index }) _ _ _ _ with
      | kept hfence hclaims => exact .kept hfence hclaims
      | released hr hfence hclaims => exact .released hr hfence hclaims
      | claimed hbelow hfence hclaims => exact .claimed hbelow hfence hclaims

theorem step_holds {l : PromotionLabel} {i : Nat} {e : Int}
    (h : (promotionMachine H guardSecret).step s l = some t) (ht : t.Holds i e) :
    s.Holds i e ∨ (i, e) ∈ t.claims := by
  cases l with
  | construct node =>
    obtain rfl := Option.some.inj h
    exact .inl (construct_holds ht)
  | deliver j body replicaCheckpoint now =>
    simp only [promotionMachine, step] at h
    split at h
    · cases h
    · obtain rfl := Option.some.inj h
      exact (deliver_move ..).2 i e ht
  | resume index now =>
    simp only [promotionMachine, step] at h
    split at h
    · cases h
    next j call hcall =>
    split at h
    · cases h
    · obtain rfl := Option.some.inj h
      rcases resume_holds ht with hs | ⟨command, rfl, rfl, he⟩
      · exact .inl hs.of_eraseIdx
      · exact .inl (.soon (List.mem_of_getElem? hcall) he)

/-- Epochs are claimed in increasing order, the last one is on record, and whoever holds an
epoch claimed it. -/
structure Guarded (s : PromotionState) : Prop where
  increasing : (s.claims.map Prod.snd).Pairwise (· < ·)
  top : ∀ g ∈ s.claims, ∃ r, s.fence.record = some r ∧ g.2 ≤ r.fenceEpoch
  holds : ∀ i e, s.Holds i e → (i, e) ∈ s.claims

theorem Guarded.start : Guarded .start where
  increasing := .nil
  top g hg := by cases hg
  holds i e h := by
    cases h with
    | lease hi => simp [PromotionState.start] at hi
    | soon hmem => cases hmem

theorem Guarded.step {l : PromotionLabel} (h : s.Guarded)
    (hstep : (promotionMachine H guardSecret).step s l = some t) : t.Guarded := by
  have hholds : (∀ g ∈ s.claims, g ∈ t.claims) → ∀ i e, t.Holds i e → (i, e) ∈ t.claims := by
    intro hsub i e ht
    rcases step_holds hstep ht with hs | hmem
    · exact hsub _ (h.holds i e hs)
    · exact hmem
  cases step_move hstep with
  | kept hfence hclaims =>
    refine ⟨hclaims ▸ h.increasing, ?_, hholds (fun g hg => hclaims ▸ hg)⟩
    rw [hfence, hclaims]
    exact h.top
  | @released r hr hfence hclaims =>
    refine ⟨hclaims ▸ h.increasing, fun g hg => ?_, hholds (fun g hg => hclaims ▸ hg)⟩
    obtain ⟨q, hq, hle⟩ := h.top g (hclaims ▸ hg)
    obtain rfl := Option.some.inj (hr.symm.trans hq)
    exact ⟨{ r with active := false }, by rw [hfence], hle⟩
  | @claimed i r hbelow hfence hclaims =>
    have hlt : ∀ g ∈ s.claims, g.2 < r.fenceEpoch := by
      intro g hg
      obtain ⟨q, hq, hle⟩ := h.top g hg
      exact Int.lt_of_le_of_lt hle (hbelow q hq)
    refine ⟨?_, fun g hg => ⟨r, by rw [hfence], ?_⟩, hholds (fun g hg => ?_)⟩
    · rw [hclaims, List.map_append, List.pairwise_append]
      refine ⟨h.increasing, by simp, fun a ha b hb => ?_⟩
      obtain ⟨g, hg, rfl⟩ := List.mem_map.mp ha
      obtain rfl : b = r.fenceEpoch := by simpa using hb
      exact hlt g hg
    · rw [hclaims] at hg
      rcases List.mem_append.mp hg with hg | hg
      · exact Int.le_of_lt (hlt g hg)
      · rw [List.mem_singleton.mp hg]
    · rw [hclaims]
      exact List.mem_append_left _ hg

theorem Guarded.of_runs {ls : List PromotionLabel}
    (h : (promotionMachine H guardSecret).Reaches .start ls s) : s.Guarded :=
  h.invariant (fun _ _ _ hs _ hstep => hs.step hstep) .start

/-- An epoch has one claimant. -/
theorem Guarded.claimant_unique {i j : Nat} {e : Int} (h : s.Guarded)
    (hi : (i, e) ∈ s.claims) (hj : (j, e) ∈ s.claims) : i = j := by
  have hnodup : (s.claims.map Prod.snd).Nodup := h.increasing.imp Int.ne_of_lt
  exact congrArg Prod.fst (List.inj_on_of_nodup_map hnodup hi hj rfl)

theorem claims_grow {l : PromotionLabel} (h : (promotionMachine H guardSecret).step s l = some t) :
    ∀ g ∈ s.claims, g ∈ t.claims := by
  cases step_move h with
  | kept hfence hclaims => exact fun g hg => hclaims ▸ hg
  | released hr hfence hclaims => exact fun g hg => hclaims ▸ hg
  | claimed hbelow hfence hclaims => exact fun g hg => hclaims ▸ List.mem_append_left _ hg

theorem claims_grow_run {ls : List PromotionLabel}
    (h : (promotionMachine H guardSecret).Reaches s ls t) : ∀ g ∈ s.claims, g ∈ t.claims :=
  h.relates (I := fun _ => True) (R := fun s t => ∀ g ∈ s.claims, g ∈ t.claims)
    (fun _ _ hg => hg) (fun _ _ _ hst htu g hg => htu g (hst g hg)) (fun _ _ _ _ _ _ => trivial)
    (fun _ _ _ _ _ hstep => claims_grow hstep) trivial

end PromotionState

/-- The grant of epoch `e` was released, or a higher epoch was claimed after it. -/
inductive MemoryFencingStore.Spent (fence : MemoryFencingStore) (e : Int) : Prop
  | superseded {r : FenceRecord} (hr : fence.record = some r) (he : e < r.fenceEpoch)
  | released {r : FenceRecord} (hr : fence.record = some r) (he : r.fenceEpoch = e)
      (hinactive : r.active = false)

namespace PromotionState

variable {s t u : PromotionState}

theorem spent_step {e : Int} {l : PromotionLabel} (h : s.fence.Spent e)
    (hstep : (promotionMachine H guardSecret).step s l = some t) : t.fence.Spent e := by
  cases step_move hstep with
  | kept hfence _ => rw [hfence]; exact h
  | @released r hr hfence _ =>
    rw [hfence]
    cases h with
    | superseded hq he =>
      obtain rfl := Option.some.inj (hr.symm.trans hq)
      exact .superseded rfl he
    | released hq he _ =>
      obtain rfl := Option.some.inj (hr.symm.trans hq)
      exact .released rfl he rfl
  | @claimed i r hbelow hfence _ =>
    rw [hfence]
    cases h with
    | superseded hq he => exact .superseded rfl (he.trans (hbelow _ hq))
    | released hq he _ => exact .superseded rfl (he ▸ hbelow _ hq)

theorem spent_run {e : Int} {ls : List PromotionLabel} (h : s.fence.Spent e)
    (hrun : (promotionMachine H guardSecret).Reaches s ls t) : t.fence.Spent e :=
  hrun.invariant (fun _ _ _ hs _ hstep => spent_step hs hstep) h

end PromotionState

theorem PromotionController.admits_iff {controller : PromotionController}
    {current : Option FenceRecord} {now : Int} :
    controller.admits current now = true ↔ ∃ r lease, current = some r ∧
      controller.lease = some lease ∧ r.active = true ∧ r.nodeId = controller.nodeId ∧
      r.fenceEpoch = lease.fenceEpoch ∧ r.commandId = lease.commandId ∧
      r.expiresAt = lease.expiresAt ∧ now < r.expiresAt := by
  cases current <;> cases hlease : controller.lease <;>
    simp [admits, hlease, Bool.and_eq_true, and_assoc]

theorem PromotionController.not_admits_of_spent {controller : PromotionController}
    {lease : GuardCommand} {fence : MemoryFencingStore} {now : Int}
    (h : fence.Spent lease.fenceEpoch) (hlease : controller.lease = some lease) :
    controller.admits fence.current now = false := by
  rw [Bool.eq_false_iff]
  intro hadmits
  obtain ⟨r, lease', hr, hlease', hactive, -, hepoch, -⟩ := admits_iff.mp hadmits
  obtain rfl := Option.some.inj (hlease.symm.trans hlease')
  cases h with
  | superseded hq he =>
    obtain rfl := Option.some.inj (hr.symm.trans hq)
    omega
  | released hq _ hinactive =>
    obtain rfl := Option.some.inj (hr.symm.trans hq)
    simp [hactive] at hinactive

open PromotionState in
/-- Two checks that the fence answered at one moment (in `s`) pass for one controller only,
however long each takes to look at its lease (in `t` and in `u`); claimed epochs increase;
and a check asked after a grant was spent does not pass on that grant. -/
theorem single_writer {s t u : PromotionState} {ls ks js : List PromotionLabel}
    (hs : (promotionMachine H guardSecret).Reaches .start ls s)
    (ht : (promotionMachine H guardSecret).Reaches s ks t)
    (hu : (promotionMachine H guardSecret).Reaches t js u) :
    (∀ (i j : Nat) (c d : PromotionController) (now later : Int),
      t.controllers[i]? = some c → u.controllers[j]? = some d →
      c.admits s.fence.current now = true → d.admits s.fence.current later = true → i = j) ∧
    (s.claims.map Prod.snd).Pairwise (· < ·) ∧
    (∀ (i : Nat) (c : PromotionController) (lease : GuardCommand) (now : Int),
      u.controllers[i]? = some c → c.lease = some lease →
      s.fence.Spent lease.fenceEpoch → c.admits t.fence.current now = false) := by
  have hguard := Guarded.of_runs hs
  refine ⟨fun i j c d now later hc hd hi hj => ?_, hguard.increasing,
    fun i c lease now _ hlease hspent => ?_⟩
  · obtain ⟨r, lease, hr, hlease, -, -, hepoch, -⟩ := PromotionController.admits_iff.mp hi
    obtain ⟨r', lease', hr', hlease', -, -, hepoch', -⟩ := PromotionController.admits_iff.mp hj
    obtain rfl := Option.some.inj (hr.symm.trans hr')
    have htguard := Guarded.of_runs (hs.append ht)
    have huguard := Guarded.of_runs ((hs.append ht).append hu)
    have hclaim : (i, r.fenceEpoch) ∈ u.claims :=
      claims_grow_run hu _ (htguard.holds i _ (.lease hc hlease hepoch.symm))
    have hclaim' : (j, r.fenceEpoch) ∈ u.claims := huguard.holds j _ (.lease hd hlease' hepoch'.symm)
    exact huguard.claimant_unique hclaim hclaim'
  · exact PromotionController.not_admits_of_spent (spent_run hspent ht) hlease

section Sample

def sampleGuardSecret : JsString := List.replicate 32 97

/-- A grant issued at 0 and good until 100, signed by the guard. -/
def sampleGrant (command nodeId : String) (fenceEpoch : Int) (required : List (JsString × Json)) :
    Json :=
  (signGuardCommand mirrorHmac ([
    (JsString.lit "command", .str (JsString.lit command)),
    (JsString.lit "commandId", .str (JsString.lit "grant" ++ JsString.ofInt fenceEpoch)),
    (JsString.lit "nodeId", .str (JsString.lit nodeId)),
    (JsString.lit "fenceEpoch", .num fenceEpoch),
    (JsString.lit "issuedAt", .num 0),
    (JsString.lit "expiresAt", .num 100),
    (JsString.lit "by", .str (JsString.lit "guard"))] ++ required) sampleGuardSecret).getD .null

def sampleCheckpoint : ReplicationCheckpoint := ⟨JsString.lit "stream", 1, 1, JsString.lit "head"⟩

def sampleActivate : Json := sampleGrant "activate" "a" 1 []

def samplePromote : Json := sampleGrant "promote" "b" 2 [(JsString.lit "requiredCheckpoint", .obj [
  (JsString.lit "streamId", .str (JsString.lit "stream")), (JsString.lit "epoch", .num 1),
  (JsString.lit "sequence", .num 1), (JsString.lit "headHash", .str (JsString.lit "head"))])]

/-- A primary `a` and a replica `b`; `a` is activated. -/
def sampleActivation : List PromotionLabel :=
  [.construct { role := .primary, nodeId := JsString.lit "a", nodeId_ne := by decide },
    .construct { role := .replica, nodeId := JsString.lit "b", nodeId_ne := by decide },
    .deliver 0 sampleActivate none 5, .resume 0 5]

/-- `b` is promoted, and the grant of `a` is delivered once more. -/
def sampleTakeover : List PromotionLabel :=
  [.deliver 1 samplePromote (some sampleCheckpoint) 6, .resume 1 6,
    .deliver 0 sampleActivate none 7, .resume 2 7]

end Sample

theorem single_writer_sample : ∃ s t c d,
    (promotionMachine mirrorHmac sampleGuardSecret).Reaches .start sampleActivation s ∧
    (promotionMachine mirrorHmac sampleGuardSecret).Reaches s sampleTakeover t ∧
    s.controllers[0]? = some c ∧ c.isWritable s.fence 6 6 = true ∧
    t.controllers[1]? = some d ∧ d.isWritable t.fence 8 8 = true ∧
    t.claims = [(0, 1), (1, 2)] ∧ (t.claims.map Prod.snd).Pairwise (· < ·) := by
  obtain ⟨s, hs, t, ht, c, hc, hcw, d, hd, hdw, hclaims⟩ : ∃ s,
      (promotionMachine mirrorHmac sampleGuardSecret).exec (fun _ _ => True) .start
        sampleActivation = some s ∧ ∃ t,
      (promotionMachine mirrorHmac sampleGuardSecret).exec (fun _ _ => True) s
        sampleTakeover = some t ∧
      ∃ c, s.controllers[0]? = some c ∧ c.isWritable s.fence 6 6 = true ∧
      ∃ d, t.controllers[1]? = some d ∧ d.isWritable t.fence 8 8 = true ∧
        t.claims = [(0, 1), (1, 2)] :=
    ⟨_, rfl, _, rfl, _, rfl, by decide, _, rfl, by decide, by decide⟩
  have hs := Machine.Runs.of_exec hs
  have ht := Machine.Runs.of_exec ht
  exact ⟨s, t, c, d, hs, ht, hc, hcw, hd, hdw, hclaims,
    (single_writer (hs.append ht) (.nil t) (.nil t)).2.1⟩

end TskProtocol
