import TskProtocol.Core.GenerateLaws
import TskProtocol.Lib.Machine
import TskProtocol.Server.ProvisionLaws

namespace TskProtocol

/-- A call of `provision` that has passed its checks and not yet gone on. -/
structure PendingProvision where
  collaborators : ProvisionerOptions
  options : TumblerMapOptions
  requestorId : Option JsString
  lifecycle : Option ReplacementLifecycle

structure ProvisionState where
  store : BoundedMemoryStore
  pending : List PendingProvision := []

/-- A call runs up to the answer of `list`, and a call that is waiting runs to its end. -/
inductive ProvisionLabel
  | begin (call : PendingProvision) (listedAt : Int)
  | resume (index : Nat) (now : Int) (tape : List UInt8)

namespace ProvisionState

def clients (s : ProvisionState) : Nat := s.store.val.maps.size

def step (maxClients : Int) (s : ProvisionState) : ProvisionLabel → Option ProvisionState
  | .begin call listedAt =>
    let p := { call.collaborators with maxClients := some maxClients }
    match TSKProvisioner.admitRequest memoryStore p s.store call.requestorId listedAt with
    | (.ok none, store) => some { store := store, pending := s.pending ++ [call] }
    | (_, store) => some { s with store := store }
  | .resume index now tape => s.pending[index]?.map fun call =>
    { store := (TSKProvisioner.insert memoryStore call.collaborators s.store call.options call.requestorId
        call.lifecycle now tape).2
      pending := s.pending.eraseIdx index }

end ProvisionState

/-- Calls of `provision` at one provisioner with a limit, each of them between its store operations. -/
def provisions (maxClients : Int) : Machine ProvisionState ProvisionLabel where
  step := ProvisionState.step maxClients

section Limit

variable {maxClients : Int} {s t : ProvisionState} {l : ProvisionLabel}

namespace ProvisionState

/-- A call finds the limit reached, or room for itself and for every call that waits. -/
def Room (maxClients : Int) (s : ProvisionState) : ProvisionLabel → Prop
  | .begin _ _ => maxClients ≤ s.clients ∨ s.clients + s.pending.length < maxClients
  | .resume _ _ _ => True

/-- The clients that are stored, with those that may still be. -/
def Within (maxClients : Int) (s : ProvisionState) : Prop := (s.clients + s.pending.length : Int) ≤ maxClients

theorem admit_store (p : ProvisionerOptions) (requestorId : Option JsString) (listedAt : Int) :
    (TSKProvisioner.admitRequest memoryStore p s.store requestorId listedAt).2 = s.store := by
  unfold TSKProvisioner.admitRequest
  split <;> rfl

theorem admit_passes {p : ProvisionerOptions} {requestorId : Option JsString} {listedAt : Int}
    (h : (TSKProvisioner.admitRequest memoryStore { p with maxClients := some maxClients } s.store requestorId listedAt).1 =
      .ok none) : s.clients < maxClients := by
  unfold TSKProvisioner.admitRequest at h
  split at h
  · next limit _ hlimit =>
    obtain rfl := Option.some.inj hlimit
    simp only [memoryStore, Except.ok.injEq, ite_eq_right_iff, reduceCtorEq, imp_false, not_le] at h
    rwa [clients, OrderedMap.size_eq_length_keys]
  · next hchecked => exact absurd rfl (hchecked maxClients h)

theorem set_clients (store : MemoryTumblerStore) (clientId : JsString) (map : TumblerMap) :
    (store.set clientId map).2.maps.size ≤ store.maps.size + 1 := by
  unfold MemoryTumblerStore.set
  split
  · exact Nat.le_succ _
  split
  · exact Nat.le_succ _
  · simp only [OrderedMap.size_set]
    split <;> omega

theorem insert_clients (p : ProvisionerOptions) (store : BoundedMemoryStore) (options : TumblerMapOptions)
    (requestorId : Option JsString) (lifecycle : Option ReplacementLifecycle) (now : Int) (tape : List UInt8) :
    (TSKProvisioner.insert memoryStore p store options requestorId lifecycle now tape).2.val.maps.size ≤
      store.val.maps.size + 1 := by
  unfold TSKProvisioner.insert
  split
  · exact Nat.le_succ _
  split
  · exact Nat.le_succ _
  next map _ =>
  have hset := set_clients store.val map.clientId map
  split
  · next hs => 
    have : _ = _ := congrArg Prod.snd hs
    subst this
    exact hset
  · next hs =>
    have : _ = _ := congrArg Prod.snd hs
    subst this
    split <;> exact hset

theorem Within.step (h : s.Within maxClients) (hroom : s.Room maxClients l) (hstep : s.step maxClients l = some t) :
    t.Within maxClients := by
  cases l with
  | begin call listedAt =>
    have hstore := admit_store (s := s) { call.collaborators with maxClients := some maxClients } call.requestorId
      listedAt
    simp only [ProvisionState.step] at hstep
    split at hstep
    · next store hadmitted =>
      rw [hadmitted] at hstore
      obtain rfl : store = s.store := hstore
      have hpasses := admit_passes (congrArg Prod.fst hadmitted)
      obtain rfl := Option.some.inj hstep
      simp only [Within, clients, List.length_append, List.length_singleton] at hpasses ⊢
      rcases hroom with hfull | hroom
      · simp only [clients] at hfull
        omega
      · simp only [clients] at hroom
        omega
    · next _ store _ hadmitted =>
      rw [hadmitted] at hstore
      obtain rfl : store = s.store := hstore
      obtain rfl := Option.some.inj hstep
      exact h
  | resume index now tape =>
    obtain ⟨call, hcall, rfl⟩ := Option.map_eq_some_iff.mp hstep
    have hclients := insert_clients call.collaborators s.store call.options call.requestorId call.lifecycle now tape
    have hlength := List.length_eraseIdx_add_one (List.getElem?_eq_some_iff.mp hcall).1
    simp only [Within, clients] at h ⊢
    omega

end ProvisionState

/-- Where every call that passes its check finds room beside those that wait, the limit holds throughout. -/
theorem provisions_limited {ls : List ProvisionLabel} (hlimit : (s.clients : Int) ≤ maxClients)
    (hnone : s.pending = []) (hrun : (provisions maxClients).Runs (·.Room maxClients) s ls t) :
    (t.clients : Int) ≤ maxClients := by
  have hwithin : t.Within maxClients := by
    refine hrun.invariant (I := ProvisionState.Within maxClients) (fun _ _ _ h hroom hstep => h.step hroom hstep) ?_
    simp only [ProvisionState.Within, hnone, List.length_nil]
    omega
  simp only [ProvisionState.Within] at hwithin
  omega

end Limit

section Sample

instance (maxClients : Int) (s : ProvisionState) (l : ProvisionLabel) : Decidable (s.Room maxClients l) :=
  match l with
  | .begin _ _ => inferInstanceAs (Decidable (_ ≤ _ ∨ _ < _))
  | .resume _ _ _ => inferInstanceAs (Decidable True)

def sampleProvision : PendingProvision := ⟨{}, sampleGenerateOptions, none, none⟩

/-- No clients, in a store with room for four. -/
def sampleProvisionState : ProvisionState where
  store := ⟨{ maps := ∅, maxEntries := 4, maxAgeMs := 1000 }, by decide⟩

/-- Both calls list the clients before either has stored its own. -/
def sampleOverlap : List ProvisionLabel :=
  [.begin sampleProvision 0, .begin sampleProvision 0, .resume 0 1 sampleTape, .resume 0 1 (1 :: sampleTape)]

/-- The second call lists the clients when the first has stored its own. -/
def sampleSuccession : List ProvisionLabel :=
  [.begin sampleProvision 0, .resume 0 1 sampleTape, .begin sampleProvision 1]

end Sample

/-- Two calls that overlap exceed a limit of one client. -/
theorem provisions_exceed : ¬ ∀ (maxClients : Int) (s t : ProvisionState) (ls : List ProvisionLabel),
    s.clients ≤ maxClients → s.pending = [] → (provisions maxClients).Reaches s ls t → t.clients ≤ maxClients := by
  intro h
  obtain ⟨t, hrun, hclients⟩ := Machine.Runs.of_observed (M := provisions 1) (C := fun _ _ => True)
    sampleProvisionState sampleOverlap ProvisionState.clients (b := 2) (by decide +kernel)
  have hlimit := h 1 sampleProvisionState t sampleOverlap (by decide) rfl hrun
  omega

theorem provisions_limited_sample : ∃ t, (provisions 1).Runs (·.Room 1) sampleProvisionState sampleSuccession t ∧
    t.clients = 1 ∧ (t.clients : Int) ≤ 1 := by
  obtain ⟨t, hrun, hclients⟩ := Machine.Runs.of_observed (M := provisions 1)
    (C := fun s l => s.Room 1 l) sampleProvisionState sampleSuccession ProvisionState.clients (b := 1)
    (by decide +kernel)
  exact ⟨t, hrun, hclients, provisions_limited (by decide) rfl hrun⟩

end TskProtocol
