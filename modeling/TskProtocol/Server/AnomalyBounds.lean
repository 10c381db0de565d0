import Mathlib.Algebra.GroupWithZero.Nat
import Mathlib.Algebra.Order.BigOperators.Group.Finset
import TskProtocol.Lib.Machine
import TskProtocol.Server.Anomaly

namespace TskProtocol

inductive AnomalyCall
  | record (event : SegmentFailureEvent) (now : Int)
  | score (clientId : JsString) (now : Int)
  | reset (clientId : JsString)

/-- The client whose failure is recorded has an id. -/
def AnomalyCall.Named : AnomalyCall → Prop
  | .record event _ => event.clientId ≠ []
  | .score _ _ | .reset _ => True

def MemoryAnomalyEngine.step (engine : MemoryAnomalyEngine) : AnomalyCall → MemoryAnomalyEngine
  | .record event now => engine.record event now
  | .score _ _ => engine
  | .reset clientId => engine.reset clientId

/-- Any calls at one engine. -/
def anomalyEngines : Machine MemoryAnomalyEngine AnomalyCall where
  step engine call := some (engine.step call)

namespace MemoryAnomalyEngine

/-- The pairs of an address and a client that the index by address holds. -/
def ipPairs (engine : MemoryAnomalyEngine) : Finset (JsString × JsString) :=
  engine.ipFailures.keys.toFinset.biUnion fun ip => (engine.clientsOf ip).image fun clientId => (ip, clientId)

def retainedEvents (engine : MemoryAnomalyEngine) : Nat := (engine.failures.entries.map (·.2.length)).sum

/-- What is kept of a client when an event of its is recorded. -/
def retained (engine : MemoryAnomalyEngine) (event : SegmentFailureEvent) (now : Int) : List SegmentFailureEvent :=
  trim engine.config now (engine.eventsOf event.clientId ++ [event])

/-- Trimming the events of a client leaves one from each of their addresses. -/
def Keeps (engine : MemoryAnomalyEngine) : AnomalyCall → Prop
  | .record event now => ∀ e ∈ engine.eventsOf event.clientId ++ [event], ∀ ip ∈ e.ip,
      ∃ e' ∈ engine.retained event now, e'.ip = some ip
  | _ => True

/-- The access order lists the tracked clients, and every pair of the index is one of them. -/
structure Tracks (engine : MemoryAnomalyEngine) : Prop where
  bounded : engine.failures.size ≤ engine.config.maxEntries
  nodup : engine.accessOrder.Nodup
  order : ∀ id, id ∈ engine.accessOrder ↔ engine.failures.has id = true
  named : ∀ id ∈ engine.accessOrder, id ≠ []
  index : ∀ ip, ∀ id ∈ engine.clientsOf ip, engine.failures.has id = true

/-- What keeps the engine bounded under ids and addresses that anyone may choose. -/
structure Bounded (maxEntries : Nat) (engine : MemoryAnomalyEngine) : Prop where
  tracked : engine.failures.size ≤ maxEntries
  nodup : engine.accessOrder.Nodup
  order : engine.accessOrder.Perm engine.failures.keys
  index : ∀ ip clients, engine.ipFailures.get? ip = some clients → ∀ id ∈ clients, engine.failures.has id = true
  pairs : engine.ipPairs.card ≤ engine.retainedEvents

/-- Every pair of the index comes from an event that is still there. -/
def Backed (engine : MemoryAnomalyEngine) : Prop :=
  ∀ ip, ∀ id ∈ engine.clientsOf ip, ∃ e ∈ engine.eventsOf id, e.ip = some ip

section Laws

variable {engine : MemoryAnomalyEngine} {clientId : JsString} {event : SegmentFailureEvent} {now : Int}

theorem clientsOf_forgetIn (ipFailures : OrderedMap JsString (Finset JsString)) (clientId ip : JsString) :
    ((forgetIn clientId ipFailures).get? ip).getD ∅ = ((ipFailures.get? ip).getD ∅).erase clientId := by
  cases hget : ipFailures.get? ip with
  | none =>
    have hnone : (forgetIn clientId ipFailures).get? ip = none := by
      rw [forgetIn, Option.eq_none_iff_forall_ne_some]
      intro clients h
      rw [OrderedMap.get?_filter, OrderedMap.get?_mapValues, hget] at h
      cases h.1
    simp [hnone]
  | some clients =>
    by_cases hempty : clients.erase clientId = ∅
    · have hnone : (forgetIn clientId ipFailures).get? ip = none := by
        rw [forgetIn, Option.eq_none_iff_forall_ne_some]
        intro clients' h
        rw [OrderedMap.get?_filter, OrderedMap.get?_mapValues, hget] at h
        obtain ⟨h, hcard⟩ := h
        obtain rfl := Option.some.inj h
        simp [hempty] at hcard
      simp [hnone, hempty]
    · have hsome : (forgetIn clientId ipFailures).get? ip = some (clients.erase clientId) := by
        rw [forgetIn, OrderedMap.get?_filter, OrderedMap.get?_mapValues, hget]
        exact ⟨rfl, by simpa using hempty⟩
      simp [hsome]

theorem clientsOf_reset (ip : JsString) : (engine.reset clientId).clientsOf ip = (engine.clientsOf ip).erase clientId :=
  clientsOf_forgetIn engine.ipFailures clientId ip

theorem eventsOf_reset (id : JsString) :
    (engine.reset clientId).eventsOf id = if clientId = id then [] else engine.eventsOf id := by
  simp only [eventsOf, reset, OrderedMap.get?_erase]
  split <;> rfl

theorem has_reset (id : JsString) :
    (engine.reset clientId).failures.has id = true ↔ clientId ≠ id ∧ engine.failures.has id = true := by
  simp only [reset, OrderedMap.has, OrderedMap.get?_erase]
  split
  · next heq => simp [heq]
  · next hne => simp [hne]

theorem Tracks.perm (h : engine.Tracks) : engine.accessOrder.Perm engine.failures.keys :=
  (List.perm_ext_iff_of_nodup h.nodup (OrderedMap.nodup_keys _)).mpr fun id => by rw [h.order, OrderedMap.mem_keys]

/-- An eviction resets the client at the head of the access order. -/
theorem makeRoom_cases (h : engine.Tracks) (hpositive : 0 < engine.config.maxEntries) (clientId : JsString) :
    (engine.makeRoom clientId = engine ∧
      (engine.failures.has clientId = true ∨ engine.failures.size < engine.config.maxEntries)) ∨
    ∃ lruKey, lruKey ≠ clientId ∧ engine.makeRoom clientId = engine.reset lruKey ∧
      engine.failures.has lruKey = true := by
  unfold makeRoom
  split
  · next hfull =>
    right
    have hlength : engine.failures.size = engine.accessOrder.length := by
      rw [OrderedMap.size_eq_length_keys, h.perm.length_eq]
    cases horder : engine.accessOrder with
    | nil =>
      rw [horder, List.length_nil] at hlength
      omega
    | cons lruKey rest =>
      have hmem : lruKey ∈ engine.accessOrder := by
        rw [horder]
        exact List.mem_cons_self
      have htracked := (h.order lruKey).mp hmem
      refine ⟨lruKey, ?_, ?_, htracked⟩
      · rintro rfl
        rw [htracked] at hfull
        cases hfull.1
      · simp only [evict, horder, if_neg (h.named lruKey hmem), reset, List.erase_cons_head]
  · next hroom =>
    refine .inl ⟨rfl, ?_⟩
    cases hhas : engine.failures.has clientId with
    | true => exact .inl rfl
    | false => exact .inr (by simpa [hhas] using hroom)

theorem Tracks.reset (h : engine.Tracks) (clientId : JsString) : (engine.reset clientId).Tracks where
  bounded := (OrderedMap.size_erase_le _ _).trans h.bounded
  nodup := h.nodup.erase clientId
  order id := by
    rw [has_reset]
    simp only [MemoryAnomalyEngine.reset, h.nodup.mem_erase_iff, h.order]
    exact and_congr_left' ne_comm
  named id hid := h.named id (List.mem_of_mem_erase hid)
  index ip id hid := by
    rw [clientsOf_reset, Finset.mem_erase] at hid
    exact (has_reset id).mpr ⟨hid.1.symm, h.index ip id hid.2⟩

theorem Backed.reset (h : engine.Backed) (clientId : JsString) : (engine.reset clientId).Backed := by
  intro ip id hid
  rw [clientsOf_reset, Finset.mem_erase] at hid
  rw [eventsOf_reset, if_neg hid.1.symm]
  exact h ip id hid.2

theorem has_record (hroom : engine.makeRoom event.clientId = engine) (id : JsString) :
    (engine.record event now).failures.has id = true ↔ event.clientId = id ∨ engine.failures.has id = true := by
  simp only [record, hroom, OrderedMap.has, OrderedMap.get?_set]
  split
  · next heq => simp [heq]
  · next hne => simp [hne]

theorem eventsOf_record (hroom : engine.makeRoom event.clientId = engine) (id : JsString) :
    (engine.record event now).eventsOf id =
      if event.clientId = id then engine.retained event now else engine.eventsOf id := by
  simp only [record, hroom, eventsOf, retained, OrderedMap.get?_set]
  split <;> rfl

theorem mem_clientsOf_record (hroom : engine.makeRoom event.clientId = engine) {ip id : JsString} :
    id ∈ (engine.record event now).clientsOf ip ↔
      (event.ip = some ip ∧ id = event.clientId) ∨ id ∈ engine.clientsOf ip := by
  simp only [record, hroom, clientsOf, recordIp]
  cases hip : event.ip with
  | none => simp
  | some ip' =>
    rw [OrderedMap.get?_set]
    split
    · next heq => simp [heq]
    · next hne => simp [hne]

/-- Recording where there is room. -/
theorem Tracks.recordThere (h : engine.Tracks) (hnamed : event.clientId ≠ [])
    (hroom : engine.makeRoom event.clientId = engine)
    (hsize : engine.failures.has event.clientId = true ∨ engine.failures.size < engine.config.maxEntries) :
    (engine.record event now).Tracks where
  bounded := by
    simp only [record, hroom, OrderedMap.size_set]
    split
    · exact h.bounded
    · next hnew =>
      have := hsize.resolve_left hnew
      omega
  nodup := by
    simp only [record, hroom]
    rw [List.nodup_append]
    refine ⟨h.nodup.erase _, List.nodup_singleton _, ?_⟩
    intro id hid id' hid' heq
    rw [List.mem_singleton] at hid'
    rw [h.nodup.mem_erase_iff] at hid
    exact hid.1 (heq.trans hid')
  order id := by
    rw [has_record hroom, ← h.order]
    simp only [record, hroom, List.mem_append, h.nodup.mem_erase_iff, List.mem_singleton]
    by_cases heq : id = event.clientId
    · simp [heq]
    · simp [heq, Ne.symm heq]
  named id hid := by
    simp only [record, hroom, List.mem_append, List.mem_singleton] at hid
    rcases hid with hid | rfl
    · exact h.named id (List.mem_of_mem_erase hid)
    · exact hnamed
  index ip id hid := by
    rw [has_record hroom]
    rcases (mem_clientsOf_record hroom).mp hid with ⟨-, rfl⟩ | hid
    · exact .inl rfl
    · exact .inr (h.index ip id hid)

theorem Backed.recordThere (h : engine.Backed) (hroom : engine.makeRoom event.clientId = engine)
    (hkeeps : ∀ e ∈ engine.eventsOf event.clientId ++ [event], ∀ ip ∈ e.ip,
      ∃ e' ∈ engine.retained event now, e'.ip = some ip) : (engine.record event now).Backed := by
  intro ip id hid
  rw [eventsOf_record hroom]
  rcases (mem_clientsOf_record hroom).mp hid with ⟨hip, rfl⟩ | hid
  · rw [if_pos rfl]
    exact hkeeps event (by simp) ip hip
  · obtain ⟨e, he, hip⟩ := h ip id hid
    split
    · next heq =>
      subst heq
      exact hkeeps e (List.mem_append_left _ he) ip hip
    · exact ⟨e, he, hip⟩

/-- Recording at capacity is recording where the evicted client has been reset. -/
theorem record_cases (h : engine.Tracks) (hpositive : 0 < engine.config.maxEntries) (event : SegmentFailureEvent)
    (now : Int) : ∃ there : MemoryAnomalyEngine, there.Tracks ∧ (engine.Backed → there.Backed) ∧
      there.config = engine.config ∧ there.makeRoom event.clientId = there ∧
      (there.failures.has event.clientId = true ∨ there.failures.size < there.config.maxEntries) ∧
      there.eventsOf event.clientId = engine.eventsOf event.clientId ∧
      engine.record event now = there.record event now := by
  rcases makeRoom_cases h hpositive event.clientId with ⟨hroom, hsize⟩ | ⟨lruKey, hne, hreset, htracked⟩
  · exact ⟨engine, h, id, rfl, hroom, hsize, rfl, rfl⟩
  · have hsize : (engine.reset lruKey).failures.size < (engine.reset lruKey).config.maxEntries := by
      have := OrderedMap.size_erase_of_has htracked
      have := h.bounded
      simp only [MemoryAnomalyEngine.reset]
      omega
    have hroom : (engine.reset lruKey).makeRoom event.clientId = engine.reset lruKey :=
      if_neg fun hfull => not_le.mpr hsize hfull.2
    refine ⟨engine.reset lruKey, h.reset lruKey, fun hbacked => hbacked.reset lruKey, rfl, hroom, .inr hsize, ?_, ?_⟩
    · rw [eventsOf_reset, if_neg hne]
    · simp only [record, hreset, hroom]

@[simp] theorem config_step (engine : MemoryAnomalyEngine) (hpositive : 0 < engine.config.maxEntries)
    (h : engine.Tracks) (call : AnomalyCall) : (engine.step call).config = engine.config := by
  cases call with
  | record event now =>
    obtain ⟨there, -, -, hconfig, hroom, -, -, hrecord⟩ := record_cases h hpositive event now
    rw [step, hrecord, ← hconfig]
    simp only [record, hroom]
  | score clientId now => rfl
  | reset clientId => rfl

/-- What every call keeps. -/
theorem Tracks.step (h : engine.Tracks) (hpositive : 0 < engine.config.maxEntries) {call : AnomalyCall}
    (hnamed : call.Named) : (engine.step call).Tracks := by
  cases call with
  | record event now =>
    obtain ⟨there, hthere, -, -, hroom, hsize, -, hrecord⟩ := record_cases h hpositive event now
    rw [MemoryAnomalyEngine.step, hrecord]
    exact hthere.recordThere hnamed hroom hsize
  | score clientId now => exact h
  | reset clientId => exact h.reset clientId

theorem Backed.step (h : engine.Backed) (htracks : engine.Tracks) (hpositive : 0 < engine.config.maxEntries)
    {call : AnomalyCall} (hkeeps : engine.Keeps call) : (engine.step call).Backed := by
  cases call with
  | record event now =>
    obtain ⟨there, -, hbacked, hconfig, hroom, -, hevents, hrecord⟩ := record_cases htracks hpositive event now
    rw [MemoryAnomalyEngine.step, hrecord]
    refine (hbacked h).recordThere hroom ?_
    rw [retained, hevents, hconfig]
    exact hkeeps
  | score clientId now => exact h
  | reset clientId => exact h.reset clientId

/-- There are no more pairs than events that they come from. -/
theorem Backed.card_ipPairs_le (h : engine.Backed) (htracks : engine.Tracks) :
    engine.ipPairs.card ≤ engine.retainedEvents := by
  have hsub : engine.ipPairs ⊆ engine.failures.keys.toFinset.biUnion fun id =>
      (((engine.eventsOf id).filterMap (·.ip)).toFinset).image fun ip => (ip, id) := by
    intro pair hpair
    simp only [ipPairs, Finset.mem_biUnion, Finset.mem_image, List.mem_toFinset] at hpair ⊢
    obtain ⟨ip, -, id, hid, rfl⟩ := hpair
    obtain ⟨e, he, hip⟩ := h ip id hid
    exact ⟨id, OrderedMap.mem_keys.mpr (htracks.index ip id hid), ip, List.mem_filterMap.mpr ⟨e, he, hip⟩, rfl⟩
  calc engine.ipPairs.card
      ≤ (engine.failures.keys.toFinset.biUnion fun id =>
          (((engine.eventsOf id).filterMap (·.ip)).toFinset).image fun ip => (ip, id)).card := Finset.card_le_card hsub
    _ ≤ ∑ id ∈ engine.failures.keys.toFinset,
          ((((engine.eventsOf id).filterMap (·.ip)).toFinset).image fun ip => (ip, id)).card := Finset.card_biUnion_le
    _ ≤ ∑ id ∈ engine.failures.keys.toFinset, (engine.eventsOf id).length :=
        Finset.sum_le_sum fun id _ => Finset.card_image_le.trans
          ((List.toFinset_card_le _).trans (List.length_filterMap_le _ _))
    _ = engine.retainedEvents := by
        rw [List.sum_toFinset _ (OrderedMap.nodup_keys _), OrderedMap.keys, List.map_map, retainedEvents]
        congr 1
        apply List.map_congr_left
        intro entry hentry
        simp only [Function.comp, eventsOf, OrderedMap.get?_eq_some.mpr hentry, Option.getD_some]

end Laws

end MemoryAnomalyEngine

section Runs

variable {config : AnomalyEngineConfig} {calls : List AnomalyCall} {engine : MemoryAnomalyEngine}

open MemoryAnomalyEngine

/-- In every run: the engine tracks at most so many clients, the access order enumerates them, and the index by
address holds no other. -/
theorem anomaly_tracked (hpositive : 0 < config.maxEntries)
    (hrun : anomalyEngines.Runs (fun _ call => call.Named) { config := config } calls engine) :
    engine.config = config ∧ engine.Tracks := by
  refine hrun.invariant (I := fun engine => engine.config = config ∧ engine.Tracks) ?_ ?_
  · rintro engine call after ⟨hconfig, htracks⟩ hnamed hstep
    obtain rfl := Option.some.inj hstep
    have hpositive' : 0 < engine.config.maxEntries := hconfig ▸ hpositive
    exact ⟨(config_step engine hpositive' htracks call).trans hconfig, htracks.step hpositive' hnamed⟩
  · refine ⟨rfl, Nat.zero_le _, List.nodup_nil, fun id => ?_, nofun, nofun⟩
    simp [OrderedMap.has]

/-- Where moreover trimming leaves an event from every address, the index holds no more pairs than events are
retained. -/
theorem anomaly_bounded (hpositive : 0 < config.maxEntries)
    (hrun : anomalyEngines.Runs (fun engine call => call.Named ∧ engine.Keeps call) { config := config } calls
      engine) : engine.Bounded config.maxEntries := by
  obtain ⟨hconfig, htracks⟩ := anomaly_tracked hpositive (hrun.mono fun _ _ h => h.1)
  have hbacked : engine.Backed := by
    refine (hrun.invariant (I := fun engine => (engine.config = config ∧ engine.Tracks) ∧ engine.Backed) ?_ ?_).2
    · rintro engine call after ⟨⟨hconfig, htracks⟩, hbacked⟩ ⟨hnamed, hkeeps⟩ hstep
      obtain rfl := Option.some.inj hstep
      have hpositive' : 0 < engine.config.maxEntries := hconfig ▸ hpositive
      exact ⟨⟨(config_step engine hpositive' htracks call).trans hconfig, htracks.step hpositive' hnamed⟩,
        hbacked.step htracks hpositive' hkeeps⟩
    · exact ⟨anomaly_tracked hpositive (.nil _), nofun⟩
  refine ⟨hconfig ▸ htracks.bounded, htracks.nodup, htracks.perm, ?_, hbacked.card_ipPairs_le htracks⟩
  intro ip clients hget id hid
  exact htracks.index ip id (by rwa [clientsOf, hget, Option.getD_some])

section Sample

instance (call : AnomalyCall) : Decidable call.Named :=
  match call with
  | .record event _ => inferInstanceAs (Decidable (event.clientId ≠ []))
  | .score _ _ | .reset _ => inferInstanceAs (Decidable True)

instance (engine : MemoryAnomalyEngine) (call : AnomalyCall) : Decidable (engine.Keeps call) :=
  match call with
  | .record event now => inferInstanceAs (Decidable (∀ e ∈ engine.eventsOf event.clientId ++ [event], ∀ ip ∈ e.ip,
      ∃ e' ∈ engine.retained event now, e'.ip = some ip))
  | .score _ _ | .reset _ => inferInstanceAs (Decidable True)

/-- A checksum failure of a client from an address. -/
def sampleFailure (clientId : String) (ip : String) (timestamp : Int) : SegmentFailureEvent :=
  ⟨JsString.lit clientId, timestamp, [], some .checksumInvalid, some (JsString.lit ip)⟩

/-- The second failure comes from another address, when the first has left the window. -/
def sampleRoaming : List AnomalyCall :=
  [.record (sampleFailure "tsk_a" "10.0.0.1" 0) 0, .record (sampleFailure "tsk_a" "10.0.0.2" 600000) 600000]

/-- A client that comes back to its address, one that is evicted, and one that is reset. -/
def sampleReturning : List AnomalyCall :=
  [.record (sampleFailure "tsk_b" "10.0.0.1" 0) 0, .record (sampleFailure "tsk_a" "10.0.0.1" 1) 1,
    .record (sampleFailure "tsk_a" "10.0.0.1" 600000) 600000, .record (sampleFailure "tsk_c" "10.0.0.2" 600001) 600001,
    .score (JsString.lit "tsk_a") 600002, .reset (JsString.lit "tsk_c")]

end Sample

/-- The index by address keeps a pair whose event the window has dropped. -/
theorem anomaly_exceeds : ¬ ∀ (config : AnomalyEngineConfig) (calls : List AnomalyCall) (engine : MemoryAnomalyEngine),
    0 < config.maxEntries → anomalyEngines.Runs (fun _ call => call.Named) { config := config } calls engine →
      engine.Bounded config.maxEntries := by
  intro h
  obtain ⟨engine, hrun, hcounts⟩ := Machine.Runs.of_observed (M := anomalyEngines) (C := fun _ call => call.Named)
    { config := {} } sampleRoaming (fun engine => (engine.ipPairs.card, engine.retainedEvents)) (b := (2, 1))
    (by decide +kernel)
  obtain ⟨hpairs, hevents⟩ := Prod.mk.inj hcounts
  have hle := (h {} sampleRoaming engine (by decide) hrun).pairs
  omega

theorem anomaly_bounded_sample : ∃ engine,
    anomalyEngines.Runs (fun engine call => call.Named ∧ engine.Keeps call) { config := { maxEntries := 2 } }
      sampleReturning engine ∧ engine.failures.size = 1 ∧ engine.Bounded 2 := by
  obtain ⟨engine, hrun, hsize⟩ := Machine.Runs.of_observed (M := anomalyEngines)
    (C := fun engine call => call.Named ∧ engine.Keeps call) { config := { maxEntries := 2 } } sampleReturning
    (fun engine => engine.failures.size) (b := 1) (by decide +kernel)
  exact ⟨engine, hrun, hsize, anomaly_bounded (by decide) hrun⟩

end Runs

end TskProtocol
