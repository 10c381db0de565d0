import TskProtocol.Server.AnomalyBounds

namespace TskProtocol

/-- The events of a history. -/
def recorded (calls : List AnomalyCall) : List SegmentFailureEvent :=
  calls.filterMap fun call => match call with
    | .record event _ => some event
    | .score _ _ | .reset _ => none

/-- The events inside the scoring window of a time. -/
def scoringWindow (config : AnomalyEngineConfig) (now : Int) (events : List SegmentFailureEvent) :
    List SegmentFailureEvent := events.filter (fun e => now - config.windowMs < e.timestamp)

/-- The clients that have failed from an address. -/
def failedFrom (events : List SegmentFailureEvent) (ip : JsString) : Finset JsString :=
  ((events.filter (·.ip = some ip)).map (·.clientId)).toFinset

/-- The first address, of the client's events inside the window, from which five clients have ever failed, and
how many have. -/
def sharedIp (config : AnomalyEngineConfig) (events : List SegmentFailureEvent) (clientId : JsString) (now : Int) :
    Option (JsString × Nat) :=
  distributedIp (failedFrom events) ((scoringWindow config now events).filter (·.clientId = clientId))

namespace MemoryAnomalyEngine

/-- A call by a time that evicts nothing: no client, no event of a client, and nothing is reset. -/
def EvictsNothing (time : Int) (engine : MemoryAnomalyEngine) : AnomalyCall → Prop
  | .record event now => now ≤ time ∧
    (engine.failures.has event.clientId = true ∨ engine.failures.size < engine.config.maxEntries) ∧
    (scoringWindow engine.config now (engine.eventsOf event.clientId ++ [event])).length ≤
      engine.config.maxEventsPerClient
  | .score _ _ => True
  | .reset _ => False

/-- What the engine remembers of a history in which nothing is evicted: the window, and every address. -/
structure Remembers (config : AnomalyEngineConfig) (time : Int) (events : List SegmentFailureEvent)
    (engine : MemoryAnomalyEngine) : Prop where
  configured : engine.config = config
  window : ∀ id, scoringWindow config time (engine.eventsOf id) =
    (scoringWindow config time events).filter (·.clientId = id)
  index : ∀ ip, engine.clientsOf ip = failedFrom events ip

section Laws

variable {engine : MemoryAnomalyEngine} {config : AnomalyEngineConfig} {time now : Int}
  {event : SegmentFailureEvent} {calls : List AnomalyCall}

theorem distributedScore_injective {shared shared' : Option (JsString × Nat)}
    (h : (distributedScore shared).2 = (distributedScore shared').2) : shared = shared' := by
  cases shared with
  | none =>
    cases shared' with
    | none => rfl
    | some shared' => cases h
  | some shared =>
    cases shared' with
    | none => cases h
    | some shared' =>
      obtain ⟨hip, hclients⟩ := AnomalyReason.distributed.inj (List.singleton_inj.mp h)
      rw [Prod.ext hip hclients]

theorem scoreEvents_inj {events : List SegmentFailureEvent} (hne : events ≠ []) {shared shared' : Option (JsString × Nat)} :
    scoreEvents config events shared = scoreEvents config events shared' ↔ shared = shared' := by
  refine ⟨fun h => ?_, congrArg _⟩
  rw [scoreEvents, scoreEvents, if_neg hne, if_neg hne] at h
  exact distributedScore_injective (List.append_cancel_left (AnomalyScore.mk.inj h).2.2)

theorem makeRoom_eq (h : engine.EvictsNothing time (.record event now)) :
    engine.makeRoom event.clientId = engine := by
  apply if_neg
  rintro ⟨hnew, hfull⟩
  rcases h.2.1 with hhas | hlt
  · rw [hnew] at hhas
    cases hhas
  · omega

theorem record_eq (h : engine.EvictsNothing time (.record event now)) : engine.record event now = { engine with
    accessOrder := engine.accessOrder.erase event.clientId ++ [event.clientId]
    failures := engine.failures.set event.clientId
      (scoringWindow engine.config now (engine.eventsOf event.clientId ++ [event]))
    ipFailures := engine.recordIp event } := by
  have hmakeRoom := makeRoom_eq h
  have htrim : trim engine.config now (engine.eventsOf event.clientId ++ [event]) =
      scoringWindow engine.config now (engine.eventsOf event.clientId ++ [event]) := if_neg (not_lt.mpr h.2.2)
  simp only [record, hmakeRoom, htrim]

/-- A later window looks only at what an earlier one has left. -/
theorem scoringWindow_scoringWindow (h : now ≤ time) (events : List SegmentFailureEvent) :
    scoringWindow config time (scoringWindow config now events) = scoringWindow config time events := by
  rw [scoringWindow, scoringWindow, List.filter_filter]
  apply List.filter_congr
  intro e _
  by_cases hin : time - config.windowMs < e.timestamp
  · have : now - config.windowMs < e.timestamp := by omega
    simp [hin, this]
  · simp [hin]

theorem Remembers.record {events : List SegmentFailureEvent} (h : engine.Remembers config time events)
    (hcall : engine.EvictsNothing time (.record event now)) :
    (engine.record event now).Remembers config time (events ++ [event]) := by
  have hrecord := record_eq hcall
  refine ⟨?_, fun id => ?_, fun ip => ?_⟩
  · rw [hrecord]
    exact h.configured
  · have hsplit : (scoringWindow config time (events ++ [event])).filter (·.clientId = id) =
        (scoringWindow config time events).filter (·.clientId = id) ++
          (scoringWindow config time [event]).filter (·.clientId = id) := by
      simp only [scoringWindow, List.filter_append]
    rw [hsplit, ← h.window id, hrecord]
    simp only [eventsOf, OrderedMap.get?_set]
    split
    · next heq =>
      subst heq
      simp only [Option.getD_some]
      rw [h.configured, scoringWindow_scoringWindow hcall.1]
      simp only [scoringWindow, List.filter_append, List.append_cancel_left_eq]
      refine (List.filter_eq_self.mpr fun e he => ?_).symm
      rw [List.mem_singleton.mp (List.mem_of_mem_filter he), decide_eq_true rfl]
    · next hne =>
      have hother : (scoringWindow config time [event]).filter (·.clientId = id) = [] := by
        apply List.filter_eq_nil_iff.mpr
        intro e he
        rw [List.mem_singleton.mp (List.mem_of_mem_filter he)]
        simpa using hne
      rw [hother, List.append_nil]
  · apply Finset.ext
    intro id
    rw [mem_clientsOf_record (makeRoom_eq hcall), h.index ip]
    simp only [failedFrom, List.filter_append, List.map_append, List.toFinset_append, Finset.mem_union]
    by_cases hip : event.ip = some ip
    · simp [hip, or_comm]
    · simp [hip]

theorem remembers_of_runs
    (hrun : anomalyEngines.Runs (EvictsNothing time) { config := config } calls engine) :
    engine.Remembers config time (recorded calls) := by
  induction hrun with
  | nil => exact ⟨rfl, fun _ => rfl, fun _ => rfl⟩
  | @snoc engine after calls call hrun hcall hstep hbefore =>
    obtain rfl := Option.some.inj hstep
    have hsplit : recorded (calls ++ [call]) = recorded calls ++ recorded [call] := List.filterMap_append
    rw [hsplit]
    cases call with
    | record event now => exact hbefore.record hcall
    | score clientId now =>
      have hnone : recorded [.score clientId now] = [] := rfl
      rw [hnone, List.append_nil]
      exact hbefore
    | reset clientId => exact hcall.elim

theorem Remembers.score_eq {events : List SegmentFailureEvent} (h : engine.Remembers config time events)
    (clientId : JsString) : engine.score clientId time =
      scoreEvents config ((scoringWindow config time events).filter (·.clientId = clientId))
        (sharedIp config events clientId time) := by
  have hwindow := h.window clientId
  have hindex : engine.clientsOf = failedFrom events := funext h.index
  simp only [score, h.configured, hindex, sharedIp, ← hwindow]
  rfl

end Laws

end MemoryAnomalyEngine

section Window

variable {config : AnomalyEngineConfig} {time : Int} {calls calls' : List AnomalyCall}
  {engine engine' : MemoryAnomalyEngine}

open MemoryAnomalyEngine

/-- Two histories with the same events inside the window give a client the same score exactly where the addresses
of its events there are shared alike, which older events decide too. -/
theorem score_of_window (hrun : anomalyEngines.Runs (EvictsNothing time) { config := config } calls engine)
    (hrun' : anomalyEngines.Runs (EvictsNothing time) { config := config } calls' engine')
    (hwindow : scoringWindow config time (recorded calls) = scoringWindow config time (recorded calls'))
    (clientId : JsString) : engine.score clientId time = engine'.score clientId time ↔
      sharedIp config (recorded calls) clientId time = sharedIp config (recorded calls') clientId time := by
  rw [(remembers_of_runs hrun).score_eq, (remembers_of_runs hrun').score_eq, hwindow]
  by_cases hnone : (scoringWindow config time (recorded calls')).filter (·.clientId = clientId) = []
  · simp [scoreEvents, sharedIp, distributedIp, hwindow, hnone]
  · exact scoreEvents_inj hnone

section Sample

instance (time : Int) (engine : MemoryAnomalyEngine) (call : AnomalyCall) :
    Decidable (engine.EvictsNothing time call) :=
  match call with
  | .record _ _ => inferInstanceAs (Decidable (_ ∧ _ ∧ _))
  | .score _ _ => inferInstanceAs (Decidable True)
  | .reset _ => inferInstanceAs (Decidable False)

/-- One failure, after four of other clients from the same address that have left the window. -/
def sampleOldFailures : List AnomalyCall :=
  [.record (sampleFailure "tsk_b" "10.0.0.1" 0) 0, .record (sampleFailure "tsk_c" "10.0.0.1" 0) 0,
    .record (sampleFailure "tsk_d" "10.0.0.1" 0) 0, .record (sampleFailure "tsk_e" "10.0.0.1" 0) 0,
    .record (sampleFailure "tsk_a" "10.0.0.1" 600000) 600000]

def sampleLastFailure : List AnomalyCall := [.record (sampleFailure "tsk_a" "10.0.0.1" 600000) 600000]

/-- Two other clients from the same address, and the last failure. -/
def sampleFewFailures : List AnomalyCall :=
  [.record (sampleFailure "tsk_b" "10.0.0.1" 0) 0, .record (sampleFailure "tsk_c" "10.0.0.1" 0) 0,
    .record (sampleFailure "tsk_a" "10.0.0.1" 600000) 600000]

end Sample

/-- Failures that have left the window make one of five clients from one address. -/
theorem score_of_older : ¬ ∀ (config : AnomalyEngineConfig) (time : Int) (calls calls' : List AnomalyCall)
    (engine engine' : MemoryAnomalyEngine) (clientId : JsString),
    anomalyEngines.Runs (EvictsNothing time) { config := config } calls engine →
    anomalyEngines.Runs (EvictsNothing time) { config := config } calls' engine' →
    scoringWindow config time (recorded calls) = scoringWindow config time (recorded calls') →
    engine.score clientId time = engine'.score clientId time := by
  intro h
  obtain ⟨engine, hrun, hscore⟩ := Machine.Runs.of_observed (M := anomalyEngines) (C := EvictsNothing 600000)
    { config := {} } sampleOldFailures (fun engine => (engine.score (JsString.lit "tsk_a") 600000).score) (b := 25)
    (by decide +kernel)
  obtain ⟨engine', hrun', hscore'⟩ := Machine.Runs.of_observed (M := anomalyEngines) (C := EvictsNothing 600000)
    { config := {} } sampleLastFailure (fun engine => (engine.score (JsString.lit "tsk_a") 600000).score) (b := 0)
    (by decide +kernel)
  have hsame := h {} 600000 sampleOldFailures sampleLastFailure engine engine' (JsString.lit "tsk_a") hrun hrun'
    (by decide)
  rw [hsame, hscore'] at hscore
  cases hscore

theorem score_of_window_sample : ∃ engine engine',
    anomalyEngines.Runs (EvictsNothing 600000) { config := {} } sampleFewFailures engine ∧
    anomalyEngines.Runs (EvictsNothing 600000) { config := {} } sampleLastFailure engine' ∧
    engine.score (JsString.lit "tsk_a") 600000 = engine'.score (JsString.lit "tsk_a") 600000 := by
  obtain ⟨engine, hrun, -⟩ := Machine.Runs.of_observed (M := anomalyEngines) (C := EvictsNothing 600000)
    { config := {} } sampleFewFailures (fun _ => true) (b := true) (by decide +kernel)
  obtain ⟨engine', hrun', -⟩ := Machine.Runs.of_observed (M := anomalyEngines) (C := EvictsNothing 600000)
    { config := {} } sampleLastFailure (fun _ => true) (b := true) (by decide +kernel)
  exact ⟨engine, engine', hrun, hrun',
    (score_of_window hrun hrun' (by decide) (JsString.lit "tsk_a")).mpr (by decide +kernel)⟩

end Window

end TskProtocol
