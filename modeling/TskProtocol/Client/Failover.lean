import Mathlib.Data.List.Induction
import Mathlib.Order.Basic
import TskProtocol.Js

namespace TskProtocol

structure FailoverConfig where
  primary : JsString
  replicas : List JsString := []
  healthPath : JsString := JsString.lit "/health"
  missThreshold : Nat := 3
  windowMs : Int := 15000

structure EndpointState where
  url : JsString
  healthy : Bool := true
  /-- Consecutive misses. -/
  streak : Nat := 0
  streakStartedAt : Option Int := none
  deriving DecidableEq, Repr

namespace EndpointState

def recordSuccess (ep : EndpointState) : EndpointState :=
  { ep with streak := 0, streakStartedAt := none, healthy := true }

/-- Misses that are older than the window begin a fresh streak. -/
def countMiss (config : FailoverConfig) (ep : EndpointState) (now : Int) : EndpointState :=
  if ep.streakStartedAt.all (fun start => config.windowMs < now - start) then
    { ep with streak := 1, streakStartedAt := some now }
  else { ep with streak := ep.streak + 1 }

def recordMiss (config : FailoverConfig) (ep : EndpointState) (now : Int) : EndpointState :=
  let counted := ep.countMiss config now
  if config.missThreshold ≤ counted.streak then { counted with healthy := false } else counted

end EndpointState

/-- What is recorded of an endpoint, by its place in the chain. -/
structure EndpointOutcome where
  endpoint : Nat
  missed : Bool
  time : Int
  deriving DecidableEq, Repr

def EndpointState.record (config : FailoverConfig) (ep : EndpointState) (outcome : EndpointOutcome) :
    EndpointState :=
  if outcome.missed then ep.recordMiss config outcome.time else ep.recordSuccess

/-- What a request comes back with: the status of a response, or nothing when it throws. -/
structure Fetched where
  status : Option Nat
  time : Int

structure FailoverTransport where
  config : FailoverConfig
  /-- The primary, and the replicas behind it. -/
  chain : List EndpointState

namespace FailoverTransport

def init (config : FailoverConfig) : FailoverTransport where
  config := config
  chain := (config.primary :: config.replicas).map fun url => { url }

def record (transport : FailoverTransport) (outcome : EndpointOutcome) : FailoverTransport :=
  { transport with chain := transport.chain.modify outcome.endpoint fun ep => ep.record transport.config outcome }

def after (transport : FailoverTransport) (outcomes : List EndpointOutcome) : FailoverTransport :=
  outcomes.foldl record transport

/-- The healthy endpoints of the chain are asked in order. -/
def readHealthy (transport : FailoverTransport) : List Nat → List Fetched →
    Option Nat × FailoverTransport × List Fetched
  | [], fetches => (none, transport, fetches)
  | i :: rest, fetches =>
    if (transport.chain[i]?.any fun ep => ep.healthy) = false then transport.readHealthy rest fetches
    else
      match fetches with
      | [] => (none, transport, [])
      | ⟨some status, now⟩ :: fetches => (some status, transport.record ⟨i, false, now⟩, fetches)
      | ⟨none, now⟩ :: fetches => (transport.record ⟨i, true, now⟩).readHealthy rest fetches

/-- Every endpoint is tried once as a last resort; a failure here is not recorded. -/
def readAny (transport : FailoverTransport) : List Nat → List Fetched → Option Nat × FailoverTransport
  | [], _ | _, [] => (none, transport)
  | i :: _, ⟨some status, now⟩ :: _ => (some status, transport.record ⟨i, false, now⟩)
  | _ :: rest, ⟨none, _⟩ :: fetches => transport.readAny rest fetches

def read (transport : FailoverTransport) (fetches : List Fetched) : Option Nat × FailoverTransport :=
  let places := List.range transport.chain.length
  match transport.readHealthy places fetches with
  | (some status, next, _) => (some status, next)
  | (none, next, fetches) => next.readAny places fetches

/-- Writes go to the primary alone, and not at all while it is unhealthy. -/
def write (transport : FailoverTransport) (fetched : Fetched) : Option Nat × FailoverTransport :=
  if (transport.chain[0]?.any fun ep => ep.healthy) = false then (none, transport)
  else (fetched.status, transport.record ⟨0, fetched.status.isNone, fetched.time⟩)

/-- `res.ok` is a status from 200 to 299. -/
def probe (transport : FailoverTransport) (i : Nat) (fetched : Fetched) : FailoverTransport :=
  transport.record ⟨i, !(fetched.status.any fun status => 200 ≤ status && status ≤ 299), fetched.time⟩

end FailoverTransport

section Windows

variable {config : FailoverConfig} {outcomes front : List EndpointOutcome} {next : EndpointOutcome}

/-- What is recorded of one endpoint. -/
def outcomesOf (i : Nat) (outcomes : List EndpointOutcome) : List EndpointOutcome :=
  outcomes.filter fun outcome => outcome.endpoint = i

def EndpointState.after (config : FailoverConfig) (ep : EndpointState) (outcomes : List EndpointOutcome) :
    EndpointState := outcomes.foldl (fun ep outcome => ep.record config outcome) ep

/-- The last `missThreshold` outcomes are misses, and all lie within one span of `windowMs`. -/
def EndsInBurst (config : FailoverConfig) (outcomes : List EndpointOutcome) : Prop :=
  ∃ front burst, outcomes = front ++ burst ∧ burst.length = config.missThreshold ∧
    (∀ outcome ∈ burst, outcome.missed = true) ∧
    ∀ outcome ∈ burst, ∀ outcome' ∈ burst, outcome'.time - outcome.time ≤ config.windowMs

/-- A miss that ends the window of a healthy endpoint comes more than a window after the miss before it. -/
def Aligned (config : FailoverConfig) (url : JsString) (front : List EndpointOutcome) (next : EndpointOutcome) :
    Prop :=
  next.missed = true → (EndpointState.after config { url } front).healthy = true →
    ∀ start ∈ (EndpointState.after config { url } front).streakStartedAt, config.windowMs < next.time - start →
      ∀ last ∈ front.getLast?, config.windowMs < next.time - last.time

def AllAligned (config : FailoverConfig) (url : JsString) (outcomes : List EndpointOutcome) : Prop :=
  ∀ front next, front ++ [next] <+: outcomes → Aligned config url front next

/-- What a healthy endpoint has counted: the misses at the end of its outcomes, from the beginning of the
window on.  Where the steps are aligned, no miss before these is in one window with the first of them. -/
structure Counted (config : FailoverConfig) (aligned : Prop) (ep : EndpointState)
    (front misses : List EndpointOutcome) : Prop where
  streak : misses.length = ep.streak
  below : ep.streak < config.missThreshold
  started : ep.streakStartedAt = misses.head?.map EndpointOutcome.time
  missed : ∀ outcome ∈ misses, outcome.missed = true
  gap : aligned → ∀ last ∈ front.getLast?, last.missed = true →
    ∃ first ∈ misses.head?, config.windowMs < first.time - last.time

namespace EndpointState

variable {ep : EndpointState} {url : JsString} {misses : List EndpointOutcome} {aligned aligned' : Prop}

theorem after_append (ep : EndpointState) (front back : List EndpointOutcome) :
    ep.after config (front ++ back) = (ep.after config front).after config back := List.foldl_append

theorem healthy_countMiss (ep : EndpointState) (now : Int) : (ep.countMiss config now).healthy = ep.healthy := by
  rw [countMiss]
  split_ifs <;> rfl

/-- An endpoint that a miss leaves healthy was healthy and is below the threshold. -/
theorem healthy_recordMiss {now : Int} (h : (ep.recordMiss config now).healthy = true) :
    ep.healthy = true ∧ ep.recordMiss config now = ep.countMiss config now ∧
      (ep.countMiss config now).streak < config.missThreshold := by
  by_cases hthreshold : config.missThreshold ≤ (ep.countMiss config now).streak
  · simp only [recordMiss, if_pos hthreshold, Bool.false_eq_true] at h
  · simp only [recordMiss, if_neg hthreshold] at h ⊢
    exact ⟨by rwa [healthy_countMiss] at h, trivial, Nat.lt_of_not_le hthreshold⟩

theorem after_singleton (ep : EndpointState) (next : EndpointOutcome) :
    ep.after config [next] = ep.record config next := rfl

/-- A step keeps the count. -/
theorem Counted.step (hthreshold : 0 < config.missThreshold)
    (hep : ep.healthy = true → Counted config aligned ep front misses)
    (haligned : aligned' → aligned ∧ (next.missed = true → ep.healthy = true → ∀ start ∈ ep.streakStartedAt,
      config.windowMs < next.time - start → ∀ last ∈ (front ++ misses).getLast?, config.windowMs < next.time - last.time))
    (h : (ep.record config next).healthy = true) :
    ∃ front' misses', front ++ misses ++ [next] = front' ++ misses' ∧
      Counted config aligned' (ep.record config next) front' misses' := by
  rw [record] at h ⊢
  split_ifs at h ⊢ with hmissed
  · obtain ⟨hhealthy, hrecord, hbelow⟩ := healthy_recordMiss h
    have hcounted := hep hhealthy
    rw [hrecord]
    rw [countMiss] at hbelow ⊢
    split_ifs at hbelow ⊢ with hfresh
    · -- a fresh streak: the misses before it are left behind
      refine ⟨front ++ misses, [next], rfl, rfl, hbelow, rfl, by simpa using hmissed, ?_⟩
      intro ha last hlast hlastMissed
      refine ⟨next, rfl, ?_⟩
      cases hstart : ep.streakStartedAt with
      | none =>
        -- no miss was counted, so the last outcome was none
        have hnil : misses = [] := by
          have := hcounted.started
          rw [hstart] at this
          simpa using this.symm
        subst hnil
        rw [List.append_nil] at hlast
        obtain ⟨first, hfirst, -⟩ := hcounted.gap (haligned ha).1 last hlast hlastMissed
        cases hfirst
      | some start =>
        rw [hstart] at hfresh
        exact (haligned ha).2 hmissed hhealthy start hstart (by simpa using hfresh) last hlast
    · -- the streak goes on
      have hne : misses ≠ [] := by
        rintro rfl
        rw [hcounted.started] at hfresh
        exact hfresh rfl
      have hhead : (misses ++ [next]).head? = misses.head? := by
        cases misses with
        | nil => exact (hne rfl).elim
        | cons => rfl
      refine ⟨front, misses ++ [next], List.append_assoc _ _ _, ?_, hbelow, ?_, ?_, ?_⟩
      · rw [List.length_append, List.length_singleton, hcounted.streak]
      · rw [hhead]
        exact hcounted.started
      · intro outcome houtcome
        rw [List.mem_append, List.mem_singleton] at houtcome
        rcases houtcome with houtcome | rfl
        · exact hcounted.missed outcome houtcome
        · exact hmissed
      · intro ha
        rw [hhead]
        exact hcounted.gap (haligned ha).1
  · refine ⟨front ++ misses ++ [next], [], (List.append_nil _).symm, rfl, hthreshold, rfl, by simp, ?_⟩
    intro _ last hlast hlastMissed
    rw [List.getLast?_append, List.getLast?_singleton, Option.some_or, Option.mem_some_iff] at hlast
    exact (hmissed (hlast ▸ hlastMissed)).elim

theorem counted_after (hthreshold : 0 < config.missThreshold) (url : JsString) (outcomes : List EndpointOutcome)
    (h : (EndpointState.after config { url } outcomes).healthy = true) :
    ∃ front misses, outcomes = front ++ misses ∧
      Counted config (AllAligned config url outcomes) (EndpointState.after config { url } outcomes) front misses := by
  induction outcomes using List.reverseRecOn with
  | nil => exact ⟨[], [], rfl, rfl, hthreshold, rfl, by simp, by simp⟩
  | append_singleton outcomes next ih =>
    rw [after_append, after_singleton] at h ⊢
    have hpre : AllAligned config url (outcomes ++ [next]) → AllAligned config url outcomes :=
      fun hall front next' hpre => hall front next' (hpre.trans (List.prefix_append _ _))
    by_cases hhealthy : (EndpointState.after config { url } outcomes).healthy = true
    · obtain ⟨front, misses, hsplit, hcounted⟩ := ih hhealthy
      obtain ⟨front', misses', hsplit', hcounted'⟩ := Counted.step hthreshold (fun _ => hcounted)
        (fun hall => ⟨hpre hall, hsplit ▸ hall outcomes next List.prefix_rfl⟩) h
      exact ⟨front', misses', by rw [← hsplit', hsplit], hcounted'⟩
    · have hnone : (EndpointState.after config { url } outcomes).healthy = true → Counted config
          (AllAligned config url outcomes) (EndpointState.after config { url } outcomes) outcomes [] :=
        fun hhealthy' => (hhealthy hhealthy').elim
      obtain ⟨front', misses', hsplit', hcounted'⟩ := Counted.step hthreshold hnone
        (fun hall => ⟨hpre hall, fun _ hhealthy' => (hhealthy hhealthy').elim⟩) h
      exact ⟨front', misses', by rw [← hsplit', List.append_nil], hcounted'⟩

/-- Where every step is aligned, a burst leaves the endpoint unhealthy. -/
theorem unhealthy_of_burst (hthreshold : 0 < config.missThreshold) (haligned : AllAligned config url outcomes)
    (hburst : EndsInBurst config outcomes) : (EndpointState.after config { url } outcomes).healthy = false := by
  by_contra hhealthy
  rw [Bool.not_eq_false] at hhealthy
  obtain ⟨front, misses, hsplit, hcounted⟩ := counted_after hthreshold url outcomes hhealthy
  obtain ⟨front', burst, hsplit', hlength, hmissed, hspan⟩ := hburst
  have hshort : misses.length < burst.length := by
    rw [hcounted.streak, hlength]
    exact hcounted.below
  -- the burst reaches back behind the counted misses, to one outside their window
  obtain ⟨rest, rfl, rfl⟩ : ∃ rest, front = front' ++ rest ∧ burst = rest ++ misses := by
    rcases List.append_eq_append_iff.mp (hsplit.symm.trans hsplit') with ⟨rest, hfront, hmisses⟩ | ⟨rest, hfront, hburst⟩
    · have := congrArg List.length hmisses
      rw [List.length_append] at this
      omega
    · exact ⟨rest, hfront, hburst⟩
  have hne : rest ≠ [] := by
    rintro rfl
    exact absurd hshort (by simp)
  have hlast : rest.getLast hne ∈ rest ++ misses := List.mem_append_left _ (List.getLast_mem hne)
  obtain ⟨first, hfirst, hgap⟩ := hcounted.gap haligned (rest.getLast hne)
    (by rw [List.getLast?_append, List.getLast?_eq_some_getLast hne]; rfl) (hmissed _ hlast)
  have hfirst : first ∈ rest ++ misses := List.mem_append_right _ (List.mem_of_head? hfirst)
  exact absurd (hspan _ hlast first hfirst) (Int.not_le.mpr hgap)

/-- Further misses at the moment that a streak began go on with it. -/
theorem after_replicate (hwindow : 0 ≤ config.windowMs) (hmissed : next.missed = true)
    (hstart : ep.streakStartedAt = some next.time) {k : Nat} (hk : ep.streak + k < config.missThreshold) :
    ep.after config (List.replicate k next) = { ep with streak := ep.streak + k } := by
  induction k generalizing ep with
  | zero => rfl
  | succ k ih =>
    have hcount : ep.countMiss config next.time = { ep with streak := ep.streak + 1 } := by
      rw [countMiss, if_neg]
      rw [hstart]
      simpa using hwindow
    have hrecord : ep.record config next = { ep with streak := ep.streak + 1 } := by
      rw [record, if_pos hmissed]
      simp only [recordMiss, hcount]
      rw [if_neg (by omega)]
    rw [List.replicate_succ, after, List.foldl_cons, ← after, hrecord, ih (by exact hstart) (by simp only; omega)]
    simp only [Nat.add_assoc, Nat.add_comm 1]

/-- After a step that is not aligned, misses at the same moment end in a burst that leaves the endpoint healthy. -/
theorem healthy_of_burst (hthreshold : 0 < config.missThreshold) (h : ¬ Aligned config url front next)
    (hclock : (front ++ [next]).Pairwise fun a b => a.time ≤ b.time) :
    ∃ k, EndsInBurst config (front ++ [next] ++ List.replicate k next) ∧
      (EndpointState.after config { url } (front ++ [next] ++ List.replicate k next)).healthy = true := by
  simp only [Aligned, not_forall] at h
  obtain ⟨hmissed, hhealthy, start, hstart, hexpired, last, hlast, hnear⟩ := h
  obtain ⟨before, misses, hsplit, hcounted⟩ := counted_after hthreshold url front hhealthy
  have hstart : (EndpointState.after config { url } front).streakStartedAt = some start := hstart
  have hne : misses ≠ [] := by
    rintro rfl
    rw [hcounted.started] at hstart
    cases hstart
  obtain ⟨rest, rfl⟩ : ∃ rest, front = rest ++ [last] := by
    obtain ⟨rest, hrest⟩ := List.getLast?_eq_some_iff.mp hlast
    exact ⟨rest, hrest⟩
  have hlastMissed : last.missed = true := by
    apply hcounted.missed
    have := congrArg List.getLast? hsplit
    rw [List.getLast?_append_of_ne_nil _ hne, List.getLast?_concat] at this
    exact List.mem_of_getLast? this.symm
  have hwindow : 0 ≤ config.windowMs ∧ last.time ≤ next.time := by
    have hlastTime : last.time ≤ next.time := by
      rw [List.append_assoc] at hclock
      exact List.rel_of_pairwise_cons (List.pairwise_append.mp hclock).2.1 (by simp)
    omega
  have hpos : 0 < misses.length := List.length_pos_of_ne_nil hne
  have hbelow := hcounted.below
  rw [← hcounted.streak] at hbelow
  -- the miss begins a fresh streak, whatever was counted before it
  have hfresh : EndpointState.after config { url } (rest ++ [last] ++ [next]) =
      { EndpointState.after config { url } (rest ++ [last]) with streak := 1, streakStartedAt := some next.time } := by
    rw [after_append, after_singleton, record, if_pos hmissed]
    simp only [recordMiss, countMiss, hstart, Option.all_some, decide_eq_true hexpired, if_true]
    rw [if_neg (by omega)]
  refine ⟨config.missThreshold - 2, ⟨rest, last :: next :: List.replicate (config.missThreshold - 2) next, by simp,
    by simp only [List.length_cons, List.length_replicate]; omega, ?_, ?_⟩, ?_⟩
  · intro outcome houtcome
    simp only [List.mem_cons, List.mem_replicate] at houtcome
    rcases houtcome with rfl | rfl | ⟨-, rfl⟩
    · exact hlastMissed
    · exact hmissed
    · exact hmissed
  · intro outcome houtcome outcome' houtcome'
    simp only [List.mem_cons, List.mem_replicate] at houtcome houtcome'
    rcases houtcome with rfl | rfl | ⟨-, rfl⟩ <;> rcases houtcome' with rfl | rfl | ⟨-, rfl⟩ <;> omega
  · rw [after_append, hfresh, after_replicate hwindow.1 hmissed rfl (by simp only; omega)]
    exact hhealthy

end EndpointState

theorem outcomesOf_cons (i : Nat) (outcome : EndpointOutcome) (outcomes : List EndpointOutcome) :
    outcomesOf i (outcome :: outcomes) =
      if outcome.endpoint = i then outcome :: outcomesOf i outcomes else outcomesOf i outcomes := by
  simp only [outcomesOf, List.filter_cons, decide_eq_true_eq]

namespace FailoverTransport

variable {transport : FailoverTransport} {i : Nat}

theorem config_after (transport : FailoverTransport) (outcomes : List EndpointOutcome) :
    (transport.after outcomes).config = transport.config := by
  induction outcomes generalizing transport with
  | nil => rfl
  | cons outcome outcomes ih => exact ih (transport.record outcome)

/-- An endpoint changes by its own outcomes alone. -/
theorem chain_after (transport : FailoverTransport) (outcomes : List EndpointOutcome) (i : Nat) :
    (transport.after outcomes).chain[i]? =
      transport.chain[i]?.map fun ep => ep.after transport.config (outcomesOf i outcomes) := by
  induction outcomes generalizing transport with
  | nil => cases h : transport.chain[i]? <;> exact h
  | cons outcome outcomes ih =>
    rw [after, List.foldl_cons, ← after, ih, record, List.getElem?_modify, outcomesOf_cons]
    by_cases hi : outcome.endpoint = i
    · simp only [hi, if_true]
      cases transport.chain[i]? <;> rfl
    · simp only [hi, if_false]
      cases transport.chain[i]? <;> rfl

theorem after_append (transport : FailoverTransport) (front back : List EndpointOutcome) :
    transport.after (front ++ back) = (transport.after front).after back := List.foldl_append

theorem readHealthy_records (transport : FailoverTransport) (places : List Nat) (fetches : List Fetched) :
    ∃ outcomes, (transport.readHealthy places fetches).2.1 = transport.after outcomes := by
  induction places generalizing transport fetches with
  | nil => exact ⟨[], rfl⟩
  | cons i rest ih =>
    unfold readHealthy
    split_ifs
    · exact ih transport fetches
    · rcases fetches with _ | ⟨⟨_ | status, now⟩, fetches⟩
      · exact ⟨[], rfl⟩
      · obtain ⟨outcomes, houtcomes⟩ := ih (transport.record ⟨i, true, now⟩) fetches
        exact ⟨⟨i, true, now⟩ :: outcomes, houtcomes⟩
      · exact ⟨[⟨i, false, now⟩], rfl⟩

theorem readAny_records (transport : FailoverTransport) (places : List Nat) (fetches : List Fetched) :
    ∃ outcomes, (transport.readAny places fetches).2 = transport.after outcomes := by
  induction places generalizing fetches with
  | nil => exact ⟨[], rfl⟩
  | cons i rest ih =>
    rcases fetches with _ | ⟨⟨_ | status, now⟩, fetches⟩
    · exact ⟨[], rfl⟩
    · exact ih fetches
    · exact ⟨[⟨i, false, now⟩], rfl⟩

/-- All that a read, a write or a probe does to the endpoints is to record outcomes. -/
theorem call_records (transport : FailoverTransport) (fetches : List Fetched) (fetched : Fetched) (i : Nat) :
    (∃ outcomes, (transport.read fetches).2 = transport.after outcomes) ∧
      (∃ outcomes, (transport.write fetched).2 = transport.after outcomes) ∧
      ∃ outcomes, transport.probe i fetched = transport.after outcomes := by
  refine ⟨?_, ?_, ⟨[_], rfl⟩⟩
  · obtain ⟨outcomes, houtcomes⟩ := transport.readHealthy_records (List.range transport.chain.length) fetches
    rw [read]
    split
    · next hread =>
      rw [hread] at houtcomes
      exact ⟨outcomes, houtcomes⟩
    · next next fetches hread =>
      rw [hread] at houtcomes
      obtain ⟨last, hlast⟩ := next.readAny_records (List.range transport.chain.length) fetches
      refine ⟨outcomes ++ last, ?_⟩
      rw [after_append, ← houtcomes, hlast]
  · rw [write]
    split_ifs
    · exact ⟨[], rfl⟩
    · exact ⟨[_], rfl⟩

end FailoverTransport

/-- An outcome of an endpoint stands behind those that were recorded before it. -/
theorem exists_prefix_of_outcomesOf {i : Nat} {outcomes front : List EndpointOutcome} {next : EndpointOutcome}
    (h : front ++ [next] <+: outcomesOf i outcomes) :
    ∃ before, before ++ [next] <+: outcomes ∧ outcomesOf i before = front ∧ next.endpoint = i := by
  obtain ⟨rest, hrest⟩ := h
  rw [List.append_assoc] at hrest
  obtain ⟨before, behind, rfl, hbefore, hbehind⟩ := List.filter_eq_append_iff.mp hrest.symm
  obtain ⟨others, tail, rfl, hothers, hnext, -⟩ := List.filter_eq_cons_iff.mp hbehind
  refine ⟨before ++ others, ⟨tail, by simp⟩, ?_, by simpa using hnext⟩
  rw [outcomesOf, List.filter_append, hbefore, List.filter_eq_nil_iff.mpr hothers, List.append_nil]

/-- Where the steps of an endpoint are aligned, it is unhealthy after every burst; after a step that is not, some
burst leaves it healthy. -/
theorem bursts_marked {i : Nat} {ep : EndpointState} (hthreshold : 0 < config.missThreshold)
    (hclock : outcomes.Pairwise fun a b => a.time ≤ b.time)
    (hep : (FailoverTransport.init config).chain[i]? = some ep) :
    (AllAligned config ep.url (outcomesOf i outcomes) →
      ∀ front, front <+: outcomes → EndsInBurst config (outcomesOf i front) →
        ∀ reached ∈ ((FailoverTransport.init config).after front).chain[i]?, reached.healthy = false) ∧
    (¬ AllAligned config ep.url (outcomesOf i outcomes) → ∃ front next k, front ++ [next] <+: outcomes ∧
      EndsInBurst config (outcomesOf i (front ++ [next] ++ List.replicate k next)) ∧
      ∃ reached ∈ ((FailoverTransport.init config).after (front ++ [next] ++ List.replicate k next)).chain[i]?,
        reached.healthy = true) := by
  have hfresh : ep = { url := ep.url } := by
    obtain ⟨url, -, rfl⟩ := List.mem_map.mp (List.mem_of_getElem? hep)
    rfl
  have hafter (front : List EndpointOutcome) : ((FailoverTransport.init config).after front).chain[i]? =
      some (EndpointState.after config { url := ep.url } (outcomesOf i front)) := by
    rw [FailoverTransport.chain_after, hep, Option.map_some, ← hfresh]
    rfl
  constructor
  · intro haligned front hfront hburst reached hreached
    rw [hafter, Option.mem_some_iff] at hreached
    rw [← hreached]
    apply EndpointState.unhealthy_of_burst hthreshold _ hburst
    exact fun before next hpre => haligned before next (hpre.trans (hfront.filter _))
  · intro haligned
    simp only [AllAligned, not_forall] at haligned
    obtain ⟨front, next, hpre, haligned⟩ := haligned
    obtain ⟨before, hbefore, rfl, hnext⟩ := exists_prefix_of_outcomesOf hpre
    have hof (k : Nat) : outcomesOf i (before ++ [next] ++ List.replicate k next) =
        outcomesOf i before ++ [next] ++ List.replicate k next := by
      simp [outcomesOf, hnext]
    obtain ⟨k, hburst, hhealthy⟩ := EndpointState.healthy_of_burst hthreshold haligned
      (hclock.sublist (hpre.sublist.trans List.filter_sublist))
    refine ⟨before, next, k, hbefore, by rwa [hof], _, by rw [hafter, hof, Option.mem_some_iff], hhealthy⟩

end Windows

def sampleFailover : FailoverConfig where
  primary := JsString.lit "https://a"

/-- The third miss ends the window of the first and begins a fresh streak. -/
def sampleMisses : List EndpointOutcome := [⟨0, true, 0⟩, ⟨0, true, 14000⟩, ⟨0, true, 16000⟩]

theorem sampleMisses_not_aligned :
    ¬ AllAligned sampleFailover sampleFailover.primary (outcomesOf 0 sampleMisses) := by
  intro h
  have haligned := h [⟨0, true, 0⟩, ⟨0, true, 14000⟩] ⟨0, true, 16000⟩ (by decide)
  exact absurd (haligned rfl rfl 0 rfl (by decide) _ rfl) (by decide)

theorem bursts_marked_sample : ∃ front next k, front ++ [next] <+: sampleMisses ∧
    EndsInBurst sampleFailover (outcomesOf 0 (front ++ [next] ++ List.replicate k next)) ∧
      ∃ reached ∈ ((FailoverTransport.init sampleFailover).after
        (front ++ [next] ++ List.replicate k next)).chain[0]?, reached.healthy = true :=
  (bursts_marked (by decide) (by decide) rfl).2 sampleMisses_not_aligned

/-- Three misses within three seconds leave an endpoint healthy. -/
theorem burst_unmarked : ¬ ∀ (config : FailoverConfig) (outcomes : List EndpointOutcome) (i : Nat),
    0 < config.missThreshold → outcomes.Pairwise (fun a b => a.time ≤ b.time) →
    EndsInBurst config (outcomesOf i outcomes) →
    ∀ reached ∈ ((FailoverTransport.init config).after outcomes).chain[i]?, reached.healthy = false := by
  intro h
  have hburst : EndsInBurst sampleFailover (outcomesOf 0 (sampleMisses ++ [⟨0, true, 17000⟩])) :=
    ⟨[⟨0, true, 0⟩], [⟨0, true, 14000⟩, ⟨0, true, 16000⟩, ⟨0, true, 17000⟩], by decide, rfl, by decide, by decide⟩
  exact absurd (h sampleFailover (sampleMisses ++ [⟨0, true, 17000⟩]) 0 (by decide) (by decide) hburst _ rfl)
    (by decide)

end TskProtocol
