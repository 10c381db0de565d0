import TskProtocol.Lib.Machine
import TskProtocol.Lib.OrderedMap
import TskProtocol.Outbox.Handler

namespace TskProtocol

/-- What the two clocks read: the application's in milliseconds, the database's in microseconds. -/
structure Clocks where
  app : Int
  db : Int

/-- The nonces seen, each with the time at which it expires. -/
abbrev NonceRows := OrderedMap JsString Int

namespace ReplayNonceStore

variable (store : ReplayNonceStore)

/-- The clock that expiry is counted on. -/
def now (clocks : Clocks) : Int :=
  match store with
  | .memory _ => clocks.app
  | .pg _ _ => clocks.db

/-- How many units of that clock a millisecond has. -/
def unit : Int :=
  match store with
  | .memory _ => 1
  | .pg _ _ => 1000

/-- `exp <= t` here, `expires_at < now()` there. -/
def expired (expires now : Int) : Bool :=
  match store with
  | .memory _ => expires ≤ now
  | .pg _ _ => expires < now

/-- The loop of the memory store, and the `DELETE` of the other. -/
def prune (clocks : Clocks) (rows : NonceRows) : NonceRows :=
  rows.filter fun _ expires => !store.expired expires (store.now clocks)

/-- Whether the nonce is new, and the rows with it. -/
def insert (clocks : Clocks) (nonce : JsString) (rows : NonceRows) : Bool × NonceRows :=
  if rows.has nonce then (false, rows)
  else (true, rows.set nonce (store.now clocks + store.unit * store.retentionMs))

end ReplayNonceStore

def MemoryReplayNonceStore.checkAndStore (retentionMs : PosInt) (clocks : Clocks) (nonce : JsString)
    (seen : NonceRows) : Bool × NonceRows :=
  ReplayNonceStore.insert (.memory retentionMs) clocks nonce
    (ReplayNonceStore.prune (.memory retentionMs) clocks seen)

/-- `extract(epoch from now()) * 1000`, rounded to the nearest integer. -/
def dbNowMs (db : Int) : Int := if 0 ≤ db then (db + 500) / 1000 else -((500 - db) / 1000)

/-- What is left to do of a `checkAndStore` call: all of it, or of the database store what follows its
first or its second statement. -/
inductive NonceStage
  | checked | compared | pruned | done
  deriving DecidableEq

/-- A request on its way from the check of its timestamp to the nonce store. -/
structure NonceFlight where
  request : SignedRequest
  checkedAt : Int
  stage : NonceStage

/-- The handler with all the requests it is working on, and those that passed the nonce store. -/
structure NonceState where
  clocks : Clocks
  rows : NonceRows
  flights : List NonceFlight := []
  processed : List SignedRequest := []

/-- A request comes in, a call takes its next step, or expired nonces are pruned on behalf of a request
of another process. -/
inductive NonceEvent
  | arrive (req : HttpRequest)
  | advance (flight : Nat)
  | prune

structure NonceLabel where
  clocks : Clocks
  event : NonceEvent

namespace NonceState

def setFlight (st : NonceState) (i : Nat) (flight : NonceFlight) : NonceState :=
  { st with flights := st.flights.set i flight }

/-- `checkAndStore` returns, and the handler goes on only with a new nonce. -/
def answer (st : NonceState) (i : Nat) (flight : NonceFlight) (stored : Bool × NonceRows) : NonceState :=
  { st with
    rows := stored.2
    flights := st.flights.set i { flight with stage := .done }
    processed := if stored.1 then st.processed ++ [flight.request] else st.processed }

def advance (store : ReplayNonceStore) (st : NonceState) (i : Nat) (flight : NonceFlight) :
    Option NonceState :=
  match store, flight.stage with
  | .memory retentionMs, .checked => some (st.answer i flight
      (MemoryReplayNonceStore.checkAndStore retentionMs st.clocks flight.request.nonce st.rows))
  | .pg _ maxClockSkewMs, .checked =>
    if maxClockSkewMs.1 < |dbNowMs st.clocks.db - st.clocks.app| then
      some (st.setFlight i { flight with stage := .done })
    else some (st.setFlight i { flight with stage := .compared })
  | .pg _ _, .compared => some ({ st with rows := store.prune st.clocks st.rows }.setFlight i
      { flight with stage := .pruned })
  | .pg _ _, .pruned =>
    some (st.answer i flight (store.insert st.clocks flight.request.nonce st.rows))
  | _, _ => none

def apply (H : HmacBytes) (D : Sha256Bytes) (receiver : HttpOutboxReceiver) (st : NonceState) :
    NonceEvent → Option NonceState
  | .arrive req =>
    match authenticate H D receiver st.clocks.app req with
    | .error _ => some st
    | .ok request => some { st with flights := st.flights ++ [⟨request, st.clocks.app, .checked⟩] }
  | .advance i => st.flights[i]?.bind (st.advance receiver.nonceStore i)
  | .prune => some { st with rows := receiver.nonceStore.prune st.clocks st.rows }

end NonceState

def nonceMachine (H : HmacBytes) (D : Sha256Bytes) (receiver : HttpOutboxReceiver) :
    Machine NonceState NonceLabel where
  step st l := { st with clocks := l.clocks }.apply H D receiver l.event

/-- The clocks differ by no more than the store was told. -/
def ReplayNonceStore.WithinSkew (store : ReplayNonceStore) (clocks : Clocks) : Prop :=
  match store with
  | .memory _ => True
  | .pg _ maxClockSkewMs => |1000 * clocks.app - clocks.db| ≤ 1000 * maxClockSkewMs.1

/-- No clock runs backwards. -/
def NonceState.Forward (st : NonceState) (l : NonceLabel) : Prop :=
  st.clocks.app ≤ l.clocks.app ∧ st.clocks.db ≤ l.clocks.db

/-- The step of `checkAndStore` that prunes. -/
def ReplayNonceStore.prunesAt (store : ReplayNonceStore) (stage : NonceStage) : Bool :=
  match store with
  | .memory _ => stage = .checked
  | .pg _ _ => stage = .compared

/-- The step of `checkAndStore` that stores the nonce. -/
def ReplayNonceStore.storesAt (store : ReplayNonceStore) (stage : NonceStage) : Bool :=
  match store with
  | .memory _ => stage = .checked
  | .pg _ _ => stage = .pruned

/-- The call that takes a step. -/
def NonceState.advanced (st : NonceState) : NonceEvent → Option NonceFlight
  | .advance i => st.flights[i]?
  | .arrive _ | .prune => none

/-- The call prunes within the safety margin of the check of the timestamp. -/
def NonceState.PrunesInTime (receiver : HttpOutboxReceiver) (st : NonceState) (l : NonceLabel) : Prop :=
  ∀ flight ∈ st.advanced l.event, receiver.nonceStore.prunesAt flight.stage = true →
    l.clocks.app - flight.checkedAt ≤ receiver.nonceSafetyMs.1

/-- A delay within the safety margin; of the retention of the memory store some must be left. -/
def HttpOutboxReceiver.InTime (receiver : HttpOutboxReceiver) (delay : Int) : Prop :=
  delay ≤ receiver.nonceSafetyMs.1 ∧
    match receiver.nonceStore with
    | .memory retentionMs => 2 * receiver.freshnessMs.1 + delay < retentionMs.1
    | .pg _ _ => True

/-- The call stores its nonce in time after the check of the timestamp. -/
def NonceState.StoresInTime (receiver : HttpOutboxReceiver) (st : NonceState) (l : NonceLabel) : Prop :=
  ∀ flight ∈ st.advanced l.event, receiver.nonceStore.storesAt flight.stage = true →
    receiver.InTime (l.clocks.app - flight.checkedAt)

/-- No two of the requests are one signed request. -/
def NoReplay (processed : List SignedRequest) : Prop :=
  processed.Pairwise fun a b =>
    ¬ (a.keyId = b.keyId ∧ a.nonce = b.nonce ∧ a.ts = b.ts ∧ a.body = b.body)

namespace ReplayNonceStore

variable {store : ReplayNonceStore}

theorem expired_mono {expires expires' now now' : Int} (h : store.expired expires now = true)
    (hexpires : expires' ≤ expires) (hnow : now ≤ now') : store.expired expires' now' = true := by
  cases store with
  | memory _ =>
    simp only [expired, decide_eq_true_eq] at h ⊢
    omega
  | pg _ _ =>
    simp only [expired, decide_eq_true_eq] at h ⊢
    omega

theorem now_mono {clocks clocks' : Clocks} (happ : clocks.app ≤ clocks'.app)
    (hdb : clocks.db ≤ clocks'.db) : store.now clocks ≤ store.now clocks' := by
  cases store with
  | memory _ => exact happ
  | pg _ _ => exact hdb

end ReplayNonceStore

namespace HttpOutboxReceiver

variable {receiver : HttpOutboxReceiver} {clocks : Clocks} {flight : NonceFlight}

/-- No nonce of a fresh request expires before this. -/
def floor (receiver : HttpOutboxReceiver) (request : SignedRequest) : Int :=
  receiver.nonceStore.unit * (request.time - receiver.freshnessMs.1 - receiver.nonceStore.maxClockSkewMs +
    receiver.nonceStore.retentionMs)

/-- What the check of the timestamp leaves behind. -/
structure Checked (receiver : HttpOutboxReceiver) (clocks : Clocks) (flight : NonceFlight) : Prop where
  read : flight.request.ts.toSafeInteger = some flight.request.time
  fresh : |flight.checkedAt - flight.request.time| ≤ receiver.freshnessMs.1
  past : flight.checkedAt ≤ clocks.app

theorem Checked.later {clocks' : Clocks} (h : receiver.Checked clocks flight)
    (happ : clocks.app ≤ clocks'.app) : receiver.Checked clocks' flight :=
  ⟨h.read, h.fresh, Int.le_trans h.past happ⟩

/-- A nonce stored now is kept long enough. -/
theorem Checked.floor_le (h : receiver.Checked clocks flight)
    (hskew : receiver.nonceStore.WithinSkew clocks) : receiver.floor flight.request ≤
      receiver.nonceStore.now clocks + receiver.nonceStore.unit * receiver.nonceStore.retentionMs := by
  obtain ⟨hlate, -⟩ := abs_le.mp h.fresh
  have hpast := h.past
  unfold floor
  cases hstore : receiver.nonceStore with
  | memory retentionMs =>
    simp only [ReplayNonceStore.unit, ReplayNonceStore.now, ReplayNonceStore.maxClockSkewMs]
    omega
  | pg retentionMs maxClockSkewMs =>
    rw [hstore] at hskew
    obtain ⟨-, hdb⟩ := abs_le.mp hskew
    simp only [ReplayNonceStore.unit, ReplayNonceStore.now, ReplayNonceStore.maxClockSkewMs]
    omega

/-- Where a call is about to store its nonce in time, the nonce of the same request from before is
still there. -/
theorem Checked.not_expired (h : receiver.Checked clocks flight)
    (hskew : receiver.nonceStore.WithinSkew clocks)
    (hdelay : receiver.InTime (clocks.app - flight.checkedAt)) :
    receiver.nonceStore.expired (receiver.floor flight.request) (receiver.nonceStore.now clocks) = false := by
  obtain ⟨-, hearly⟩ := abs_le.mp h.fresh
  obtain ⟨hsafety, hretention⟩ := hdelay
  have hhorizon := receiver.horizon
  unfold floor
  cases hstore : receiver.nonceStore with
  | memory retentionMs =>
    rw [hstore] at hretention
    simp only [ReplayNonceStore.unit, ReplayNonceStore.now, ReplayNonceStore.maxClockSkewMs,
      ReplayNonceStore.retentionMs, ReplayNonceStore.expired]
    apply decide_eq_false
    omega
  | pg retentionMs maxClockSkewMs =>
    rw [hstore] at hskew hhorizon
    obtain ⟨hdb, -⟩ := abs_le.mp hskew
    simp only [ReplayNonceStore.retentionMs, ReplayNonceStore.maxClockSkewMs] at hhorizon
    simp only [ReplayNonceStore.unit, ReplayNonceStore.now, ReplayNonceStore.maxClockSkewMs,
      ReplayNonceStore.retentionMs, ReplayNonceStore.expired]
    apply decide_eq_false
    omega

/-- The nonce of a processed request is stored, or its time is over. -/
inductive Kept (receiver : HttpOutboxReceiver) (clocks : Clocks) (rows : NonceRows)
    (request : SignedRequest) : Prop
  | stored {expires : Int} (hget : rows.get? request.nonce = some expires)
      (hfloor : receiver.floor request ≤ expires)
  | lapsed (h : receiver.nonceStore.expired (receiver.floor request)
      (receiver.nonceStore.now clocks) = true)

variable {rows : NonceRows} {request : SignedRequest}

theorem Kept.later {clocks' : Clocks} (h : receiver.Kept clocks rows request)
    (happ : clocks.app ≤ clocks'.app) (hdb : clocks.db ≤ clocks'.db) :
    receiver.Kept clocks' rows request := by
  cases h with
  | stored hget hfloor => exact .stored hget hfloor
  | lapsed h =>
    apply Kept.lapsed
    exact ReplayNonceStore.expired_mono h (Int.le_refl _) (ReplayNonceStore.now_mono happ hdb)

theorem Kept.prune (h : receiver.Kept clocks rows request) :
    receiver.Kept clocks (receiver.nonceStore.prune clocks rows) request := by
  cases h with
  | @stored expires hget hfloor =>
    cases hexpired : receiver.nonceStore.expired expires (receiver.nonceStore.now clocks) with
    | true =>
      apply Kept.lapsed
      exact ReplayNonceStore.expired_mono hexpired hfloor (Int.le_refl _)
    | false =>
      refine .stored ?_ hfloor
      apply OrderedMap.get?_filter.mpr
      exact ⟨hget, by rw [hexpired]; rfl⟩
  | lapsed h => exact .lapsed h

theorem Kept.insert (h : receiver.Kept clocks rows request) (nonce : JsString) :
    receiver.Kept clocks (receiver.nonceStore.insert clocks nonce rows).2 request := by
  rw [ReplayNonceStore.insert]
  split
  · exact h
  next hnew =>
  cases h with
  | @stored expires hget hfloor =>
    refine .stored ?_ hfloor
    have hne : nonce ≠ request.nonce := by
      rintro rfl
      exact hnew (OrderedMap.has_iff.mpr ⟨expires, hget⟩)
    rw [OrderedMap.get?_set_ne _ _ hne]
    exact hget
  | lapsed h => exact .lapsed h

/-- What holds of the handler at any time. -/
structure Sound (receiver : HttpOutboxReceiver) (st : NonceState) : Prop where
  kept : ∀ request ∈ st.processed, receiver.Kept st.clocks st.rows request
  read : ∀ request ∈ st.processed, request.ts.toSafeInteger = some request.time
  flights : ∀ flight ∈ st.flights, receiver.Checked st.clocks flight
  once : NoReplay st.processed

variable {st : NonceState} {i : Nat}

theorem Sound.later (h : receiver.Sound st) {clocks : Clocks} (happ : st.clocks.app ≤ clocks.app)
    (hdb : st.clocks.db ≤ clocks.db) : receiver.Sound { st with clocks := clocks } where
  kept request hmem := (h.kept request hmem).later happ hdb
  read := h.read
  flights flight hmem := (h.flights flight hmem).later happ
  once := h.once

theorem Sound.prune (h : receiver.Sound st) :
    receiver.Sound { st with rows := receiver.nonceStore.prune st.clocks st.rows } where
  kept request hmem := (h.kept request hmem).prune
  read := h.read
  flights := h.flights
  once := h.once

theorem Sound.setFlight (h : receiver.Sound st) (hflight : flight ∈ st.flights) (stage : NonceStage) :
    receiver.Sound (st.setFlight i { flight with stage := stage }) where
  kept := h.kept
  read := h.read
  flights other hmem := by
    rcases List.mem_or_eq_of_mem_set hmem with hmem | rfl
    · exact h.flights other hmem
    · exact ⟨(h.flights flight hflight).read, (h.flights flight hflight).fresh,
        (h.flights flight hflight).past⟩
  once := h.once

/-- A call returns in time. -/
theorem Sound.answer (h : receiver.Sound st) (hflight : flight ∈ st.flights)
    (hskew : receiver.nonceStore.WithinSkew st.clocks)
    (hdelay : receiver.InTime (st.clocks.app - flight.checkedAt)) :
    receiver.Sound (st.answer i flight
      (receiver.nonceStore.insert st.clocks flight.request.nonce st.rows)) := by
  have hchecked := h.flights flight hflight
  have hset := h.setFlight (i := i) hflight .done
  have hkept (request : SignedRequest) (hmem : request ∈ st.processed) :=
    (h.kept request hmem).insert flight.request.nonce
  cases hhas : st.rows.has flight.request.nonce with
  | true =>
    have hinsert : receiver.nonceStore.insert st.clocks flight.request.nonce st.rows = (false, st.rows) := by
      rw [ReplayNonceStore.insert, if_pos hhas]
    rw [hinsert]
    exact ⟨h.kept, h.read, hset.flights, h.once⟩
  | false =>
    have hnew : ¬ st.rows.has flight.request.nonce = true := by
      rw [hhas]
      exact Bool.false_ne_true
    have hinsert : (receiver.nonceStore.insert st.clocks flight.request.nonce st.rows).1 = true := by
      rw [ReplayNonceStore.insert, if_neg hnew]
    have hrow : (receiver.nonceStore.insert st.clocks flight.request.nonce st.rows).2.get?
        flight.request.nonce = some (receiver.nonceStore.now st.clocks +
          receiver.nonceStore.unit * receiver.nonceStore.retentionMs) := by
      rw [ReplayNonceStore.insert, if_neg hnew, OrderedMap.get?_set_self]
    simp only [NonceState.answer, hinsert, if_true]
    refine ⟨?_, ?_, hset.flights, ?_⟩
    · intro request hmem
      rcases List.mem_append.mp hmem with hmem | hmem
      · exact hkept request hmem
      · rw [List.mem_singleton.mp hmem]
        exact .stored hrow (hchecked.floor_le hskew)
    · intro request hmem
      rcases List.mem_append.mp hmem with hmem | hmem
      · exact h.read request hmem
      · rw [List.mem_singleton.mp hmem]
        exact hchecked.read
    · apply List.pairwise_append.mpr
      refine ⟨h.once, List.pairwise_singleton _ _, ?_⟩
      rintro request hmem other hother ⟨-, hnonce, hts, -⟩
      obtain rfl := List.mem_singleton.mp hother
      have htime : request.time = flight.request.time := by
        have hread := h.read request hmem
        rw [hts, hchecked.read] at hread
        exact (Option.some.inj hread).symm
      cases h.kept request hmem with
      | stored hget _ => exact hnew (OrderedMap.has_iff.mpr ⟨_, hnonce ▸ hget⟩)
      | lapsed hlapsed =>
        rw [floor, htime, ← floor, hchecked.not_expired hskew hdelay] at hlapsed
        cases hlapsed

theorem Sound.advance {st' : NonceState} (h : receiver.Sound st) (hflight : flight ∈ st.flights)
    (hskew : receiver.nonceStore.WithinSkew st.clocks)
    (hdelay : receiver.nonceStore.storesAt flight.stage = true →
      receiver.InTime (st.clocks.app - flight.checkedAt))
    (hstep : st.advance receiver.nonceStore i flight = some st') : receiver.Sound st' := by
  have hprune := h.prune
  have hanswer := fun hdelay => h.answer (i := i) hflight hskew hdelay
  have hpruneAnswer := fun hdelay => hprune.answer (i := i) hflight hskew hdelay
  have hset := h.setFlight (i := i) hflight
  have hpruneSet := hprune.setFlight (i := i) hflight
  generalize hstage : flight.stage = stage at hdelay
  cases hstore : receiver.nonceStore with
  | memory retentionMs =>
    rw [hstore] at hstep hdelay hpruneAnswer
    cases stage with
    | checked =>
      simp only [NonceState.advance, hstage, Option.some.injEq] at hstep
      rw [← hstep]
      exact hpruneAnswer (hdelay rfl)
    | compared => simp only [NonceState.advance, hstage, reduceCtorEq] at hstep
    | pruned => simp only [NonceState.advance, hstage, reduceCtorEq] at hstep
    | done => simp only [NonceState.advance, hstage, reduceCtorEq] at hstep
  | pg retentionMs maxClockSkewMs =>
    rw [hstore] at hstep hdelay hanswer hpruneSet
    cases stage with
    | checked =>
      simp only [NonceState.advance, hstage] at hstep
      split at hstep
      · obtain rfl := Option.some.inj hstep
        exact hset .done
      · obtain rfl := Option.some.inj hstep
        exact hset .compared
    | compared =>
      simp only [NonceState.advance, hstage, Option.some.injEq] at hstep
      rw [← hstep]
      exact hpruneSet .pruned
    | pruned =>
      simp only [NonceState.advance, hstage, Option.some.injEq] at hstep
      rw [← hstep]
      exact hanswer (hdelay rfl)
    | done => simp only [NonceState.advance, hstage, reduceCtorEq] at hstep

end HttpOutboxReceiver

/-- Clocks that never run backwards and agree, and calls that store their nonces in time. -/
def NonceState.Timely (receiver : HttpOutboxReceiver) (st : NonceState) (l : NonceLabel) : Prop :=
  st.Forward l ∧ receiver.nonceStore.WithinSkew l.clocks ∧ st.StoresInTime receiver l

theorem HttpOutboxReceiver.Sound.step {H : HmacBytes} {D : Sha256Bytes} {receiver : HttpOutboxReceiver}
    {st st' : NonceState} {l : NonceLabel} (h : receiver.Sound st) (htimely : st.Timely receiver l)
    (hstep : (nonceMachine H D receiver).step st l = some st') : receiver.Sound st' := by
  obtain ⟨⟨happ, hdb⟩, hskew, hdelay⟩ := htimely
  have hlater := h.later happ hdb
  obtain ⟨clocks, event⟩ := l
  cases event with
  | arrive req =>
    simp only [nonceMachine, NonceState.apply] at hstep
    cases hauthenticate : authenticate H D receiver clocks.app req with
    | error reply =>
      rw [hauthenticate] at hstep
      obtain rfl := Option.some.inj hstep
      exact hlater
    | ok request =>
      rw [hauthenticate] at hstep
      obtain rfl := Option.some.inj hstep
      obtain ⟨hread, hfresh⟩ := authenticate_timed hauthenticate
      refine ⟨hlater.kept, hlater.read, ?_, hlater.once⟩
      intro flight hmem
      rcases List.mem_append.mp hmem with hmem | hmem
      · exact hlater.flights flight hmem
      · rw [List.mem_singleton.mp hmem]
        exact ⟨hread, hfresh, Int.le_refl _⟩
  | advance i =>
    obtain ⟨flight, hflight, hadvance⟩ := Option.bind_eq_some_iff.mp hstep
    exact hlater.advance (List.mem_of_getElem? hflight) hskew (hdelay flight hflight) hadvance
  | prune =>
    obtain rfl := Option.some.inj hstep
    exact hlater.prune

/-- Whatever is sent and replayed, however the steps of the calls interleave and whenever expired
nonces are pruned, no signed request gets past the nonce store twice. -/
theorem nonces_stop_replay {H : HmacBytes} {D : Sha256Bytes} {receiver : HttpOutboxReceiver}
    {clocks : Clocks} {rows : NonceRows} {ls : List NonceLabel} {st : NonceState}
    (hrun : (nonceMachine H D receiver).Runs (NonceState.Timely receiver)
      { clocks := clocks, rows := rows } ls st) : NoReplay st.processed := by
  have hsound : receiver.Sound st := by
    apply hrun.invariant
    · intro before l after hsound htimely hstep
      exact hsound.step htimely hstep
    · exact ⟨fun _ h => (by cases h), fun _ h => (by cases h), fun _ h => (by cases h), .nil⟩
  exact hsound.once

section Decide

variable (receiver : HttpOutboxReceiver) (st : NonceState) (l : NonceLabel)

instance (store : ReplayNonceStore) (clocks : Clocks) : Decidable (store.WithinSkew clocks) :=
  match store with
  | .memory _ => inferInstanceAs (Decidable True)
  | .pg _ _ => inferInstanceAs (Decidable (_ ≤ _))

instance (delay : Int) : Decidable (receiver.InTime delay) :=
  @instDecidableAnd _ _ _ (match receiver.nonceStore with
    | .memory _ => inferInstanceAs (Decidable (_ < _))
    | .pg _ _ => inferInstanceAs (Decidable True))

instance : Decidable (st.Forward l) := inferInstanceAs (Decidable (_ ∧ _))

instance : Decidable (st.PrunesInTime receiver l) :=
  inferInstanceAs (Decidable (∀ flight ∈ st.advanced l.event,
    receiver.nonceStore.prunesAt flight.stage = true →
      l.clocks.app - flight.checkedAt ≤ receiver.nonceSafetyMs.1))

instance : Decidable (st.StoresInTime receiver l) :=
  inferInstanceAs (Decidable (∀ flight ∈ st.advanced l.event,
    receiver.nonceStore.storesAt flight.stage = true → receiver.InTime (l.clocks.app - flight.checkedAt)))

instance : Decidable (st.Timely receiver l) := inferInstanceAs (Decidable (_ ∧ _ ∧ _))

instance (processed : List SignedRequest) : Decidable (NoReplay processed) :=
  inferInstanceAs (Decidable (List.Pairwise _ _))

end Decide

section Sample

def sampleRequestSecret : List UInt8 := List.replicate 32 7

/-- Freshness and safety margin are a millisecond. -/
def sampleNonceOptions (store : ReplayNonceStore) : HttpOutboxReceiverOptions where
  expectedPath := JsString.lit "/ingest"
  resolveRequestKey _ := some sampleRequestSecret
  responseKeyId := JsString.lit "b"
  responseSecret := List.replicate 32 9
  nonceStore := store
  freshnessMs := ⟨1, by decide⟩
  nonceSafetyMs := ⟨1, by decide⟩
  maxBodyBytes := ⟨1024, by decide⟩

def sampleMemoryReceiver : HttpOutboxReceiver where
  toHttpOutboxReceiverOptions := sampleNonceOptions (.memory ⟨3, by decide⟩)
  path_absolute := rfl
  responseKeyId_valid := rfl
  responseSecret_long := Nat.le_refl 32
  horizon := by decide

def samplePgReceiver : HttpOutboxReceiver where
  toHttpOutboxReceiverOptions := sampleNonceOptions (.pg ⟨5, by decide⟩ ⟨1, by decide⟩)
  path_absolute := rfl
  responseKeyId_valid := rfl
  responseSecret_long := Nat.le_refl 32
  horizon := by decide

/-- A request signed at 100 ms. -/
def sampleSigned : HttpRequest where
  method := JsString.lit "POST"
  url := JsString.lit "/ingest"
  contentType := some CONTENT_TYPE
  keyId := some (JsString.lit "a")
  ts := some (JsString.lit "100")
  nonce := some (JsString.lit "0123456789abcdef")
  sig := some (Base64Url.encode (rollingHmac.mac sampleRequestSecret (requestFrame (JsString.lit "a")
    (JsString.lit "/ingest") (JsString.lit "100") (JsString.lit "0123456789abcdef") (rollingSha256.hex []))))
  body := .bytes []

def sampleNonces : NonceState := { clocks := ⟨99, 98000⟩, rows := ∅ }

/-- A replay at the last moment runs into the stored nonce. -/
theorem nonces_stop_replay_sample : ∃ st : NonceState, st.flights.length = 2 ∧ st.processed.length = 1 ∧
    NoReplay st.processed := by
  obtain ⟨st, hrun, hobserved⟩ := Machine.Runs.of_observed
    (M := nonceMachine rollingHmac rollingSha256 samplePgReceiver)
    (C := NonceState.Timely samplePgReceiver) sampleNonces
    [⟨⟨99, 98000⟩, .arrive sampleSigned⟩, ⟨⟨99, 98000⟩, .advance 0⟩, ⟨⟨99, 98000⟩, .advance 0⟩,
      ⟨⟨99, 98000⟩, .advance 0⟩, ⟨⟨101, 102000⟩, .arrive sampleSigned⟩, ⟨⟨102, 103000⟩, .advance 1⟩,
      ⟨⟨102, 103000⟩, .advance 1⟩, ⟨⟨102, 103000⟩, .advance 1⟩]
    (fun st => (st.flights.length, st.processed.length)) (show _ = some (2, 1) by decide +kernel)
  rw [Prod.mk.injEq] at hobserved
  exact ⟨st, hobserved.1, hobserved.2, nonces_stop_replay hrun⟩

/-- Where the run observed has processed one request twice. -/
theorem replayed_of_observed {H : HmacBytes} {D : Sha256Bytes} {receiver : HttpOutboxReceiver}
    {C : NonceState → NonceLabel → Prop} [∀ st l, Decidable (C st l)] (ls : List NonceLabel)
    (h : ((nonceMachine H D receiver).exec C sampleNonces ls).map
      (fun st => decide (NoReplay st.processed)) = some false) :
    ∃ st, (nonceMachine H D receiver).Runs C sampleNonces ls st ∧ ¬ NoReplay st.processed := by
  obtain ⟨st, hrun, hobserved⟩ := Machine.Runs.of_observed sampleNonces ls _ h
  exact ⟨st, hrun, of_decide_eq_false hobserved⟩

def sampleMemoryReplay : List NonceLabel :=
  [⟨⟨99, 99000⟩, .arrive sampleSigned⟩, ⟨⟨99, 99000⟩, .advance 0⟩, ⟨⟨101, 101000⟩, .arrive sampleSigned⟩,
    ⟨⟨102, 102000⟩, .advance 1⟩]

/-- Between its own `DELETE` and its `INSERT` another one comes. -/
def samplePgReplay : List NonceLabel :=
  [⟨⟨99, 98000⟩, .arrive sampleSigned⟩, ⟨⟨99, 98000⟩, .advance 0⟩, ⟨⟨99, 98000⟩, .advance 0⟩,
    ⟨⟨99, 98000⟩, .advance 0⟩, ⟨⟨101, 102000⟩, .arrive sampleSigned⟩, ⟨⟨102, 103000⟩, .advance 1⟩,
    ⟨⟨102, 103000⟩, .advance 1⟩, ⟨⟨103, 103001⟩, .prune⟩, ⟨⟨103, 103001⟩, .advance 1⟩]

def sampleTurnedBack : List NonceLabel :=
  [⟨⟨99, 99000⟩, .arrive sampleSigned⟩, ⟨⟨99, 99000⟩, .advance 0⟩, ⟨⟨99, 99000⟩, .advance 0⟩,
    ⟨⟨99, 99000⟩, .advance 0⟩, ⟨⟨105, 105000⟩, .prune⟩, ⟨⟨99, 99000⟩, .arrive sampleSigned⟩,
    ⟨⟨99, 99000⟩, .advance 1⟩, ⟨⟨99, 99000⟩, .advance 1⟩, ⟨⟨99, 99000⟩, .advance 1⟩]

/-- With the whole margin spent before the memory store prunes, with time lost between the two
statements of the other one, or with clocks turned back, a request is processed twice. -/
theorem nonces_replayed :
    (∃ st, (nonceMachine rollingHmac rollingSha256 sampleMemoryReceiver).Runs (fun st l => st.Forward l ∧
        sampleMemoryReceiver.nonceStore.WithinSkew l.clocks ∧ st.PrunesInTime sampleMemoryReceiver l)
      sampleNonces sampleMemoryReplay st ∧ ¬ NoReplay st.processed) ∧
    (∃ st, (nonceMachine rollingHmac rollingSha256 samplePgReceiver).Runs (fun st l => st.Forward l ∧
        samplePgReceiver.nonceStore.WithinSkew l.clocks ∧ st.PrunesInTime samplePgReceiver l)
      sampleNonces samplePgReplay st ∧ ¬ NoReplay st.processed) ∧
    ∃ st, (nonceMachine rollingHmac rollingSha256 samplePgReceiver).Runs (fun st l =>
        samplePgReceiver.nonceStore.WithinSkew l.clocks ∧ st.PrunesInTime samplePgReceiver l ∧
        st.StoresInTime samplePgReceiver l)
      sampleNonces sampleTurnedBack st ∧ ¬ NoReplay st.processed := by
  refine ⟨replayed_of_observed _ ?_, replayed_of_observed _ ?_, replayed_of_observed _ ?_⟩
  · decide +kernel
  · decide +kernel
  · decide +kernel

end Sample

end TskProtocol
