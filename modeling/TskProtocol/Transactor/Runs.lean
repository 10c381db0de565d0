import TskProtocol.Transactor.Transactor

namespace TskProtocol

namespace TransactionAttempt

variable {a : TransactionAttempt} {destroy : Bool} {result : ReleaseResult}

section Release

/-- A release leaves the other variables alone. -/
theorem release_frame {α : Type} {f : TransactionAttempt → α}
    (hf : ∀ (a : TransactionAttempt) releaseState disposalError releases, f { a with
      releaseState := releaseState, disposalError := disposalError, releases := releases } = f a) :
    f (a.release destroy result) = f a := by
  unfold release
  split
  · rfl
  · cases result <;> exact hf a _ _ _

@[simp] theorem release_committed : (a.release destroy result).committed = a.committed :=
  release_frame (f := TransactionAttempt.committed) fun _ _ _ _ => rfl

@[simp] theorem release_commitDispatched :
    (a.release destroy result).commitDispatched = a.commitDispatched :=
  release_frame (f := TransactionAttempt.commitDispatched) fun _ _ _ _ => rfl

@[simp] theorem release_commitDefinitivelyAborted :
    (a.release destroy result).commitDefinitivelyAborted = a.commitDefinitivelyAborted :=
  release_frame (f := TransactionAttempt.commitDefinitivelyAborted) fun _ _ _ _ => rfl

@[simp] theorem release_commitSent : (a.release destroy result).commitSent = a.commitSent :=
  release_frame (f := TransactionAttempt.commitSent) fun _ _ _ _ => rfl

@[simp] theorem release_scrubbed : (a.release destroy result).scrubbed = a.scrubbed :=
  release_frame (f := TransactionAttempt.scrubbed) fun _ _ _ _ => rfl

@[simp] theorem release_calledBack : (a.release destroy result).calledBack = a.calledBack :=
  release_frame (f := TransactionAttempt.calledBack) fun _ _ _ _ => rfl

@[simp] theorem release_watching : (a.release destroy result).watching = a.watching :=
  release_frame (f := TransactionAttempt.watching) fun _ _ _ _ => rfl

@[simp] theorem release_mayHaveCommitted :
    (a.release destroy result).mayHaveCommitted = a.mayHaveCommitted :=
  release_frame (f := TransactionAttempt.mayHaveCommitted) fun _ _ _ _ => rfl

theorem release_closed : (a.release destroy result).releaseState ≠ .open := by
  unfold release
  split
  · next h => exact h
  · cases result <;> cases destroy <;> simp

end Release

/-- The bookkeeping of an attempt: its client is released at most once, and for reuse only after a
confirmed commit and a confirmed scrub. -/
structure Tidy (a : TransactionAttempt) : Prop where
  held : a.releaseState = .open → a.releases = []
  once : a.releaseState ≠ .open → a.releases.length = 1
  reused : false ∈ a.releases → a.committed = true ∧ a.scrubbed = true
  sent : a.commitSent = true → a.commitDispatched = true
  confirmed : a.committed = true → a.commitSent = true
  aborted : a.commitDefinitivelyAborted = true → a.commitDispatched = true
  callback : a.committedByCallback = false

theorem Tidy.release (h : a.Tidy) (hreuse : destroy = false → a.committed = true ∧ a.scrubbed = true) :
    (a.release destroy result).Tidy := by
  unfold TransactionAttempt.release
  split
  · exact h
  next hopen =>
  have hnone := h.held (not_not.mp hopen)
  have hreused : false ∈ destroy :: a.releases → a.committed = true ∧ a.scrubbed = true := by
    rw [hnone, List.mem_singleton]
    exact fun hfalse => hreuse hfalse.symm
  cases result with
  | returns =>
    exact ⟨by cases destroy <;> simp, by simp [hnone], hreused, h.sent, h.confirmed, h.aborted, h.callback⟩
  | throws e =>
    exact ⟨by simp, by simp [hnone], hreused, h.sent, h.confirmed, h.aborted, h.callback⟩

theorem Tidy.mayHaveCommitted_eq (h : a.Tidy) :
    a.mayHaveCommitted = (a.commitSent && !a.commitDefinitivelyAborted) := by
  rw [mayHaveCommitted, h.callback, Bool.or_false]

theorem Tidy.not_sent (h : a.Tidy) (hdispatched : a.commitDispatched = false) :
    a.mayHaveCommitted = false ∧ a.committed = false := by
  have hsent : a.commitSent = false := by
    cases hsent : a.commitSent with
    | false => rfl
    | true => rw [h.sent hsent] at hdispatched; cases hdispatched
  refine ⟨by rw [h.mayHaveCommitted_eq, hsent, Bool.false_and], ?_⟩
  cases hcommitted : a.committed with
  | false => rfl
  | true => rw [h.confirmed hcommitted] at hsent; cases hsent

theorem Tidy.onAbort (h : a.Tidy) : (a.onAbort result).Tidy := by
  unfold TransactionAttempt.onAbort
  split
  · exact h.release (by simp)
  · exact h

/-- What the outcome of a call says about its last attempt.  A `code` may start another one. -/
structure Reports (a : TransactionAttempt) (completion : Except Thrown Unit) : Prop where
  resolves : completion = .ok () → a.committed = true
  durable : ∀ e, completion = .error e → e.errorClass = .postCommitRelease → a.committed = true
  refuses : ∀ e, completion = .error e → e.errorClass ≠ .postCommitRelease →
    e.errorClass ≠ .ambiguousCommit → a.mayHaveCommitted = false
  final : ∀ e, completion = .error e → e.code.isSome = true → a.mayHaveCommitted = false

/-- The client has been released and nothing will touch it again. -/
structure Settled (a : TransactionAttempt) : Prop where
  released : a.releaseState ≠ .open
  unwatched : a.watching = false

theorem Settled.onAbort (h : a.Settled) : a.onAbort result = a := by
  rw [TransactionAttempt.onAbort, h.unwatched]
  rfl

theorem Reports.congr {a' : TransactionAttempt} {completion : Except Thrown Unit} (h : a.Reports completion)
    (hcommitted : a'.committed = a.committed) (hmay : a'.mayHaveCommitted = a.mayHaveCommitted) :
    a'.Reports completion := by
  refine ⟨?_, ?_, ?_, ?_⟩
  · rw [hcommitted]
    exact h.resolves
  · rw [hcommitted]
    exact h.durable
  · rw [hmay]
    exact h.refuses
  · rw [hmay]
    exact h.final

theorem Reports.of_refused {e : Thrown} (hnot : a.mayHaveCommitted = false)
    (he : e.errorClass ≠ .postCommitRelease) : a.Reports (.error e) := by
  refine ⟨by simp, ?_, fun _ _ _ _ => hnot, fun _ _ _ => hnot⟩
  rintro _ ⟨⟩ hclass
  exact absurd hclass he

end TransactionAttempt

namespace TransactorState

open TransactionAttempt

/-- The statements before the callback. -/
def isEarly : ControlQuery → Bool
  | .begin | .installTimeout | .readTimeout | .arm | .assertDurable => true
  | _ => false

/-- What has happened to an attempt when it comes to a point. -/
def AtPoint : TransactorPoint → TransactionAttempt → Prop
  | .loop, _ | .acquiring, _ => False
  | .listening, a | .callingBack, a => a.commitDispatched = false ∧ a.calledBack = false
  | .sending query, a => match query with
    | .discardAll => a.committed = true
    | query => a.commitDispatched = false ∧ (isEarly query = true → a.calledBack = false)
  | .awaiting query sent, a => match query with
    | .discardAll => a.committed = true
    | .commit => a.commitDispatched = true ∧ a.commitSent = sent ∧ a.committed = false ∧
        a.commitDefinitivelyAborted = false
    | query => a.commitDispatched = false ∧ (isEarly query = true → a.calledBack = false)
  | .runningCallback, a | .runningHook, a => a.commitDispatched = false
  | .discarding, a => a.committed = true
  | .releasingNormally, a => a.committed = true ∧ a.scrubbed = true
  | .caught e, a | .disposing e, a =>
    (e.errorClass = .postCommitRelease →
      a.committed = true ∨ a.commitDispatched = true ∧ a.commitDefinitivelyAborted = false) ∧
    (a.committed = true → e = { errorClass := .postCommitRelease })
  | .rollingBack e, a => a.commitDispatched = false ∧ e.errorClass ≠ .postCommitRelease
  | .finishing completion, a => a.Reports completion
  | .unlistening completion, a | .done completion, a => a.Reports completion ∧ a.Settled
  | .failed e, a => a.Reports (.error e) ∧ a.Settled
  | .sleeping, a => a.mayHaveCommitted = false ∧ a.Settled

/-- The points that a call comes to without a client. -/
def Alone : TransactorPoint → Prop
  | .loop | .acquiring | .sleeping => True
  | .failed e | .done (.error e) => e.errorClass ≠ .postCommitRelease
  | _ => False

/-- The steps on which the outcomes can be relied on.  Before `COMMIT` is sent no failure is itself
a `PostCommitReleaseError`; the listeners of the client do not throw, unless to replace the error of
an attempt that has not committed; and no statement of the callback that gets past the guard ends
the transaction. -/
def Prudent (s : TransactorState) : TransactorLabel → Prop
  | .fails e => e.errorClass ≠ .postCommitRelease ∨ s.current.any commitDispatched = true
  | .abort reason _ =>
    reason.errorClass ≠ .postCommitRelease ∨ s.current.any mayHaveCommitted = true
  | .listener thrown => ∀ e, thrown = some e → s.point ≠ .listening ∧
      s.current.any mayHaveCommitted = false ∧ e.errorClass ≠ .postCommitRelease
  | .callerQuery sql commits => commits = true → assertCallerQueryAllowed sql ≠ .ok ()
  | .lateClient thrown => thrown = none
  | _ => True

structure Held (s : TransactorState) : Prop where
  past : ∀ a ∈ s.past, a.Tidy ∧ a.Settled ∧ a.mayHaveCommitted = false
  late : ∀ releases ∈ s.lateClients, releases = [true]
  current : ∀ a, s.current = some a → a.Tidy ∧ AtPoint s.point a
  alone : s.current = none → Alone s.point
  reason : ∀ r, s.aborted = some r → r.errorClass = .postCommitRelease →
    s.point ≠ .sleeping ∧ ∃ a, s.current = some a ∧ a.commitDispatched = true

theorem held_start : Held {} :=
  ⟨by simp, by simp, by simp, fun _ => trivial, by simp⟩

variable {cfg : TransactorConfig} {s t : TransactorState} {a a' : TransactionAttempt} {point : TransactorPoint}
  {release : ReleaseResult}

theorem Held.move (h : s.Held) (ha : s.current = some a) (htidy : a'.Tidy) (hpoint : AtPoint point a')
    (hdispatched : a.commitDispatched = true → a'.commitDispatched = true)
    (hawake : s.aborted.isSome = true → point ≠ .sleeping) : Held ((s.withAttempt a').goto point) := by
  refine ⟨h.past, h.late, ?_, fun hnone => (by cases hnone), fun r hr hclass => ?_⟩
  · rintro _ ⟨⟩
    exact ⟨htidy, hpoint⟩
  · obtain ⟨-, b, hb, hdis⟩ := h.reason r hr hclass
    obtain rfl := Option.some.inj (ha.symm.trans hb)
    exact ⟨hawake (Option.isSome_of_eq_some hr), a', rfl, hdispatched hdis⟩

theorem Held.goto (h : s.Held) (ha : s.current = some a) (hpoint : AtPoint point a)
    (hawake : s.aborted.isSome = true → point ≠ .sleeping) : Held (s.goto point) := by
  have hsame : s.withAttempt a = s := by rw [withAttempt, ← ha]
  have hmove := h.move ha (h.current a ha).1 hpoint id hawake
  rwa [hsame] at hmove

/-- The reason of an abort before `COMMIT` is sent. -/
theorem Held.reason_class (h : s.Held) {r : Thrown} (hr : s.aborted = some r)
    (ha : ∀ a, s.current = some a → a.commitDispatched = false) :
    r.errorClass ≠ .postCommitRelease := by
  intro hclass
  obtain ⟨-, a, ha', hdispatched⟩ := h.reason r hr hclass
  rw [ha a ha'] at hdispatched
  cases hdispatched

theorem Held.goto_alone (h : s.Held) (ha : s.current = none) (hpoint : Alone point) :
    Held (s.goto point) := by
  refine ⟨h.past, h.late, fun a ha' => ?_, fun _ => hpoint, fun r hr hclass => ?_⟩
  · exact absurd (ha.symm.trans ha') (by simp)
  · obtain ⟨-, a, ha', -⟩ := h.reason r hr hclass
    exact absurd (ha.symm.trans ha') (by simp)

theorem Held.reason_alone (h : s.Held) (ha : s.current = none) {r : Thrown} (hr : s.aborted = some r) :
    r.errorClass ≠ .postCommitRelease :=
  h.reason_class hr fun a ha' => absurd (ha.symm.trans ha') (by simp)

theorem Held.pendingClients (h : s.Held) (n : Nat) : Held { s with pendingClients := n } :=
  ⟨h.past, h.late, h.current, h.alone, h.reason⟩

theorem Held.reason_dispatched (h : s.Held) (ha : s.current = some a) {r : Thrown}
    (hr : s.aborted = some r) (hclass : r.errorClass = .postCommitRelease) : a.commitDispatched = true := by
  obtain ⟨-, b, hb, hdispatched⟩ := h.reason r hr hclass
  obtain rfl := Option.some.inj (ha.symm.trans hb)
  exact hdispatched

theorem Held.none_of_acquiring (h : s.Held) (hp : s.point = .acquiring) : s.current = none := by
  cases ha : s.current with
  | none => rfl
  | some a =>
    have hpoint := (h.current a ha).2
    rw [hp] at hpoint
    exact absurd hpoint (by simp [AtPoint])

/-- The error that leaves `runOnce` tells what became of the attempt. -/
theorem reports_classify (htidy : a.Tidy) {e : Thrown} (hpoint : AtPoint (.disposing e) a) :
    a.Reports (.error (classify a e)) := by
  obtain ⟨hdurable, hcommitted⟩ := hpoint
  unfold classify
  split
  · exact ⟨by simp, by simp, by simp, by simp⟩
  next hambiguous =>
  by_cases hc : a.committed = true
  · rw [if_neg (by simp [hc]), hcommitted hc]
    exact ⟨by simp, fun _ _ _ => hc, by simp, by simp⟩
  have hnot : a.mayHaveCommitted = false := by
    rw [htidy.mayHaveCommitted_eq]
    cases hsent : a.commitSent with
    | false => rfl
    | true => simpa [htidy.sent hsent, hc] using hambiguous
  split
  · exact .of_refused hnot (by simp)
  · refine .of_refused hnot fun hclass => ?_
    rcases hdurable hclass with hc' | ⟨hdispatched, haborted⟩
    · exact hc hc'
    · exact hambiguous ⟨hdispatched, by simpa using hc, haborted⟩

theorem Held.loop (h : s.Held) (hstep : s.runLoop cfg = some t) : t.Held := by
  cases hp : s.point <;> simp only [runLoop, hp] at hstep <;> try cases hstep
  case loop =>
    have ha : s.current = none := by
      cases ha : s.current with
      | none => rfl
      | some a => exact absurd (hp ▸ (h.current a ha).2) (by simp [AtPoint])
    cases hr : s.aborted with
    | some reason =>
      rw [hr] at hstep
      cases hstep
      exact h.goto_alone ha (h.reason_alone ha hr)
    | none =>
      rw [hr] at hstep
      cases hstep
      exact h.goto_alone ha trivial
  case failed error =>
    cases ha : s.current with
    | none =>
      have halone := hp ▸ h.alone ha
      split at hstep <;> cases hstep
      · exact h.goto_alone ha halone
      · exact h.goto_alone ha trivial
    | some a =>
      obtain ⟨hreports, hsettled⟩ : a.Reports (.error error) ∧ a.Settled := by
        have hpoint := (h.current a ha).2
        rwa [hp] at hpoint
      split at hstep <;> cases hstep
      · exact h.goto ha ⟨hreports, hsettled⟩ (by simp)
      · next hretry =>
        simp only [not_or, Bool.not_eq_false] at hretry
        have hcode : error.code.isSome = true := by
          have hretryable := hretry.1
          simp only [Thrown.isRetryable, Option.any_eq_true] at hretryable
          obtain ⟨code, hcode, -⟩ := hretryable
          rw [hcode]
          rfl
        exact h.goto ha ⟨hreports.final error rfl hcode, hsettled⟩ (by simp [hretry.2.2])

theorem Held.runAttempt (h : s.Held) (ha : s.current = some a) (hstep : s.runAttempt a release = some t) :
    t.Held := by
  obtain ⟨htidy, hpoint⟩ := h.current a ha
  cases hp : s.point <;> simp only [TransactorState.runAttempt, hp] at hstep <;> try cases hstep
  all_goals rw [hp] at hpoint
  case sending query =>
    unfold send
    cases query with
    | commit =>
      obtain ⟨hdispatched, -⟩ : a.commitDispatched = false ∧ _ := hpoint
      obtain ⟨-, hcommitted⟩ := htidy.not_sent hdispatched
      have haborted : a.commitDefinitivelyAborted = false := by
        cases haborted : a.commitDefinitivelyAborted with
        | false => rfl
        | true => rw [htidy.aborted haborted] at hdispatched; cases hdispatched
      refine h.move ha ⟨htidy.held, htidy.once, htidy.reused, fun _ => rfl, fun hc => ?_, fun _ => rfl,
        htidy.callback⟩ ⟨rfl, rfl, hcommitted, haborted⟩ (fun _ => rfl) (by simp)
      exact absurd (hcommitted.symm.trans hc) (by simp)
    | _ => exact h.move ha htidy hpoint id (by simp)
  case callingBack =>
    exact h.move ha ⟨htidy.held, htidy.once, htidy.reused, htidy.sent, htidy.confirmed, htidy.aborted,
      htidy.callback⟩ hpoint.1 id (by simp)
  case discarding =>
    have hcommitted : a.committed = true := hpoint
    exact h.move ha (htidy.release (by simp)) ⟨fun _ => .inl (by simpa using hcommitted), fun _ => rfl⟩
      (by simp) (by simp)
  case releasingNormally =>
    obtain ⟨hcommitted, hscrubbed⟩ := hpoint
    refine h.move ha (htidy.release fun _ => ⟨hcommitted, hscrubbed⟩) ?_ (by simp) ?_
    · split
      · exact ⟨fun _ => .inl (by simpa using hcommitted), fun _ => rfl⟩
      · exact ⟨fun _ => by simpa using hcommitted, by simp, by simp, by simp⟩
    · intro _
      split <;> simp
  case caught error =>
    unfold catchError
    split
    · next hopen =>
      refine h.goto ha ⟨hopen.2.1, fun hclass => ?_⟩ (by simp)
      rcases hpoint.1 hclass with hc | ⟨hdispatched, -⟩
      · rw [hopen.1] at hc
        cases hc
      · rw [hopen.2.1] at hdispatched
        cases hdispatched
    · exact h.goto ha hpoint (by simp)
  case disposing error =>
    have htidy' : (a.release true release).Tidy := htidy.release (by simp)
    exact h.move ha htidy' (reports_classify htidy' (by simpa [AtPoint] using hpoint)) (by simp) (by simp)
  case finishing completion =>
    have htidy' : (a.release true release).Tidy := htidy.release (by simp)
    refine h.move ha ⟨htidy'.held, htidy'.once, htidy'.reused, htidy'.sent, htidy'.confirmed, htidy'.aborted,
      htidy'.callback⟩ ⟨?_, release_closed, rfl⟩ (by simp) (by simp)
    exact Reports.congr hpoint release_committed release_mayHaveCommitted

theorem Held.run (h : s.Held) (hstep : step cfg s (.run release) = some t) : t.Held := by
  cases ha : s.current with
  | none =>
    simp only [step, ha] at hstep
    exact h.loop hstep
  | some a =>
    simp only [step, ha, Option.or_eq_some_iff] at hstep
    rcases hstep with hstep | ⟨-, hstep⟩
    · exact h.runAttempt ha hstep
    · exact h.loop hstep

theorem Held.connected (h : s.Held) {nonce : JsString}
    (hstep : step cfg s (.connected nonce) = some t) : t.Held := by
  simp only [step] at hstep
  split at hstep
  · next hp =>
    cases hstep
    have ha := h.none_of_acquiring hp
    refine ⟨h.past, h.late, ?_, by simp, fun r hr hclass => ?_⟩
    · rintro _ ⟨⟩
      exact ⟨⟨fun _ => rfl, by simp, by simp, by simp, by simp, by simp, rfl⟩, rfl, rfl⟩
    · exact absurd hclass (h.reason_alone ha hr)
  · cases hstep

theorem Held.acquireTimesOut (h : s.Held) (hstep : step cfg s .acquireTimesOut = some t) : t.Held := by
  simp only [step] at hstep
  split at hstep
  · next hp =>
    cases hstep
    have hgoto : Held (s.goto (.failed {})) := h.goto_alone (h.none_of_acquiring hp) (by simp [Alone])
    exact hgoto.pendingClients _
  · cases hstep

theorem Held.listener (h : s.Held) {thrown : Option Thrown} (hok : s.Prudent (.listener thrown))
    (hstep : step cfg s (.listener thrown) = some t) : t.Held := by
  simp only [step] at hstep
  split at hstep
  · next a hp ha =>
    cases hstep
    have hpoint := (h.current a ha).2
    rw [hp] at hpoint
    exact h.goto ha ⟨hpoint.1, fun _ => hpoint.2⟩ (by simp)
  · next hp _ => exact absurd hp (hok _ rfl).1
  · next a hp ha =>
    cases hstep
    have hpoint := (h.current a ha).2
    rw [hp] at hpoint
    exact h.goto ha hpoint (by simp)
  · next a hp ha =>
    cases hstep
    have hpoint := (h.current a ha).2
    rw [hp] at hpoint
    exact h.goto ha hpoint (by simp)
  · next a e hp ha =>
    cases hstep
    have hpoint := (h.current a ha).2
    rw [hp] at hpoint
    obtain ⟨-, hnot, hclass⟩ := hok _ rfl
    rw [ha] at hnot
    exact h.goto ha ⟨.of_refused hnot hclass, hpoint.2⟩ (by simp)
  · cases hstep

/-- An error before `COMMIT` is sent. -/
theorem atPoint_caught {e : Thrown} (htidy : a.Tidy) (hdispatched : a.commitDispatched = false)
    (he : e.errorClass = .postCommitRelease → a.commitDispatched = true) : AtPoint (.caught e) a := by
  refine ⟨fun hclass => ?_, fun hc => ?_⟩
  · rw [he hclass] at hdispatched
    cases hdispatched
  · exact absurd (hc.symm.trans (htidy.not_sent hdispatched).2) (by simp)

theorem atPoint_disposing {e : Thrown} (htidy : a.Tidy) (hpoint : AtPoint (.rollingBack e) a) :
    AtPoint (.disposing e) a :=
  atPoint_caught htidy hpoint.1 fun hclass => absurd hclass hpoint.2

/-- Where a failed statement leads. -/
theorem atPoint_afterFailed {query : ControlQuery} {sent : Bool} {e : Thrown}
    (htidy : a.Tidy) (hpoint : AtPoint (.awaiting query sent) a)
    (he : e.errorClass = .postCommitRelease → a.commitDispatched = true) :
    AtPoint (afterFailed e query) a := by
  cases query with
  | discardAll => exact hpoint
  | commit =>
    obtain ⟨hdispatched, -, hcommitted, haborted⟩ := hpoint
    exact ⟨fun _ => .inr ⟨hdispatched, haborted⟩, fun hc => absurd (hcommitted.symm.trans hc) (by simp)⟩
  | _ => exact atPoint_caught htidy hpoint.1 he

theorem Held.answers (h : s.Held) {r : NodePostgresResult}
    (hstep : step cfg s (.answers r) = some t) : t.Held := by
  simp only [step] at hstep
  split at hstep
  · next query a hp ha =>
    cases hstep
    obtain ⟨htidy, hpoint⟩ := h.current a ha
    rw [hp] at hpoint
    unfold answered
    split
    · next hconfirmed =>
      cases query with
      | commit =>
        obtain ⟨hdispatched, hsent, -, haborted⟩ := hpoint
        exact h.move ha ⟨htidy.held, htidy.once, fun hf => ⟨rfl, (htidy.reused hf).2⟩, htidy.sent,
          fun _ => hsent, htidy.aborted, htidy.callback⟩ rfl id (by simp [afterConfirmed])
      | discardAll =>
        have hcommitted : a.committed = true := hpoint
        exact h.move ha ⟨htidy.held, htidy.once, fun _ => ⟨hcommitted, rfl⟩, htidy.sent, htidy.confirmed,
          htidy.aborted, htidy.callback⟩ ⟨hcommitted, rfl⟩ id (by simp [afterConfirmed])
      | assertDurable => exact h.move ha htidy ⟨hpoint.1, hpoint.2 rfl⟩ id (by simp [afterConfirmed])
      | _ =>
        refine h.move ha htidy ⟨hpoint.1, ?_⟩ id (by simp [afterConfirmed])
        first | exact fun _ => hpoint.2 rfl | simp [isEarly]
    · cases query with
      | commit =>
        obtain ⟨hdispatched, -, hcommitted, -⟩ := hpoint
        refine h.move ha ⟨htidy.held, htidy.once, htidy.reused, htidy.sent, htidy.confirmed,
          fun _ => hdispatched, htidy.callback⟩ ⟨by simp, fun hc => ?_⟩ id (by simp [afterFailed])
        exact absurd (hcommitted.symm.trans hc) (by simp)
      | _ => exact h.move ha htidy (atPoint_afterFailed htidy hpoint (by simp)) id (by simp [afterFailed])
  · cases hstep

theorem Held.attempt_of (h : s.Held) (hpoint : ¬ Alone s.point) : ∃ a, s.current = some a := by
  cases ha : s.current with
  | none => exact absurd (h.alone ha) hpoint
  | some a => exact ⟨a, rfl⟩

theorem Held.settles (h : s.Held) (hstep : step cfg s .settles = some t) : t.Held := by
  simp only [step] at hstep
  split at hstep
  · next hp =>
    cases hstep
    obtain ⟨a, ha⟩ := h.attempt_of (by simp [hp, Alone])
    have hpoint := (h.current a ha).2
    rw [hp] at hpoint
    split
    · exact h.goto ha hpoint (by simp)
    · exact h.goto ha ⟨hpoint, by simp [isEarly]⟩ (by simp)
  · next hp =>
    cases hstep
    obtain ⟨a, ha⟩ := h.attempt_of (by simp [hp, Alone])
    have hpoint := (h.current a ha).2
    rw [hp] at hpoint
    exact h.goto ha ⟨hpoint, by simp [isEarly]⟩ (by simp)
  · next error hp =>
    cases hstep
    obtain ⟨a, ha⟩ := h.attempt_of (by simp [hp, Alone])
    obtain ⟨htidy, hpoint⟩ := h.current a ha
    rw [hp] at hpoint
    exact h.goto ha (atPoint_disposing htidy hpoint) (by simp)
  · next hp =>
    cases hstep
    refine ⟨fun a ha => ?_, h.late, by simp, fun _ => trivial, fun r hr hclass => ?_⟩
    · rcases List.mem_append.mp ha with ha | ha
      · have hcur : s.current = some a := by simpa using ha
        obtain ⟨htidy, hpoint⟩ := h.current a hcur
        rw [hp] at hpoint
        exact ⟨htidy, hpoint.2, hpoint.1⟩
      · exact h.past a ha
    · exact absurd hp (h.reason r hr hclass).1
  · cases hstep

theorem Held.fails (h : s.Held) {error : Thrown} (hok : s.Prudent (.fails error))
    (hstep : step cfg s (.fails error) = some t) : t.Held := by
  have hclass {a : TransactionAttempt} (ha : s.current = some a) (hclass : error.errorClass = .postCommitRelease) :
      a.commitDispatched = true := by
    rcases hok with hne | hdispatched
    · exact absurd hclass hne
    · simpa [ha] using hdispatched
  simp only [step] at hstep
  split at hstep
  · next hp =>
    cases hstep
    have ha := h.none_of_acquiring hp
    refine h.goto_alone ha ?_
    rcases hok with hne | hdispatched
    · exact hne
    · simp [ha] at hdispatched
  · next query hp =>
    cases hstep
    obtain ⟨a, ha⟩ := h.attempt_of (by simp [hp, Alone])
    obtain ⟨htidy, hpoint⟩ := h.current a ha
    rw [hp] at hpoint
    exact h.goto ha (atPoint_afterFailed htidy hpoint (hclass ha)) (by cases query <;> simp [afterFailed])
  · next hp =>
    cases hstep
    obtain ⟨a, ha⟩ := h.attempt_of (by simp [hp, Alone])
    obtain ⟨htidy, hpoint⟩ := h.current a ha
    rw [hp] at hpoint
    exact h.goto ha (atPoint_caught htidy hpoint (hclass ha)) (by simp)
  · next hp =>
    cases hstep
    obtain ⟨a, ha⟩ := h.attempt_of (by simp [hp, Alone])
    obtain ⟨htidy, hpoint⟩ := h.current a ha
    rw [hp] at hpoint
    exact h.goto ha (atPoint_caught htidy hpoint (hclass ha)) (by simp)
  · next hp =>
    cases hstep
    obtain ⟨a, ha⟩ := h.attempt_of (by simp [hp, Alone])
    obtain ⟨htidy, hpoint⟩ := h.current a ha
    rw [hp] at hpoint
    obtain ⟨hdispatched, -⟩ := hpoint
    refine h.goto ha (.of_refused (htidy.not_sent hdispatched).1 fun hpost => ?_) (by simp)
    exact absurd (hdispatched.symm.trans (hclass ha hpost)) (by simp)
  · cases hstep

theorem Held.cut (h : s.Held) (hstep : step cfg s .cut = some t) : t.Held := by
  simp only [step] at hstep
  split at hstep
  · next reason hr hp =>
    cases hstep
    have ha := h.none_of_acquiring hp
    have hgoto : Held (s.goto (.failed reason)) := h.goto_alone ha (h.reason_alone ha hr)
    exact hgoto.pendingClients _
  · next reason query _ hr hp =>
    cases hstep
    obtain ⟨a, ha⟩ := h.attempt_of (by simp [hp, Alone])
    obtain ⟨htidy, hpoint⟩ := h.current a ha
    rw [hp] at hpoint
    exact h.goto ha (atPoint_afterFailed htidy hpoint (h.reason_dispatched ha hr))
      (by cases query <;> simp [afterFailed])
  · next reason hr hp =>
    cases hstep
    obtain ⟨a, ha⟩ := h.attempt_of (by simp [hp, Alone])
    obtain ⟨htidy, hpoint⟩ := h.current a ha
    rw [hp] at hpoint
    exact h.goto ha (atPoint_caught htidy hpoint (h.reason_dispatched ha hr)) (by simp)
  · next reason hr hp =>
    cases hstep
    obtain ⟨a, ha⟩ := h.attempt_of (by simp [hp, Alone])
    obtain ⟨htidy, hpoint⟩ := h.current a ha
    rw [hp] at hpoint
    exact h.goto ha (atPoint_caught htidy hpoint (h.reason_dispatched ha hr)) (by simp)
  · next error hr hp =>
    cases hstep
    obtain ⟨a, ha⟩ := h.attempt_of (by simp [hp, Alone])
    obtain ⟨htidy, hpoint⟩ := h.current a ha
    rw [hp] at hpoint
    exact h.goto ha (atPoint_disposing htidy hpoint) (by simp)
  · next reason hr hp =>
    cases hstep
    have hclass : reason.errorClass ≠ .postCommitRelease := fun hclass => (h.reason reason hr hclass).1 hp
    cases ha : s.current with
    | none => exact h.goto_alone ha hclass
    | some a =>
      have hpoint := (h.current a ha).2
      rw [hp] at hpoint
      exact h.goto ha ⟨.of_refused hpoint.1 hclass, hpoint.2⟩ (by simp)
  · cases hstep

theorem Held.callerQuery (h : s.Held) {sql : JsString} {commits : Bool}
    (hok : s.Prudent (.callerQuery sql commits)) (hstep : step cfg s (.callerQuery sql commits) = some t) :
    t.Held := by
  simp only [step] at hstep
  split at hstep
  · next a ha =>
    split at hstep
    · next hsent =>
      cases hstep
      have hcommits : commits = false := by
        cases hcommits : commits with
        | false => rfl
        | true => exact absurd hsent.2.1 (hok hcommits)
      have hsame : s.withAttempt { a with committedByCallback := a.committedByCallback || commits } = s := by
        rw [hcommits, Bool.or_false, withAttempt, ← ha]
      rwa [hsame]
    · split at hstep
      · cases hstep
        exact h
      · cases hstep
  · cases hstep

/-- An abort releases the client and changes nothing that the points speak of. -/
theorem atPoint_onAbort (hpoint : AtPoint point a) : AtPoint point (a.onAbort release) := by
  by_cases hwatching : a.watching = true
  · rw [TransactionAttempt.onAbort, if_pos hwatching]
    have hreports {completion : Except Thrown Unit} (h : a.Reports completion) :
        (a.release true release).Reports completion :=
      h.congr release_committed release_mayHaveCommitted
    cases point with
    | finishing completion => exact hreports hpoint
    | unlistening completion | done completion | failed error | sleeping =>
      exact absurd (hwatching.symm.trans hpoint.2.unwatched) (by simp)
    | sending query | awaiting query sent => cases query <;> simpa [AtPoint] using hpoint
    | loop | acquiring => exact hpoint.elim
    | _ => simpa [AtPoint] using hpoint
  · rwa [TransactionAttempt.onAbort, if_neg hwatching]

theorem Held.abort (h : s.Held) {reason : Thrown} (hok : s.Prudent (.abort reason release))
    (hstep : step cfg s (.abort reason release) = some t) : t.Held := by
  have hpast : s.past.map (TransactionAttempt.onAbort release) = s.past := by
    conv_rhs => rw [← List.map_id s.past]
    exact List.map_congr_left fun a ha => (h.past a ha).2.1.onAbort
  simp only [step] at hstep
  split at hstep
  · cases hstep
  · cases hstep
  next hr _ =>
  cases hstep
  rw [hpast]
  refine ⟨h.past, h.late, fun b hb => ?_, fun hnone => h.alone (by simpa using hnone), ?_⟩
  · obtain ⟨a, ha, rfl⟩ := Option.map_eq_some_iff.mp hb
    obtain ⟨htidy, hpoint⟩ := h.current a ha
    exact ⟨htidy.onAbort, atPoint_onAbort hpoint⟩
  · rintro _ ⟨⟩ hclass
    rcases hok with hne | hmay
    · exact absurd hclass hne
    obtain ⟨a, ha, hmay⟩ := Option.any_eq_true .. |>.mp hmay
    obtain ⟨htidy, hpoint⟩ := h.current a ha
    refine ⟨fun hp => ?_, a.onAbort release, by simp [ha], ?_⟩
    · have hp' : s.point = .sleeping := hp
      rw [hp'] at hpoint
      exact absurd (hmay.symm.trans hpoint.1) (by simp)
    · rw [htidy.mayHaveCommitted_eq, Bool.and_eq_true] at hmay
      unfold TransactionAttempt.onAbort
      split
      · simpa using htidy.sent hmay.1
      · exact htidy.sent hmay.1

theorem Held.lateClient (h : s.Held) {thrown : Option Thrown} (hok : s.Prudent (.lateClient thrown))
    (hstep : step cfg s (.lateClient thrown) = some t) : t.Held := by
  simp only [step] at hstep
  split at hstep
  · cases hstep
    obtain rfl : thrown = none := hok
    exact ⟨h.past, List.forall_mem_cons.mpr ⟨rfl, h.late⟩, h.current, h.alone, h.reason⟩
  · cases hstep

/-- Every prudent step keeps the bookkeeping in order. -/
theorem Held.step (h : s.Held) {l : TransactorLabel} (hok : s.Prudent l)
    (hstep : TransactorState.step cfg s l = some t) : t.Held := by
  cases l with
  | run release => exact h.run hstep
  | connected nonce => exact h.connected hstep
  | acquireTimesOut => exact h.acquireTimesOut hstep
  | listener thrown => exact h.listener hok hstep
  | answers result => exact h.answers hstep
  | settles => exact h.settles hstep
  | fails error => exact h.fails hok hstep
  | cut => exact h.cut hstep
  | callerQuery sql commits => exact h.callerQuery hok hstep
  | abort reason release => exact h.abort hok hstep
  | lateClient thrown => exact h.lateClient hok hstep

/-- All attempts of a call that have acquired a client. -/
def attempts (s : TransactorState) : List TransactionAttempt := s.current.toList ++ s.past

/-- What a caller relies on. -/
structure Sound (s : TransactorState) : Prop where
  /-- The call resolves, or throws a `PostCommitReleaseError`, behind a confirmed `COMMIT`. -/
  confirmed : ∀ outcome, s.point = .done outcome →
    (outcome = .ok () ∨ ∃ e, outcome = .error e ∧ e.errorClass = .postCommitRelease) →
    ∃ a, s.current = some a ∧ a.committed = true
  /-- Behind an ordinary error nothing has committed. -/
  refused : ∀ e, s.point = .done (.error e) → e.errorClass ≠ .postCommitRelease →
    e.errorClass ≠ .ambiguousCommit → ∀ a ∈ s.attempts, a.mayHaveCommitted = false
  /-- An attempt that may have committed is the last one, and calls back once. -/
  final : ∀ a ∈ s.past, a.mayHaveCommitted = false
  callback : s.point = .callingBack → ∃ a, s.current = some a ∧ a.mayHaveCommitted = false ∧
    a.calledBack = false
  /-- Every client is released once in the end, and never twice. -/
  released : ∀ a ∈ s.attempts, a.releases.length ≤ 1 ∧
    (∀ outcome, s.point = .done outcome → a.releases.length = 1)
  late : ∀ releases ∈ s.lateClients, releases = [true]
  /-- A client that goes back to the pool has committed and has been scrubbed. -/
  reused : ∀ a ∈ s.attempts, false ∈ a.releases → a.committed = true ∧ a.scrubbed = true

theorem Held.sound (h : s.Held) : s.Sound := by
  have htidy : ∀ a ∈ s.attempts, a.Tidy := by
    intro a ha
    rcases List.mem_append.mp ha with ha | ha
    · exact (h.current a (by simpa using ha)).1
    · exact (h.past a ha).1
  have hdone {outcome : Except Thrown Unit} (hp : s.point = .done outcome) {a : TransactionAttempt}
      (ha : s.current = some a) : a.Reports outcome ∧ a.Settled := by
    have hpoint := (h.current a ha).2
    rwa [hp] at hpoint
  refine ⟨fun outcome hp hpost => ?_, fun e hp hpost hambiguous a ha => ?_, fun a ha => (h.past a ha).2.2,
    fun hp => ?_, fun a ha => ⟨?_, fun outcome hp => ?_⟩, h.late, fun a ha => (htidy a ha).reused⟩
  · cases ha : s.current with
    | none =>
      have halone := h.alone ha
      rw [hp] at halone
      rcases hpost with rfl | ⟨e, rfl, hclass⟩
      · exact absurd halone (by simp [Alone])
      · exact absurd hclass halone
    | some a =>
      obtain ⟨hreports, -⟩ := hdone hp ha
      rcases hpost with rfl | ⟨e, rfl, hclass⟩
      · exact ⟨a, rfl, hreports.resolves rfl⟩
      · exact ⟨a, rfl, hreports.durable e rfl hclass⟩
  · rcases List.mem_append.mp ha with ha | ha
    · exact (hdone hp (by simpa using ha)).1.refuses e rfl hpost hambiguous
    · exact (h.past a ha).2.2
  · obtain ⟨a, ha⟩ := h.attempt_of (by simp [hp, Alone])
    obtain ⟨htidy, hpoint⟩ := h.current a ha
    rw [hp] at hpoint
    exact ⟨a, ha, (htidy.not_sent hpoint.1).1, hpoint.2⟩
  · by_cases hopen : a.releaseState = .open
    · rw [(htidy a ha).held hopen]
      exact Nat.zero_le _
    · exact Nat.le_of_eq ((htidy a ha).once hopen)
  · refine (htidy a ha).once ?_
    rcases List.mem_append.mp ha with ha | ha
    · exact (hdone hp (by simpa using ha)).2.released
    · exact (h.past a ha).2.1.released

end TransactorState

open TransactorState in
/-- Whatever the driver, the callback and the signal do, prudently, in whatever order. -/
theorem transaction_sound {cfg : TransactorConfig} {s : TransactorState} {ls : List TransactorLabel}
    (hrun : (transactor cfg).Runs Prudent {} ls s) : s.Sound :=
  (hrun.invariant (fun _ _ _ h hok hstep => h.step hok hstep) held_start).sound

section Sample

namespace TransactorState

instance (s : TransactorState) (l : TransactorLabel) : Decidable (s.Prudent l) :=
  match l with
  | .fails _ | .abort _ _ => inferInstanceAs (Decidable (_ ∨ _))
  | .listener thrown => inferInstanceAs (Decidable (∀ e ∈ thrown, s.point ≠ .listening ∧ _ ∧ _))
  | .callerQuery sql commits =>
    inferInstanceAs (Decidable (commits = true → assertCallerQueryAllowed sql ≠ .ok ()))
  | .lateClient thrown => inferInstanceAs (Decidable (thrown = none))
  | .run _ | .connected _ | .acquireTimesOut | .answers _ | .settles | .cut =>
    inferInstanceAs (Decidable True)

end TransactorState

def sampleNonce : JsString := JsString.lit "nonce"

/-- An answer that confirms a statement of the default configuration. -/
def confirming : ControlQuery → NodePostgresResult
  | .begin => ⟨JsString.lit "BEGIN", []⟩
  | .installTimeout => ⟨JsString.lit "SELECT", [("statement_timeout", JsString.lit "30s")]⟩
  | .readTimeout => ⟨JsString.lit "SELECT", [("statement_timeout_ms", JsString.lit "30000")]⟩
  | .arm | .continuity => ⟨JsString.lit "SELECT", [("n", sampleNonce)]⟩
  | .assertDurable | .assertDurableAgain =>
    ⟨JsString.lit "SELECT", [("fsync", JsString.lit "on"), ("fpw", JsString.lit "on")]⟩
  | .forceSynchronousCommit => ⟨JsString.lit "SELECT", [("sc", JsString.lit "on")]⟩
  | .commit => ⟨JsString.lit "COMMIT", []⟩
  | .discardAll => ⟨JsString.lit "DISCARD", []⟩

def confirmAll (queries : List ControlQuery) : List TransactorLabel :=
  queries.flatMap fun query => [.run .returns, .answers (confirming query)]

/-- From the loop up to the running callback. -/
def sampleOpening : List TransactorLabel :=
  [.run .returns, .connected sampleNonce, .listener none] ++
    confirmAll [.begin, .installTimeout, .readTimeout, .arm, .assertDurable] ++ [.run .returns]

/-- From the end of the callback up to the listener that is removed last. -/
def sampleClosing : List TransactorLabel :=
  [.settles] ++ confirmAll [.continuity, .forceSynchronousCommit, .assertDurableAgain, .commit, .discardAll] ++
    [.run .returns, .run .returns]

/-- The callback throws; the transaction is rolled back and the client destroyed. -/
def sampleRefusal (error : Thrown) : List TransactorLabel :=
  [.fails error, .run .returns, .settles, .run .returns, .run .returns, .listener none, .run .returns]

/-- The callback loses a serialization conflict and is run again. -/
def sampleRetrying : List TransactorLabel :=
  sampleOpening ++ sampleRefusal { code := JsString.lit "40001" } ++ [.settles] ++
    sampleOpening ++ sampleClosing ++ [.listener none]

/-- The callback throws the `PostCommitReleaseError` of a transaction of its own. -/
def nestedRun : List TransactorLabel :=
  sampleOpening ++ sampleRefusal { errorClass := .postCommitRelease }

/-- `client.on` throws. -/
def deafRun : List TransactorLabel :=
  [.run .returns, .connected sampleNonce, .listener (some {}), .run .returns]

/-- `client.removeListener` throws behind the `COMMIT`, and the callback is run again. -/
def repeatedRun : List TransactorLabel :=
  sampleOpening ++ sampleClosing ++ [.listener (some { code := JsString.lit "40001" }), .run .returns, .settles] ++
    sampleOpening

/-- A statement of the callback commits and the callback throws. -/
def escapedRun : List TransactorLabel :=
  sampleOpening ++ [.callerQuery (JsString.lit "SELECT '\\'; COMMIT --'") true] ++ sampleRefusal {}

end Sample

open TransactorState in
theorem transaction_sound_sample : ∃ s,
    (transactor { maxSerializationRetries := 1 }).Runs Prudent {} sampleRetrying s ∧
    s.point = .done (.ok ()) ∧ s.attempts.map TransactionAttempt.releases = [[false], [true]] ∧ s.Sound := by
  obtain ⟨s, hrun, hobserved⟩ := Machine.Runs.of_observed
    (M := transactor { maxSerializationRetries := 1 }) (C := Prudent) {} sampleRetrying
    (fun s => (s.point, s.attempts.map TransactionAttempt.releases))
    (b := (.done (.ok ()), [[false], [true]])) (by decide +kernel)
  obtain ⟨hpoint, hreleases⟩ := Prod.mk.inj hobserved
  exact ⟨s, hrun, hpoint, hreleases, transaction_sound hrun⟩

/-- A run at whose end a promise is broken. -/
def Unsound (ls : List TransactorLabel) : Prop :=
  ∃ s, (transactor { maxSerializationRetries := 1 }).Reaches {} ls s ∧ ¬ s.Sound

/-- Without prudence every one of the promises can be broken. -/
theorem transaction_unsound :
    Unsound nestedRun ∧ Unsound deafRun ∧ Unsound repeatedRun ∧ Unsound escapedRun := by
  have observe {α : Type} [DecidableEq α] (ls : List TransactorLabel) (f : TransactorState → α) (b : α)
      (h : (((transactor { maxSerializationRetries := 1 }).exec (fun _ _ => True) {} ls).map f) = some b)
      (hbad : ∀ s, f s = b → ¬ s.Sound) : Unsound ls := by
    obtain ⟨s, hrun, hobserved⟩ := Machine.Runs.of_observed {} ls f h
    exact ⟨s, hrun, hbad s hobserved⟩
  refine ⟨?_, ?_, ?_, ?_⟩
  · refine observe nestedRun (fun s => (s.point, s.current.map TransactionAttempt.committed))
      (.done (.error { errorClass := .postCommitRelease }), some false) (by decide +kernel) ?_
    intro s hs hsound
    obtain ⟨hpoint, hcommitted⟩ := Prod.mk.inj hs
    obtain ⟨a, ha, hc⟩ := hsound.confirmed _ hpoint (.inr ⟨_, rfl, rfl⟩)
    rw [ha, Option.map_some, hc] at hcommitted
    cases hcommitted
  · refine observe deafRun (fun s => (s.point, s.attempts.map TransactionAttempt.releases))
      (.done (.error {}), [[]]) (by decide +kernel) ?_
    intro s hs hsound
    obtain ⟨hpoint, hreleases⟩ := Prod.mk.inj hs
    obtain ⟨a, ha, hnone⟩ : ∃ a ∈ s.attempts, a.releases = [] := by
      rw [← List.mem_map, hreleases, List.mem_singleton]
    have honce := (hsound.released a ha).2 _ hpoint
    rw [hnone] at honce
    cases honce
  · refine observe repeatedRun (fun s => (s.point, s.past.map TransactionAttempt.mayHaveCommitted))
      (.runningCallback, [true]) (by decide +kernel) ?_
    intro s hs hsound
    obtain ⟨-, hpast⟩ := Prod.mk.inj hs
    obtain ⟨a, ha, hmay⟩ : ∃ a ∈ s.past, a.mayHaveCommitted = true := by
      rw [← List.mem_map, hpast, List.mem_singleton]
    exact absurd (hmay.symm.trans (hsound.final a ha)) (by simp)
  · refine observe escapedRun (fun s => (s.point, s.attempts.map TransactionAttempt.mayHaveCommitted))
      (.done (.error {}), [true]) (by decide +kernel) ?_
    intro s hs hsound
    obtain ⟨hpoint, hattempts⟩ := Prod.mk.inj hs
    obtain ⟨a, ha, hmay⟩ : ∃ a ∈ s.attempts, a.mayHaveCommitted = true := by
      rw [← List.mem_map, hattempts, List.mem_singleton]
    have hrefused := hsound.refused _ hpoint (by simp) (by simp) a ha
    exact absurd (hmay.symm.trans hrefused) (by simp)

end TskProtocol
