import TskProtocol.Lib.Machine
import TskProtocol.Transactor.Guard

namespace TskProtocol

/-- What the caller of a transactor tells apart. -/
inductive ErrorClass
  | postCommitRelease | ambiguousCommit | connectionDisposal | ordinary
  deriving DecidableEq, Repr

/-- A thrown value: its class, and its `code` when that is a string. -/
structure Thrown where
  errorClass : ErrorClass := .ordinary
  code : Option JsString := none
  deriving DecidableEq, Repr

def RETRYABLE : List JsString := ["40001", "40P01"].map JsString.lit

def Thrown.isRetryable (e : Thrown) : Bool := e.code.any (· ∈ RETRYABLE)

/-- An answer of the driver: its command tag, and the columns of the first row that are strings. -/
structure NodePostgresResult where
  command : Option JsString
  columns : List (String × JsString) := []
  deriving DecidableEq, Repr

def NodePostgresResult.column (r : NodePostgresResult) (name : String) : Option JsString :=
  r.columns.lookup name

structure TransactorConfig where
  synchronousCommit : JsString := JsString.lit "on"
  statementTimeoutMs : Nat := 30000
  maxSerializationRetries : Nat := 0
  /-- Whether the caller passed `onBeforeCommit`. -/
  hooked : Bool := false

/-- The statements that `runOnce` itself sends, in their order; the callback and the hook come
before `continuity`. -/
inductive ControlQuery
  | begin | installTimeout | readTimeout | arm | assertDurable | continuity | forceSynchronousCommit
  | assertDurableAgain | commit | discardAll
  deriving DecidableEq, Repr

/-- The checks on the answer to a statement. -/
def ControlQuery.confirmed (cfg : TransactorConfig) (nonce : JsString) (r : NodePostgresResult) :
    ControlQuery → Bool
  | .begin => r.command = JsString.lit "BEGIN"
  | .installTimeout => r.command = JsString.lit "SELECT" && (r.column "statement_timeout").isSome
  | .readTimeout => r.command = JsString.lit "SELECT" &&
      r.column "statement_timeout_ms" = some (JsString.ofNat cfg.statementTimeoutMs)
  | .arm | .continuity => r.command = JsString.lit "SELECT" && r.column "n" = some nonce
  | .assertDurable | .assertDurableAgain => r.command = JsString.lit "SELECT" &&
      r.column "fsync" = some (JsString.lit "on") && r.column "fpw" = some (JsString.lit "on")
  | .forceSynchronousCommit => r.command = JsString.lit "SELECT" &&
      r.column "sc" = some cfg.synchronousCommit
  | .commit => r.command = JsString.lit "COMMIT"
  | .discardAll => r.command = JsString.lit "DISCARD"

inductive ReleaseState
  | open | released | destroyed | failed
  deriving DecidableEq, Repr

/-- One call of `runOnce` that has acquired its client: the variables of the call, and below them
what has happened outside. -/
structure TransactionAttempt where
  nonce : JsString
  releaseState : ReleaseState := .open
  disposalError : Option Thrown := none
  committed : Bool := false
  commitDispatched : Bool := false
  commitDefinitivelyAborted : Bool := false
  /-- Whether the listener that destroys the client on an abort is attached. -/
  watching : Bool := true
  calledBack : Bool := false
  /-- Whether `COMMIT` went to the driver. -/
  commitSent : Bool := false
  scrubbed : Bool := false
  /-- Whether a statement of the callback has committed. -/
  committedByCallback : Bool := false
  /-- The calls of `client.release`, each with its `destroy`. -/
  releases : List Bool := []
  deriving DecidableEq, Repr

/-- The server rolls back what it has not been told to commit, and what it answers `ROLLBACK` to. -/
def TransactionAttempt.mayHaveCommitted (a : TransactionAttempt) : Bool :=
  (a.commitSent && !a.commitDefinitivelyAborted) || a.committedByCallback

inductive ReleaseResult
  | returns
  /-- `none` when `undefined` is thrown. -/
  | throws (e : Option Thrown)
  deriving DecidableEq, Repr

/-- `terminalRelease`. -/
def TransactionAttempt.release (a : TransactionAttempt) (destroy : Bool) (result : ReleaseResult) : TransactionAttempt :=
  if a.releaseState ≠ .open then a
  else match result with
    | .returns => { a with
        releaseState := if destroy then .destroyed else .released
        releases := destroy :: a.releases }
    | .throws e => { a with
        releaseState := .failed
        disposalError := e
        releases := destroy :: a.releases }

/-- The listener on the signal. -/
def TransactionAttempt.onAbort (result : ReleaseResult) (a : TransactionAttempt) : TransactionAttempt :=
  if a.watching then a.release true result else a

/-- Where a call of `transaction` stands: between two synchronous stretches or in front of a call
of the driver. -/
inductive TransactorPoint
  | loop
  | acquiring
  | listening
  | sending (query : ControlQuery)
  | awaiting (query : ControlQuery) (sent : Bool)
  | callingBack
  | runningCallback
  | runningHook
  /-- `destroy` after a failed scrub. -/
  | discarding
  | releasingNormally
  | caught (error : Thrown)
  | rollingBack (error : Thrown)
  | disposing (error : Thrown)
  | finishing (completion : Except Thrown Unit)
  | unlistening (completion : Except Thrown Unit)
  | failed (error : Thrown)
  | sleeping
  | done (outcome : Except Thrown Unit)
  deriving DecidableEq, Repr

structure TransactorState where
  point : TransactorPoint := .loop
  /-- What `abortError` makes of the signal, once it has been aborted. -/
  aborted : Option Thrown := none
  attempt : Nat := 0
  /-- The attempt that is under way or has ended the call, once it has its client. -/
  current : Option TransactionAttempt := none
  /-- The attempts before it. -/
  past : List TransactionAttempt := []
  /-- The acquisitions that were given up before the pool answered. -/
  pendingClients : Nat := 0
  /-- For each client that arrived too late, the calls of its `release`. -/
  lateClients : List (List Bool) := []
  deriving DecidableEq, Repr

inductive TransactorLabel
  /-- A synchronous stretch; the result is that of `client.release`, where that is called. -/
  | run (release : ReleaseResult)
  | connected (nonce : JsString)
  | acquireTimesOut
  /-- A call of `client.on` or `client.removeListener`. -/
  | listener (thrown : Option Thrown)
  | answers (result : NodePostgresResult)
  /-- The callback, the hook, the rollback or the sleep comes to its end. -/
  | settles
  | fails (error : Thrown)
  /-- The abort wins a race. -/
  | cut
  /-- A statement of the callback; `commits` when the server takes it to end the transaction. -/
  | callerQuery (sql : JsString) (commits : Bool)
  | abort (reason : Thrown) (release : ReleaseResult)
  /-- A client whose acquisition was given up arrives; its release cannot change anything. -/
  | lateClient (listener : Option Thrown)
  deriving DecidableEq, Repr

namespace TransactorState

variable (cfg : TransactorConfig) (s : TransactorState)

def goto (point : TransactorPoint) : TransactorState := { s with point := point }

/-- The same call with other values of the variables of `runOnce`. -/
def withAttempt (a : TransactionAttempt) : TransactorState := { s with current := some a }

/-- What follows a confirmed statement. -/
def afterConfirmed : ControlQuery → TransactorPoint
  | .begin => .sending .installTimeout
  | .installTimeout => .sending .readTimeout
  | .readTimeout => .sending .arm
  | .arm => .sending .assertDurable
  | .assertDurable => .callingBack
  | .continuity => .sending .forceSynchronousCommit
  | .forceSynchronousCommit => .sending .assertDurableAgain
  | .assertDurableAgain => .sending .commit
  | .commit => .sending .discardAll
  | .discardAll => .releasingNormally

/-- Where a failed statement is caught. -/
def afterFailed (error : Thrown) : ControlQuery → TransactorPoint
  | .discardAll => .discarding
  | _ => .caught error

/-- `query(...)`: nothing goes to the driver once the signal has been aborted. -/
def send (a : TransactionAttempt) (query : ControlQuery) : TransactorState :=
  let sent := s.aborted.isNone
  let a := if query = .commit then { a with commitDispatched := true, commitSent := sent } else a
  (s.withAttempt a).goto (.awaiting query sent)

def answered (a : TransactionAttempt) (query : ControlQuery) (r : NodePostgresResult) : TransactorState :=
  if query.confirmed cfg a.nonce r then
    let a := match query with
      | .commit => { a with committed := true }
      | .discardAll => { a with scrubbed := true }
      | _ => a
    (s.withAttempt a).goto (afterConfirmed query)
  else
    let a := if query = .commit then
        { a with commitDefinitivelyAborted := decide (r.command = JsString.lit "ROLLBACK") }
      else a
    (s.withAttempt a).goto (afterFailed {} query)

/-- The `catch` of `runOnce`, up to the rollback. -/
def catchError (a : TransactionAttempt) (error : Thrown) : TransactorState :=
  if a.committed = false ∧ a.commitDispatched = false ∧ a.releaseState = .open ∧ s.aborted = none then
    s.goto (.rollingBack error)
  else s.goto (.disposing error)

/-- What the `catch` of `runOnce` throws. -/
def classify (a : TransactionAttempt) (error : Thrown) : Thrown :=
  if a.commitDispatched ∧ a.committed = false ∧ a.commitDefinitivelyAborted = false then
    { errorClass := .ambiguousCommit }
  else if a.committed = false ∧ a.disposalError ≠ none then { errorClass := .connectionDisposal }
  else error

/-- A synchronous stretch of a call that has its client. -/
def runAttempt (a : TransactionAttempt) (release : ReleaseResult) : Option TransactorState :=
  match s.point with
  | .sending query => some (s.send a query)
  | .callingBack => some ((s.withAttempt { a with calledBack := true }).goto .runningCallback)
  | .discarding => some ((s.withAttempt (a.release true release)).goto
      (.caught { errorClass := .postCommitRelease }))
  | .releasingNormally =>
    let a := a.release false release
    some ((s.withAttempt a).goto (if a.releaseState = .failed then
      .caught { errorClass := .postCommitRelease } else .finishing (.ok ())))
  | .caught error => some (s.catchError a error)
  | .disposing error =>
    let a := a.release true release
    some ((s.withAttempt a).goto (.finishing (.error (classify a error))))
  | .finishing completion =>
    some ((s.withAttempt { a.release true release with watching := false }).goto (.unlistening completion))
  | _ => none

/-- The retry loop of `transaction`. -/
def runLoop : Option TransactorState :=
  match s.point with
  | .loop =>
    match s.aborted with
    | some reason => some (s.goto (.done (.error reason)))
    | none => some (s.goto .acquiring)
  | .failed error =>
    if error.isRetryable = false ∨ cfg.maxSerializationRetries ≤ s.attempt ∨ s.aborted.isSome then
      some (s.goto (.done (.error error)))
    else some (s.goto .sleeping)
  | _ => none

def step : TransactorLabel → Option TransactorState
  | .run release =>
    match s.current with
    | some a => (s.runAttempt a release).or (s.runLoop cfg)
    | none => s.runLoop cfg
  | .connected nonce =>
    if s.point = .acquiring then
      some { s with point := .listening, current := some { nonce } }
    else none
  | .acquireTimesOut =>
    if s.point = .acquiring then
      some { s with point := .failed {}, pendingClients := s.pendingClients + 1 }
    else none
  | .listener thrown =>
    match s.point, s.current, thrown with
    | .listening, some _, none => some (s.goto (.sending .begin))
    | .listening, some _, some e => some (s.goto (.failed e))
    | .unlistening (.ok ()), some _, none => some (s.goto (.done (.ok ())))
    | .unlistening (.error e), some _, none | .unlistening _, some _, some e => some (s.goto (.failed e))
    | _, _, _ => none
  | .answers r =>
    match s.point, s.current with
    | .awaiting query true, some a => some (s.answered cfg a query r)
    | _, _ => none
  | .settles =>
    match s.point with
    | .runningCallback => some (s.goto (if cfg.hooked then .runningHook else .sending .continuity))
    | .runningHook => some (s.goto (.sending .continuity))
    | .rollingBack error => some (s.goto (.disposing error))
    | .sleeping => some { s with
        point := .loop
        attempt := s.attempt + 1
        current := none
        past := s.current.toList ++ s.past }
    | _ => none
  | .fails error =>
    match s.point with
    | .acquiring => some (s.goto (.failed error))
    | .awaiting query true => some (s.goto (afterFailed error query))
    | .runningCallback | .runningHook => some (s.goto (.caught error))
    -- the driver throws at once, out of the `catch`
    | .rollingBack _ => some (s.goto (.finishing (.error error)))
    | _ => none
  | .cut =>
    match s.aborted, s.point with
    | some reason, .acquiring =>
      some { s with point := .failed reason, pendingClients := s.pendingClients + 1 }
    | some reason, .awaiting query _ => some (s.goto (afterFailed reason query))
    | some reason, .runningCallback | some reason, .runningHook => some (s.goto (.caught reason))
    | some _, .rollingBack error => some (s.goto (.disposing error))
    | some reason, .sleeping => some (s.goto (.done (.error reason)))
    | _, _ => none
  | .callerQuery sql commits =>
    match s.current with
    | some a =>
      if a.calledBack ∧ assertCallerQueryAllowed sql = .ok () ∧ s.aborted = none then
        some (s.withAttempt { a with committedByCallback := a.committedByCallback || commits })
      else if a.calledBack then some s
      else none
    | none => none
  | .abort reason release =>
    match s.aborted, s.point with
    | some _, _ | _, .done _ => none
    | none, _ =>
      some { s with
        aborted := some reason
        current := s.current.map (TransactionAttempt.onAbort release)
        past := s.past.map (TransactionAttempt.onAbort release) }
  | .lateClient listener =>
    if 0 < s.pendingClients then
      -- the client stays where it is when its listener throws
      some { s with
        pendingClients := s.pendingClients - 1
        lateClients := (if listener.isSome then [] else [true]) :: s.lateClients }
    else none

/-- Only an acquisition that is under way times out. -/
example : step cfg {} .acquireTimesOut = none := by
  simp only [step]
  rfl

end TransactorState

/-- One call of `transaction`, among all that its driver and its callback may do. -/
def transactor (cfg : TransactorConfig) : Machine TransactorState TransactorLabel where
  step := TransactorState.step cfg

end TskProtocol
