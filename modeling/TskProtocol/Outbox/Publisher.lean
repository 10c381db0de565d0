import TskProtocol.Lib.Machine
import TskProtocol.Outbox.Receiver

namespace TskProtocol

namespace ReceiverDecision

/-- The decision as it is written on a receipt. -/
def text : ReceiverDecision → JsString
  | applied => JsString.lit "applied"
  | duplicateOk => JsString.lit "duplicate-ok"
  | rejectGap => JsString.lit "reject-gap"
  | rejectFork => JsString.lit "reject-fork"
  | rejectStale => JsString.lit "reject-stale"
  | rejectEpoch => JsString.lit "reject-epoch"
  | rejectFence => JsString.lit "reject-fence"
  | rejectUnsanitized => JsString.lit "reject-unsanitized"

def ACK_DECISIONS : List ReceiverDecision := [applied, duplicateOk]
def TRANSIENT_DECISIONS : List ReceiverDecision := [rejectGap, rejectFence]
def TERMINAL_DECISIONS : List ReceiverDecision :=
  [rejectFork, rejectStale, rejectUnsanitized, rejectEpoch]
def KNOWN_DECISIONS : List ReceiverDecision :=
  ACK_DECISIONS ++ TRANSIENT_DECISIONS ++ TERMINAL_DECISIONS

def ofText (text : JsString) : Option ReceiverDecision :=
  KNOWN_DECISIONS.find? (fun decision => decision.text = text)

theorem ofText_text (decision : ReceiverDecision) : ofText decision.text = some decision := by
  cases decision <;> decide +kernel

end ReceiverDecision

structure TskAckReceipt where
  streamId : JsString
  sourceEpoch : JsString
  sequence : Int
  opDigest : JsString
  decision : JsString
  receiverId : JsString
  keyId : JsString
  issuedAt : JsString
  signature : JsString
  deriving DecidableEq, Repr

/-- A failed delivery, with its `retriable` marker if it carries one. -/
structure TransportFailure where
  retriable : Option Bool
  deriving DecidableEq, Repr

def isTerminalTransportError (failure : TransportFailure) : Bool := failure.retriable = some false

namespace SourceDb

def acquireLease (db : SourceDb) (leaseToken : Nat) (now leaseMs : Int) : Option SourceDb :=
  if db.lease.all (fun lease => lease.leaseUntil.all (· < now)) then
    some { db with lease := some ⟨some leaseToken, some (now + leaseMs)⟩ }
  else none

def holdsLease (db : SourceDb) (leaseToken : Nat) : Bool :=
  db.lease.any (fun lease => lease.leaseToken = some leaseToken)

def releaseLease (db : SourceDb) (leaseToken : Nat) : SourceDb :=
  if db.holdsLease leaseToken then { db with lease := some ⟨none, none⟩ } else db

def nextDeliverable (db : SourceDb) : Option OutboxRow := db.rows.find? (·.deliverable)

/-- Update the rows that match, which has to be exactly one. -/
def updateOne (db : SourceDb) (matching : OutboxRow → Bool) (update : OutboxRow → OutboxRow) :
    Except ContractError SourceDb :=
  if (db.rows.filter matching).length = 1 then
    .ok { db with rows := db.rows.map (fun row => if matching row then update row else row) }
  else .error .noAffectedRow

def isRow (record : OutboxRecord) (row : OutboxRow) : Bool :=
  row.record.sourceEpoch = record.sourceEpoch && row.sequence = record.sequence && row.deliverable

def ack (db : SourceDb) (leaseToken : Nat) (record : OutboxRecord) :
    Except ContractError SourceDb :=
  if db.holdsLease leaseToken = false then .error .leaseLost
  else db.updateOne (fun row => isRow record row && row.record.opDigest = record.opDigest)
    (fun row => { row with acked := true })

def recordQuarantine (db : SourceDb) (entry : QuarantineEntry) : Except ContractError SourceDb :=
  match db.quarantine.find? (fun other =>
      other.sourceEpoch = entry.sourceEpoch && other.sequence = entry.sequence) with
  | none => .ok { db with quarantine := db.quarantine ++ [entry] }
  | some other => if other = entry then .ok db else .error .quarantineConflict

def quarantineAndHalt (db : SourceDb) (leaseToken : Nat) (record : OutboxRecord)
    (reason : QuarantineReason) : Except ContractError SourceDb :=
  if db.holdsLease leaseToken = false then .error .leaseLost
  else do
    let entry : QuarantineEntry := ⟨record.sourceEpoch, record.sequence, record.opDigest, reason⟩
    let recorded ← db.recordQuarantine entry
    let marked ← recorded.updateOne (isRow record) (fun row => { row with quarantined := true })
    return { marked with halted := some (marked.halted.getD entry) }

end SourceDb

/-- A call of `drainOnce`, between two of its transactions. -/
inductive Drain
  | checking
  | acquiring
  | selecting (leaseToken : Nat)
  | awaiting (leaseToken : Nat) (record : OutboxRecord) (head : SignedStreamHead)
  | acking (leaseToken : Nat) (record : OutboxRecord)
  | quarantining (leaseToken : Nat) (record : OutboxRecord) (reason : QuarantineReason)
  | releasing (leaseToken : Nat)
  deriving DecidableEq, Repr

/-- One stream with its source, its publishers and its receiver. -/
structure OutboxConfig where
  outbox : PgTskOutboxOptions
  leaseMs : Int
  /-- Whether `headVerifier` accepts a head, when it can be reached. -/
  verifyHead : SignedStreamHead → Bool
  verifyAck : TskAckReceipt → OutboxRecord → Bool
  receiverId : JsString
  ackKeyId : JsString
  /-- The signature on a receipt, over everything else on it. -/
  signAck : AppliedRow → JsString → JsString → JsString

def OutboxConfig.receiver (cfg : OutboxConfig) : PgTskReceiverOptions where
  streamId := cfg.outbox.streamId
  sanitizer := cfg.outbox.sanitizer

/-- The receipt for a decision on a record. -/
def OutboxConfig.receipt (cfg : OutboxConfig) (record : OutboxRecord) (decision : ReceiverDecision)
    (issuedAt : JsString) : TskAckReceipt where
  streamId := record.streamId
  sourceEpoch := record.sourceEpoch
  sequence := record.sequence
  opDigest := record.opDigest
  decision := decision.text
  receiverId := cfg.receiverId
  keyId := cfg.ackKeyId
  issuedAt := issuedAt
  signature := cfg.signAck record.key decision.text issuedAt

/-- The checks of a stored row before it is sent. -/
def checkRow (D : Sha256Bytes) (cfg : OutboxConfig) (row : OutboxRow) : Bool :=
  cfg.outbox.sanitizer.assertSanitized row.record.mutation &&
  canonicalOpDigest D cfg.outbox.streamId row.record.sourceEpoch row.sequence row.record.fenceToken
    row.record.mutation = .ok row.record.opDigest &&
  assertStreamHeadBinds D row.record.toOutboxRecordHeader row.head = .ok ()

/-- What a drain does with the outcome of its delivery. -/
def afterDelivery (cfg : OutboxConfig) (leaseToken : Nat) (record : OutboxRecord) :
    Except TransportFailure TskAckReceipt → Drain
  | .error failure =>
    if isTerminalTransportError failure then .quarantining leaseToken record .transportTerminal
    else .releasing leaseToken
  | .ok receipt =>
    if cfg.verifyAck receipt record = false then .releasing leaseToken
    else if receipt.streamId ≠ cfg.outbox.streamId ∨ receipt.sourceEpoch ≠ record.sourceEpoch ∨
        receipt.sequence ≠ record.sequence ∨ receipt.opDigest ≠ record.opDigest then
      .releasing leaseToken
    else match ReceiverDecision.ofText receipt.decision with
      | none => .releasing leaseToken
      | some decision =>
        if decision ∈ ReceiverDecision.ACK_DECISIONS then .acking leaseToken record
        else if decision ∈ ReceiverDecision.TRANSIENT_DECISIONS then .releasing leaseToken
        else .quarantining leaseToken record (.decision decision)

structure OutboxState where
  source : SourceDb
  receiver : ReceiverDb
  drains : List Drain
  /-- Every request sent and every receipt issued: any of them may arrive at any time, any number
  of times, or never. -/
  requests : List (OutboxRecord × SignedStreamHead)
  receipts : List TskAckReceipt
  /-- The records the receiver has applied, oldest first. -/
  log : List OutboxRecord

inductive OutboxLabel
  | append (input : AppendInput) (leaseWritable : Bool)
  | fenceSource (fence : Nat)
  | fenceReceiver (fence : Nat)
  | drain
  /-- The next transaction of a drain; the database clock, and the random lease token. -/
  | advance (index : Nat) (now : Int) (leaseToken : Nat)
  | reply (index : Nat) (outcome : Except TransportFailure TskAckReceipt)
  | crash (index : Nat)
  | deliver (index : Nat) (headVerifierUp : Bool) (issuedAt : JsString)

namespace OutboxState

def start (source : SourceDb) (receiver : ReceiverDb) : OutboxState where
  source := source
  receiver := receiver
  drains := []
  requests := []
  receipts := []
  log := []

/-- A drain moves on, or ends. -/
def park (s : OutboxState) (next : Option Drain) : OutboxState :=
  { s with drains := s.drains ++ next.toList }

/-- A transaction of a drain: an error rolls back, and the drain only releases its lease. -/
def commit (s : OutboxState) (leaseToken : Nat) (next : Drain) :
    Except ContractError SourceDb → OutboxState
  | .ok source => { s with source := source }.park (some next)
  | .error _ => s.park (some (.releasing leaseToken))

def advance (D : Sha256Bytes) (cfg : OutboxConfig) (s : OutboxState) (now : Int) (fresh : Nat) :
    Drain → OutboxState
  | .checking => s.park (if s.source.halted.isSome then none else some .acquiring)
  | .acquiring =>
    match s.source.acquireLease fresh now cfg.leaseMs with
    | none => s
    | some source => { s with source := source }.park (some (.selecting fresh))
  | .selecting leaseToken =>
    match s.source.nextDeliverable with
    | none => s.park (some (.releasing leaseToken))
    | some row =>
      if s.source.holdsLease leaseToken && checkRow D cfg row then
        { s with requests := s.requests ++ [(row.record, row.head)] }.park
          (some (.awaiting leaseToken row.record row.head))
      else s.park (some (.releasing leaseToken))
  | .awaiting leaseToken record head => s.park (some (.awaiting leaseToken record head))
  | .acking leaseToken record =>
    s.commit leaseToken (.selecting leaseToken) (s.source.ack leaseToken record)
  | .quarantining leaseToken record reason =>
    s.commit leaseToken (.releasing leaseToken)
      (s.source.quarantineAndHalt leaseToken record reason)
  | .releasing leaseToken => { s with source := s.source.releaseLease leaseToken }

def reply (cfg : OutboxConfig) (s : OutboxState) (outcome : Except TransportFailure TskAckReceipt) :
    Drain → OutboxState
  | .awaiting leaseToken record _ => s.park (some (afterDelivery cfg leaseToken record outcome))
  | drain => s.park (some drain)

def deliver (D : Sha256Bytes) (cfg : OutboxConfig) (s : OutboxState) (headVerifierUp : Bool)
    (issuedAt : JsString) (record : OutboxRecord) (head : SignedStreamHead) : OutboxState :=
  let verdict : HeadVerdict :=
    if headVerifierUp then (if cfg.verifyHead head then .valid else .invalid) else .unavailable
  match verifyAndApplyTumblerInTx D cfg.receiver s.receiver verdict record head with
  | .error _ => s
  | .ok (decision, receiver) =>
    { s with
      receiver := receiver
      receipts := s.receipts ++ [cfg.receipt record decision issuedAt]
      log := if decision = .applied then s.log ++ [record] else s.log }

def step (D : Sha256Bytes) (cfg : OutboxConfig) (s : OutboxState) :
    OutboxLabel → Option OutboxState
  | .append input leaseWritable =>
    match appendInTx D cfg.outbox leaseWritable s.source input with
    | .error _ => none
    | .ok (_, source) => some { s with source := source }
  | .fenceSource fence => some { s with source := { s.source with fence := some fence } }
  | .fenceReceiver fence => some { s with receiver := { s.receiver with fence := some fence } }
  | .drain => some (s.park (some .checking))
  | .advance index now leaseToken => (s.drains[index]?).map
      (advance D cfg { s with drains := s.drains.eraseIdx index } now leaseToken)
  | .reply index outcome => (s.drains[index]?).map
      (reply cfg { s with drains := s.drains.eraseIdx index } outcome)
  | .crash index => some { s with drains := s.drains.eraseIdx index }
  | .deliver index headVerifierUp issuedAt => (s.requests[index]?).map
      (fun request => s.deliver D cfg headVerifierUp issuedAt request.1 request.2)

end OutboxState

/-- Any number of appends, drains and deliveries at once; every transaction is serializable. -/
def outboxMachine (D : Sha256Bytes) (cfg : OutboxConfig) : Machine OutboxState OutboxLabel where
  step := OutboxState.step D cfg

end TskProtocol
