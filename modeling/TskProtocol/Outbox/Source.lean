import TskProtocol.Outbox.Contract

namespace TskProtocol

structure OutboxCheckpoint where
  sourceEpoch : JsString
  sequence : Int
  /-- Empty before the first operation. -/
  headDigest : JsString
  deriving DecidableEq, Repr

/-- The head an operation after the checkpoint has to link to. -/
def OutboxCheckpoint.head (checkpoint : OutboxCheckpoint) : JsString :=
  if checkpoint.headDigest = [] then GENESIS_HEAD else checkpoint.headDigest

structure OutboxRow where
  record : OutboxRecord
  head : SignedStreamHead
  acked : Bool := false
  quarantined : Bool := false
  deriving DecidableEq, Repr

def OutboxRow.sequence (row : OutboxRow) : Int := row.record.sequence

def OutboxRow.deliverable (row : OutboxRow) : Bool := !row.acked && !row.quarantined

structure PublisherLease where
  leaseToken : Option Nat
  leaseUntil : Option Int
  deriving DecidableEq, Repr

/-- Why a row was quarantined. -/
inductive QuarantineReason
  | decision (decision : ReceiverDecision)
  | transportTerminal
  deriving DecidableEq, Repr

structure QuarantineEntry where
  sourceEpoch : JsString
  sequence : Int
  opDigest : JsString
  reason : QuarantineReason
  deriving DecidableEq, Repr

/-- The tables of one stream.  Rows stand in the order of their sequences. -/
structure SourceDb where
  fence : Option Nat
  checkpoint : Option OutboxCheckpoint
  rows : List OutboxRow := []
  lease : Option PublisherLease := none
  quarantine : List QuarantineEntry := []
  halted : Option QuarantineEntry := none
  deriving DecidableEq, Repr

structure PgTskOutboxOptions where
  streamId : JsString
  sanitizer : HotpMutationSanitizer
  signer : StreamHeadSigner
  maxPendingRows : Nat
  maxPendingRows_pos : 0 < maxPendingRows

structure AppendInput where
  streamId : JsString
  rawMutation : TskHotpMutation
  fenceToken : Nat
  deriving DecidableEq, Repr

/-- The checks on a sanitized mutation. -/
def checkMutation (mutation : TskHotpMutation) : Except ContractError Unit := do
  require (1 ≤ mutation.counter ∧ mutation.counter ≤ TSK_HOTP_MAX_COUNTER) .counterOutOfRange
  require (1 ≤ mutation.tumblerId.length ∧ mutation.tumblerId.length ≤ 512) .invalidTumblerId

/-- The record and the signed head of an operation behind `checkpoint`. -/
def buildRow (D : Sha256Bytes) (opts : PgTskOutboxOptions) (fence : Nat)
    (checkpoint : OutboxCheckpoint) (mutation : TskHotpMutation) :
    Except ContractError OutboxRow := do
  let fenceDecimal := fenceTokenToDecimal fence
  let nextSeq := checkpoint.sequence + 1
  let opDigest ← canonicalOpDigest D opts.streamId checkpoint.sourceEpoch nextSeq fenceDecimal
    mutation
  let headDigest ← streamHeadDigest D opts.streamId nextSeq checkpoint.head opDigest
    opts.signer.keyId opts.signer.alg
  let head : SignedStreamHead := {
    streamId := opts.streamId
    sequence := nextSeq
    prevHeadDigest := checkpoint.head
    opDigest := opDigest
    keyId := opts.signer.keyId
    alg := opts.signer.alg
    headDigest := headDigest
    signature := opts.signer.sign headDigest }
  let header : OutboxRecordHeader := {
    contractVersion := HA_OUTBOX_CONTRACT_VERSION
    streamId := opts.streamId
    sourceEpoch := checkpoint.sourceEpoch
    sequence := nextSeq
    fenceToken := fenceDecimal
    opDigest := opDigest }
  assertHeaderConformant header
  assertStreamHeadBinds D header head
  return { record := { header with mutation := mutation }, head := head }

/-- The constraints of the table `tsk_outbox_rows`. -/
def OutboxRow.insertable (row : OutboxRow) (rows : List OutboxRow) : Bool :=
  row.record.mutation.tumblerId.fitsIdColumn &&
  1 ≤ row.head.signature.length && row.head.signature.length ≤ 4096 &&
  rows.all (fun other => (other.record.sourceEpoch, other.sequence) ≠
    (row.record.sourceEpoch, row.sequence))

def SourceDb.pending (db : SourceDb) : Nat := (db.rows.filter (·.deliverable)).length

/-- `appendInTx` up to its commit; `leaseWritable` is the verdict of the source lease gate. -/
def appendInTx (D : Sha256Bytes) (opts : PgTskOutboxOptions) (leaseWritable : Bool) (db : SourceDb)
    (input : AppendInput) : Except ContractError (OutboxRow × SourceDb) := do
  require (input.streamId = opts.streamId) .streamMismatch
  let fence ← orThrow db.fence .noFenceRow
  require (input.fenceToken = fence) .staleFence
  require (leaseWritable) .leaseNotWritable
  require (db.pending < opts.maxPendingRows) .backpressure
  let checkpoint ← orThrow db.checkpoint .notProvisioned
  require (checkpoint.sequence < MAX_SAFE_INTEGER) .sequenceExhausted
  let mutation ← orThrow (opts.sanitizer.sanitize input.rawMutation) .unsanitizable
  checkMutation mutation
  let row ← buildRow D opts fence checkpoint mutation
  require (row.insertable db.rows) .constraintViolation
  return (row, { db with
    rows := db.rows ++ [row]
    checkpoint := some { checkpoint with
      sequence := row.sequence
      headDigest := row.head.headDigest } })

end TskProtocol
