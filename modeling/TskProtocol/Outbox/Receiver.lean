import TskProtocol.Lib.OrderedMap
import TskProtocol.Outbox.Source

namespace TskProtocol

/-- What `StreamHeadVerifier.verify` does: return, throw, or throw the one error that is
retried. -/
inductive HeadVerdict
  | valid | invalid | unavailable
  deriving DecidableEq, Repr

/-- A row of `tsk_outbox_applied`. -/
structure AppliedRow where
  sourceEpoch : JsString
  sequence : Int
  opDigest : JsString
  deriving DecidableEq, Repr

structure ReceiverDb where
  fence : Option Nat
  checkpoint : Option OutboxCheckpoint
  applied : List AppliedRow := []
  /-- `tsk_hotp_consumed`, by tumbler. -/
  consumed : OrderedMap JsString Int := ∅

structure PgTskReceiverOptions where
  streamId : JsString
  sanitizer : HotpMutationSanitizer

def OutboxRecord.key (record : OutboxRecord) : AppliedRow :=
  ⟨record.sourceEpoch, record.sequence, record.opDigest⟩

def ReceiverDb.priorDigest (db : ReceiverDb) (record : OutboxRecord) : Option JsString :=
  (db.applied.find? (fun row => row.sourceEpoch = record.sourceEpoch &&
    row.sequence = record.sequence)).map (·.opDigest)

/-- Apply, consume the counter, note the operation and move the checkpoint.  The first test is
of the constraints of `tsk_hotp_consumed`. -/
def ReceiverDb.apply (db : ReceiverDb) (checkpoint : OutboxCheckpoint) (record : OutboxRecord)
    (head : SignedStreamHead) : Except ContractError (ReceiverDecision × ReceiverDb) := do
  require (record.mutation.tumblerId.fitsIdColumn ∧ 1 ≤ record.mutation.counter ∧
    record.mutation.counter ≤ TSK_HOTP_MAX_COUNTER) .constraintViolation
  require (db.priorDigest record = none) .constraintViolation
  return (.applied, { db with
    consumed := db.consumed.set record.mutation.tumblerId record.mutation.counter
    applied := db.applied ++ [record.key]
    checkpoint := some { checkpoint with
      sequence := record.sequence
      headDigest := head.headDigest } })

/-- The part of `verifyAndApplyTumblerInTx` behind the receiver's checkpoint. -/
def ReceiverDb.applyAt (db : ReceiverDb) (checkpoint : OutboxCheckpoint) (record : OutboxRecord)
    (head : SignedStreamHead) : Except ContractError (ReceiverDecision × ReceiverDb) :=
  if record.sourceEpoch ≠ checkpoint.sourceEpoch then .ok (.rejectEpoch, db)
  else if record.sequence ≤ checkpoint.sequence then
    match db.priorDigest record with
    | some opDigest =>
      .ok (if opDigest = record.opDigest then .duplicateOk else .rejectFork, db)
    | none => .ok (.rejectStale, db)
  else if checkpoint.sequence + 1 < record.sequence then .ok (.rejectGap, db)
  else if head.prevHeadDigest ≠ checkpoint.head then .ok (.rejectFork, db)
  -- The high-water mark of the tumbler: a counter at or below it is a replay.
  else if (db.consumed.get? record.mutation.tumblerId).any (record.mutation.counter ≤ ·) then
    .ok (.rejectFork, db)
  else db.apply checkpoint record head

/-- The part of `verifyAndApplyTumblerInTx` that reads the tables. -/
def ReceiverDb.decide (db : ReceiverDb) (record : OutboxRecord) (head : SignedStreamHead) :
    Except ContractError (ReceiverDecision × ReceiverDb) :=
  if db.fence ≠ some (bigIntOf record.fenceToken) then .ok (.rejectFence, db)
  else do
    let checkpoint ← orThrow db.checkpoint .notProvisioned
    db.applyAt checkpoint record head

/-- `verifyAndApplyTumblerInTx`; an error aborts the transaction. -/
def verifyAndApplyTumblerInTx (D : Sha256Bytes) (opts : PgTskReceiverOptions) (db : ReceiverDb)
    (verdict : HeadVerdict) (record : OutboxRecord) (head : SignedStreamHead) :
    Except ContractError (ReceiverDecision × ReceiverDb) := do
  require (record.streamId = opts.streamId) .streamMismatch
  assertHeaderConformant record.toOutboxRecordHeader
  if opts.sanitizer.assertSanitized record.mutation = false then .ok (.rejectUnsanitized, db)
  else do
    let recomputed ← canonicalOpDigest D record.streamId record.sourceEpoch record.sequence
      record.fenceToken record.mutation
    if recomputed ≠ record.opDigest ∨
        assertStreamHeadBinds D record.toOutboxRecordHeader head ≠ .ok () then
      .ok (.rejectFork, db)
    else match verdict with
      | .unavailable => .error .headVerificationUnavailable
      | .invalid => .ok (.rejectFork, db)
      | .valid => db.decide record head

end TskProtocol
