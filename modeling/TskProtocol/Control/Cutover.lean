import TskProtocol.Control.Lease

namespace TskProtocol

/-- The epochs strictly between the current activation and the target. -/
def skippedEpochs (currentActivationEpoch targetEpoch : Nat) : List Nat :=
  List.range' (currentActivationEpoch + 1) (targetEpoch - (currentActivationEpoch + 1))

/-- One skipped epoch has no activation, and one terminal row that is ABORTED. -/
def assertConsumedEpoch (cutoverRows : List CutoverRow) (activatedEpochs : List Nat) (epoch : Nat) :
    Except ControlError Unit := do
  require (epoch ∉ activatedEpochs) .skippedEpochActivated
  require (((cutoverRows.filter (·.epoch = epoch)).map (·.phase)).filter (·.terminal) = [.aborted])
    .skippedEpochNotAborted

def assertConsumedEpochs (cutoverRows : List CutoverRow) (activatedEpochs : List Nat) :
    List Nat → Except ControlError Unit
  | [] => return ()
  | epoch :: rest => do
    assertConsumedEpoch cutoverRows activatedEpochs epoch
    assertConsumedEpochs cutoverRows activatedEpochs rest

def assertConsumedActivationEpochs (currentActivationEpoch targetEpoch : Nat)
    (cutoverRows : List CutoverRow) (activatedEpochs : List Nat) : Except ControlError Unit := do
  require (currentActivationEpoch < targetEpoch) .activationEpochNotNew
  assertConsumedEpochs cutoverRows activatedEpochs (skippedEpochs currentActivationEpoch targetEpoch)

namespace HaControlFencing

section Redis

variable (D : Sha256Bytes)

def claimDigest (r : FenceRecord) : JsString :=
  D.hex (frame [some (JsString.lit "tsk_ha_claim/v1"), some r.nodeId,
    some (JsString.ofInt r.fenceEpoch), some (JsString.ofInt r.expiresAt), some r.commandId])

def assertRedisAuthority (r : Option FenceRecord) (witnessEpoch : Nat) (commandId : JsString)
    (targetEpoch : Nat) : Except ControlError Unit :=
  match r with
  | none => require (witnessEpoch = 0) .redisAbsent
  | some r => do
    require ((witnessEpoch : Int) ≤ r.fenceEpoch) .redisRolledBack
    require (r.fenceEpoch ≤ witnessEpoch ∨ (r.fenceEpoch = targetEpoch ∧ r.commandId = commandId))
      .redisAhead

def reconcileFencedRedis (r : Option FenceRecord) (evidence : FenceEvidence) (commandId : JsString) :
    Except ControlError Unit := do
  let r ← orThrow r .redisAbsent
  require (r.fenceEpoch = evidence.witnessTo) .fencedRedisMismatch
  require (r.active = true ∧ r.nodeId = evidence.redisNodeId ∧ r.commandId = commandId ∧
    r.expiresAt = evidence.redisExpiresMs ∧ claimDigest D r = evidence.redisClaimDigest)
    .fencedRedisMismatch

end Redis

variable {E : Ed25519} (D : Sha256Bytes) (H : HmacBytes) (node : HaControlFencing E)

/-- 0 before the first activation. -/
def readActivationEpoch (db : ControlDb) : Except ControlError Nat := do
  match ← node.read D H db.activation with
  | none => do
    require (db.activation.history.isEmpty) .historyWithoutHead
    return 0
  | some head => return head.body.epoch

def assertActivationGap (db : ControlDb) (currentEpoch targetEpoch : Nat) :
    Except ControlError Unit :=
  let skipped := fun epoch => currentEpoch < epoch && epoch < targetEpoch
  assertConsumedActivationEpochs currentEpoch targetEpoch
    (db.cutover.bodies.filter (fun row => skipped row.epoch))
    ((db.activation.bodies.map (·.epoch)).filter skipped)

/-- A cutover row behind the head. -/
def cutTransition (db : ControlDb) (epoch : Nat) (commandId : JsString) (phase : CutoverPhase)
    (evidence : Option CutoverEvidence) : ControlRecord CutoverRow × ControlDb :=
  let row : CutoverRow := { epoch, commandId, phase, evidence }
  (node.next D H db.cutover row, { db with cutover := node.extend D H db.cutover row })

/-- The arguments that the operations on a cutover share. -/
def checkCutover (commandId : JsString) (targetEpoch : Nat) : Except ControlError Unit := do
  let _ ← check (vId commandId matchesId "commandId")
  let _ ← check (vInt targetEpoch "targetEpoch" 1 MAX_EPOCH)

theorem checkCutover_eq_ok {cmd : JsString} {target : Nat} {u : Unit} :
    checkCutover cmd target = .ok u ↔ matchesId cmd = true ∧ 1 ≤ target ∧ target ≤ MAX_EPOCH := by
  simp [checkCutover, bind_eq_ok]

def beginPromotionIntent (db : ControlDb) (cmd : JsString) (target : Nat) :
    Except ControlError (ControlRecord CutoverRow × ControlDb) := do
  checkCutover cmd target
  let w ← node.readProvisioned D H db
  require (target = w.body.epoch + 1) .targetNotNext
  let start := node.cutTransition D H db target cmd .preparing none
  match ← node.read D H db.cutover with
  | none => return start
  | some cur =>
    if cur.body.phase.terminal then return start
    else do
      require (cur.body.commandId = cmd ∧ cur.body.epoch = target) .intentInFlight
      return (cur, db)

def abortFencedPromotion (db : ControlDb) (cmd : JsString) (target : Nat) (reasonCode : JsString) :
    Except ControlError (ControlRecord CutoverRow × ControlDb) := do
  checkCutover cmd target
  let reason ← check (vId reasonCode matchesId "reasonCode")
  let cur ← orThrow (← node.read D H db.cutover) .notPostFence
  let evidence := some (CutoverEvidence.abort reason)
  if cur.body.isAt .aborted cmd target then do
    require (cur.body.evidence = evidence) .abortReasonDiffers
    return (cur, db)
  else do
    require (cur.body.isAt cur.body.phase cmd target ∧ cur.body.phase.postFence) .notPostFence
    let witness ← orThrow (← node.read D H db.witness) .abortWithoutWitness
    require (witness.body.state = .provisioned ∧ witness.body.epoch = target) .abortWithoutWitness
    return node.cutTransition D H db target cmd .aborted evidence

/-- The evidence of the row that a phase of this promotion has left. -/
def evidenceAt (db : ControlDb) (phase : CutoverPhase) (cmd : JsString) (target : Nat) :
    Option CutoverEvidence :=
  (db.cutover.first? (fun row => row.isAt phase cmd target)).bind (·.body.evidence)

def sourceFencedEvidence (db : ControlDb) (cmd : JsString) (target : Nat) :
    Option SourceFencedEvidence :=
  match evidenceAt db .sourceFenced cmd target with
  | some (.sourceFenced e) => some e
  | _ => none

def readyEvidence (db : ControlDb) (cmd : JsString) (target : Nat) : Option ReadyEvidence :=
  match evidenceAt db .ready cmd target with
  | some (.ready e) => some e
  | _ => none

/-- What of a frozen receipt is bound into the cutover. -/
def boundFreeze (fr : SourceFrozenReceipt) : SourceFencedEvidence where
  frozenReceiptDigest := fr.receiptDigest
  sourceEpoch := fr.epoch
  n := fr.n
  headAtN := fr.signedHeadDigestAtN
  stateAtN := fr.sourceStateDigestAtN
  sourceNodeId := fr.sourceNodeId
  revokeCommandId := fr.revokeCommandId
  leaseId := fr.leaseId
  leaseGrantDigest := fr.leaseGrantDigest
  sourceKeyId := fr.sourceKeyId

def bindSourceFenced (db : ControlDb) (cmd : JsString) (target : Nat) (fr : SourceFrozenReceipt)
    (frozenResolver : SourceVerifyKeyResolver E) :
    Except ControlError (ControlRecord CutoverRow × ControlDb) := do
  checkCutover cmd target
  check (verifySourceFrozenReceipt E D frozenResolver fr)
  require (fr.commandId = cmd) .receiptCommand
  require (fr.streamId = node.streamId) .receiptStream
  let ev := some (CutoverEvidence.sourceFenced (boundFreeze fr))
  let sourceEpoch ← node.readActivationEpoch D H db
  assertActivationGap db sourceEpoch target
  require (fr.epoch = sourceEpoch) .receiptEpoch
  let cur ← orThrow (← node.read D H db.cutover) .noPreparingIntent
  if cur.body.isAt .sourceFenced cmd target then do
    require (cur.body.evidence = ev) .sourceFencedRetryDiffers
    return (cur, db)
  else do
    require (cur.body.isAt .preparing cmd target) .noPreparingIntent
    return node.cutTransition D H db target cmd .sourceFenced ev

/-- The validated arguments of one call of `advanceEpoch`. -/
structure AdvanceCall where
  commandId : JsString
  targetEpoch : Nat
  holderNodeId : JsString
  safetyMarginMs : Nat
  claimExpiresAtMs : Nat
  deriving DecidableEq, Repr

def checkAdvance (call : AdvanceCall) : Except ControlError Unit := do
  checkCutover call.commandId call.targetEpoch
  let _ ← check (vId call.holderNodeId matchesId "holderNodeId")
  let _ ← check (vInt call.safetyMarginMs "safetyMarginMs" 0 MAX_SAFETY_MARGIN_MS)
  let _ ← check (vInt call.claimExpiresAtMs "claimExpiresAtMs" 1 MAX_MS)

def AdvanceCall.claimed (call : AdvanceCall) (r : Option FenceRecord) : Option FenceRecord :=
  r.filter (fun r => r.active = true ∧ r.nodeId = call.holderNodeId ∧
    r.fenceEpoch = call.targetEpoch ∧ r.commandId = call.commandId ∧
    r.expiresAt = call.claimExpiresAtMs)

/-- The head when it is already FENCED for this call, with its evidence. -/
def fencedHead (call : AdvanceCall) (cut : Option (ControlRecord CutoverRow)) :
    Option (Option CutoverEvidence) :=
  (cut.filter (fun c => c.body.isAt .fenced call.commandId call.targetEpoch)).map (·.body.evidence)

/-- A retry after FENCED is reconciled with the signed evidence. -/
def reconcileRetry (call : AdvanceCall) (evidence : Option CutoverEvidence)
    (redis : Option FenceRecord) : Except ControlError Unit :=
  match evidence with
  | some (.fenced e) => reconcileFencedRedis D redis e call.commandId
  | _ => throw .missingFenceEvidence

/-- How the first transaction of a call ends. -/
inductive AdvanceStart
  | done (evidence : Option CutoverEvidence)
  | fence (pre : OldFenced)
  deriving DecidableEq, Repr

/-- The first transaction; `redis` is what the fencing store answers in it. -/
def advanceStart (db : ControlDb) (clock : Nat) (call : AdvanceCall) (redis : Option FenceRecord) :
    Except ControlError AdvanceStart := do
  checkAdvance call
  let cut ← node.read D H db.cutover
  match fencedHead call cut with
  | some evidence => return .done evidence
  | none => do
    let w ← node.read D H db.witness
    require (cut.any (fun c => c.body.isAt .sourceFenced call.commandId call.targetEpoch))
      .noSourceFencedIntent
    let w ← orThrow w .notProvisioned
    require (w.body.state = .provisioned) .notProvisioned
    require (w.body.epoch = call.targetEpoch - 1) .witnessNotBehindTarget
    let pre ← node.proveOldFenced D H db clock call.targetEpoch call.safetyMarginMs
    assertRedisAuthority redis w.body.epoch call.commandId call.targetEpoch
    return .fence pre

/-- The last transaction.  `clock` is read by the proof and `clockFinal` behind it; `digest` is
the claim digest of the record that was read back.  A retry that meets FENCED returns no
evidence. -/
def advanceFinish (db : ControlDb) (clock clockFinal : Nat) (call : AdvanceCall) (pre : OldFenced)
    (digest : JsString) (redis : Option FenceRecord) :
    Except ControlError (Option FenceEvidence × ControlDb) := do
  let cut ← node.read D H db.cutover
  match fencedHead call cut with
  | some evidence => do
    reconcileRetry D call evidence redis
    return (none, db)
  | none => do
    require (cut.any (fun c => c.body.isAt .sourceFenced call.commandId call.targetEpoch))
      .intentChanged
    let w ← orThrow (← node.read D H db.witness) .witnessChanged
    require (w.body.state = .provisioned ∧ w.body.epoch = call.targetEpoch - 1) .witnessChanged
    let ev2 ← node.proveOldFenced D H db clock call.targetEpoch call.safetyMarginMs
    require (ev2.grantDigest = pre.grantDigest) .fencedLeaseChanged
    let nowFinal ← controlNowMs clockFinal
    let rr ← orThrow (call.claimed redis) .redisChanged
    require ((nowFinal + node.minClaimRemainingMs : Nat) ≤ rr.expiresAt) .claimBudget
    let db ← node.witnessAdvanceState D H db call.targetEpoch .provisioned
    let evidence : FenceEvidence := {
      holderNodeId := ev2.holderNodeId
      grantSeq := ev2.grantSeq
      grantDigest := ev2.grantDigest
      maxExpiryMs := ev2.maxExpiryMs
      controlNowMs := ev2.controlNowMs
      safetyMarginMs := call.safetyMarginMs
      redisNodeId := rr.nodeId
      redisEpoch := rr.fenceEpoch
      redisExpiresMs := rr.expiresAt
      redisClaimDigest := digest
      witnessFrom := call.targetEpoch - 1
      witnessTo := call.targetEpoch }
    return (some evidence,
      (node.cutTransition D H db call.targetEpoch call.commandId .fenced (some (.fenced evidence))).2)

def markImporting (db : ControlDb) (cmd : JsString) (target : Nat) :
    Except ControlError (ControlRecord CutoverRow × ControlDb) := do
  checkCutover cmd target
  let cur ← orThrow (← node.read D H db.cutover) .noFencedCutover
  if cur.body.isAt .importing cmd target then return (cur, db)
  else do
    require (cur.body.isAt .fenced cmd target) .noFencedCutover
    require ((db.cutover.first? (fun row => row.isAt .sourceFenced cmd target)).isSome)
      .noSourceFencedFreeze
    return node.cutTransition D H db target cmd .importing cur.body.evidence

/-- What of a finalized receipt the control ratifies. -/
def ratified (br : BFinalizedReceipt) : ReadyEvidence where
  bReceiptDigest := br.receiptDigest
  generationId := br.generationId
  manifestDigest := br.manifestDigest
  manifestRoot := br.manifestRoot
  frozenReceiptDigest := br.frozenReceiptDigest
  n := br.n
  bSystemId := br.bSystemId
  sourceSystemId := br.sourceSystemId
  controlSystemId := node.controlSystemId
  bKeyId := br.bKeyId

def markReady (db : ControlDb) (cmd : JsString) (target : Nat) (br : BFinalizedReceipt)
    (bResolver : SourceVerifyKeyResolver E) :
    Except ControlError (ControlRecord CutoverRow × ControlDb) := do
  checkCutover cmd target
  check (verifyBFinalizedReceipt E D bResolver br)
  require (br.commandId = cmd) .receiptCommand
  require (br.streamId = node.streamId) .receiptStream
  let cur ← orThrow (← node.read D H db.cutover) .noImportingCutover
  let isReadyRetry := cur.body.isAt .ready cmd target
  require (isReadyRetry ∨ cur.body.isAt .importing cmd target) .noImportingCutover
  let sf ← orThrow (sourceFencedEvidence db cmd target) .noSourceFencedFreeze
  require (br.frozenReceiptDigest = sf.frozenReceiptDigest) .frozenReceiptMismatch
  require (br.n = sf.n ∧ br.signedHeadDigestAtN = sf.headAtN ∧ br.sourceStateDigestAtN = sf.stateAtN)
    .frozenPositionMismatch
  let sourceEpoch ← node.readActivationEpoch D H db
  assertActivationGap db sourceEpoch target
  require (sf.sourceEpoch = sourceEpoch) .sourceEpochMoved
  require (br.epoch = sf.sourceEpoch) .receiptEpoch
  require (br.bSystemId ≠ br.sourceSystemId) .targetIsSource
  require (br.bSystemId ≠ node.controlSystemId) .targetIsControl
  let ev := some (CutoverEvidence.ready (node.ratified br))
  if isReadyRetry then do
    require (cur.body.evidence = ev) .readyRetryDiffers
    return (cur, db)
  else return node.cutTransition D H db target cmd .ready ev

/-- The ratified binding, carried forward. -/
def goLive (rd : ReadyEvidence) : ActiveEvidence where
  bReceiptDigest := rd.bReceiptDigest
  generationId := rd.generationId
  bSystemId := rd.bSystemId
  sourceSystemId := rd.sourceSystemId
  controlSystemId := rd.controlSystemId
  n := rd.n
  frozenReceiptDigest := rd.frozenReceiptDigest
  bKeyId := rd.bKeyId

def activate (db : ControlDb) (cmd : JsString) (target : Nat) :
    Except ControlError (ControlRecord CutoverRow × ControlDb) := do
  checkCutover cmd target
  let cur ← orThrow (← node.read D H db.cutover) .noReadyCutover
  let isActiveRetry := cur.body.isAt .active cmd target
  require (isActiveRetry ∨ cur.body.isAt .ready cmd target) .noReadyCutover
  let rd ← orThrow (readyEvidence db cmd target) .noReadyEvidence
  let ev := some (CutoverEvidence.active (goLive rd))
  if isActiveRetry then do
    require (cur.body.evidence = ev) .activeRetryDiffers
    return (cur, db)
  else return node.cutTransition D H db target cmd .active ev

end HaControlFencing

end TskProtocol
