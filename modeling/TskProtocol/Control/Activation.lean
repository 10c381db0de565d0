import TskProtocol.Control.Cutover

namespace TskProtocol

/-- The loop over a target's lease chain; `seen` holds the grants passed so far, the newest
first. -/
def checkPriorChain (E : Ed25519) (D : Sha256Bytes) (leaseResolver : SourceVerifyKeyResolver E)
    (streamId : JsString) (target : Nat) (seen : List LeaseGrant) :
    List LeaseGrant → Except ControlError Unit
  | [] => return ()
  | grant :: rest => do
    check (verifyLeaseGrant E D leaseResolver grant)
    require (grant.streamId = streamId) .chainStream
    require (grant.leaseGrantSeq = seen.length + 1 ∧
      grant.prevGrantDigest = seen.head?.map (·.grantDigest)) .chainGap
    require (grant.leaseEpoch < target) .chainEpoch
    let identity := seen.find? (fun g => g.leaseEpoch = grant.leaseEpoch)
    require (∀ g ∈ identity, g.holderNodeId = grant.holderNodeId ∧ g.leaseId = grant.leaseId)
      .chainIdentity
    require (∀ g ∈ identity, g.leaseStatus ≠ .revoked) .chainAfterRevoke
    checkPriorChain E D leaseResolver streamId target (grant :: seen) rest

/-- What the loop demands of one grant behind those it has seen. -/
structure PriorGrant (E : Ed25519) (D : Sha256Bytes) (leaseResolver : SourceVerifyKeyResolver E)
    (streamId : JsString) (target : Nat) (seen : List LeaseGrant) (grant : LeaseGrant) : Prop where
  verified : verifyLeaseGrant E D leaseResolver grant = .ok ()
  streamId : grant.streamId = streamId
  seq : grant.leaseGrantSeq = seen.length + 1
  prev : grant.prevGrantDigest = seen.head?.map (·.grantDigest)
  epoch : grant.leaseEpoch < target
  identity : ∀ g ∈ seen.find? (fun g => g.leaseEpoch = grant.leaseEpoch),
    g.holderNodeId = grant.holderNodeId ∧ g.leaseId = grant.leaseId
  unrevoked : ∀ g ∈ seen.find? (fun g => g.leaseEpoch = grant.leaseEpoch), g.leaseStatus ≠ .revoked

section PriorChain

variable {E : Ed25519} {D : Sha256Bytes} {leaseResolver : SourceVerifyKeyResolver E}
  {streamId : JsString} {target : Nat} {seen rest xs ys : List LeaseGrant} {grant : LeaseGrant}

theorem checkPriorChain_cons :
    checkPriorChain E D leaseResolver streamId target seen (grant :: rest) = .ok () ↔
      PriorGrant E D leaseResolver streamId target seen grant ∧
        checkPriorChain E D leaseResolver streamId target (grant :: seen) rest = .ok () := by
  simp only [checkPriorChain, bind_eq_ok, check_eq_ok, require_eq_ok]
  constructor
  · rintro ⟨_, hverified, _, hstream, _, ⟨hseq, hprev⟩, _, hepoch, _, hidentity, _, hunrevoked, hrest⟩
    exact ⟨⟨hverified, hstream, hseq, hprev, hepoch, hidentity, hunrevoked⟩, hrest⟩
  · rintro ⟨h, hrest⟩
    exact ⟨(), h.verified, (), h.streamId, (), ⟨h.seq, h.prev⟩, (), h.epoch, (), h.identity, (),
      h.unrevoked, hrest⟩

theorem checkPriorChain_append :
    checkPriorChain E D leaseResolver streamId target seen (xs ++ ys) = .ok () ↔
      checkPriorChain E D leaseResolver streamId target seen xs = .ok () ∧
        checkPriorChain E D leaseResolver streamId target (xs.reverse ++ seen) ys = .ok () := by
  induction xs generalizing seen with
  | nil => simp [checkPriorChain]
  | cons x xs ih => simp [checkPriorChain_cons, ih, and_assoc]

/-- Every grant of a chain stands behind the ones before it. -/
theorem priorGrant_of_split
    (h : checkPriorChain E D leaseResolver streamId target [] (xs ++ grant :: ys) = .ok ()) :
    PriorGrant E D leaseResolver streamId target xs.reverse grant := by
  have hrest := (checkPriorChain_append.mp h).2
  rw [List.append_nil] at hrest
  exact (checkPriorChain_cons.mp hrest).1

theorem priorGrant_of_concat
    (h : checkPriorChain E D leaseResolver streamId target [] (xs ++ [grant]) = .ok ()) :
    PriorGrant E D leaseResolver streamId target xs.reverse grant :=
  priorGrant_of_split h

end PriorChain

namespace HaControlFencing

variable {E : Ed25519} (D : Sha256Bytes) (H : HmacBytes) (node : HaControlFencing E)

/-- A stored activation whose grant does not bind it is refused. -/
def verifyActivationGrant (leaseResolver : SourceVerifyKeyResolver E) (row : ActivationRow) :
    Except ControlError Unit := do
  check (verifyLeaseGrant E D leaseResolver row.grant)
  require (row.grant.grantDigest = row.grantDigest ∧ row.grant.streamId = node.streamId ∧
    row.grant.commandId = row.commandId ∧ row.grant.leaseEpoch = row.epoch ∧
    row.grant.holderNodeId = row.bKeyId) .activationGrantUnbound

def verifyActivationGrants (leaseResolver : SourceVerifyKeyResolver E) :
    List ActivationRow → Except ControlError Unit
  | [] => return ()
  | row :: rest => do
    node.verifyActivationGrant D leaseResolver row
    verifyActivationGrants leaseResolver rest

/-- The ratified binding of an ACTIVE row; other evidence has none of these members. -/
def activeEvidence (row : CutoverRow) : Option ActiveEvidence :=
  match row.evidence with
  | some (.active e) => some e
  | _ => none

/-- `bsrc-${cmd}`. -/
def derivedLeaseId (cmd : JsString) : JsString := JsString.lit "bsrc-" ++ cmd

/-- The grant that promotes a target, behind the last grant of its chain. -/
def promotedGrant (sourceGuard : SourceGuard E) (cmd : JsString) (target : Nat) (holder : JsString)
    (prior : Option LeaseGrant) (now : Nat) : BareLeaseGrant where
  streamId := node.streamId
  leaseEpoch := target
  leaseStatus := .active
  holderNodeId := holder
  leaseId := derivedLeaseId cmd
  commandId := cmd
  leaseExpiresAtMs := min (now + sourceGuard.activationTtlMs) MAX_MS
  leaseGrantSeq := (prior.map (·.leaseGrantSeq)).getD 0 + 1
  prevGrantDigest := prior.map (·.grantDigest)

/-- A returning target has to show the grant of its last activation, where it was installed. -/
def assertRooted (leaseResolver : SourceVerifyKeyResolver E) (activations : List ActivationRow)
    (holder : JsString) (priorChain : List LeaseGrant) : Except ControlError Unit :=
  match (activations.filter (·.bKeyId = holder)).getLast? with
  | some last => do
    require (priorChain ≠ []) .chainOmitted
    check (verifyLeaseGrant E D leaseResolver last.grant)
    require ((priorChain[last.grant.leaseGrantSeq - 1]?).any
      (fun g => g.grantDigest = last.grant.grantDigest)) .chainNotRooted
  | none =>
    require (∀ first ∈ priorChain.head?, first.leaseGrantSeq = 1 ∧ first.prevGrantDigest = none)
      .chainNotRooted

/-- The arguments of `activateSource` after the identity of the stream. -/
structure ActivateSourceInput (E : Ed25519) where
  commandId : JsString
  targetEpoch : Nat
  bReceipt : BFinalizedReceipt
  bResolver : SourceVerifyKeyResolver E
  leaseResolver : SourceVerifyKeyResolver E
  priorTargetLeaseChain : List LeaseGrant

/-- Everything that is settled before the transaction: the guard and the last grant of the
chain. -/
def checkActivateSource (input : ActivateSourceInput E) :
    Except ControlError (SourceGuard E × Option LeaseGrant) := do
  checkCutover input.commandId input.targetEpoch
  let sourceGuard ← orThrow node.sourceGuard .noSourceGuard
  require (input.priorTargetLeaseChain.length ≤ MAX_PRIOR_TARGET_LEASE_CHAIN) .chainTooLong
  check (verifyBFinalizedReceipt E D input.bResolver input.bReceipt)
  checkPriorChain E D input.leaseResolver node.streamId input.targetEpoch []
    input.priorTargetLeaseChain
  require (input.bReceipt.commandId = input.commandId) .receiptCommand
  require (input.bReceipt.streamId = node.streamId) .receiptStream
  let holder ← check (vId input.bReceipt.bKeyId matchesId "ratified B key id (holder)")
  let prior := input.priorTargetLeaseChain.getLast?
  require (∀ g ∈ prior, g.leaseStatus = .revoked ∧ g.holderNodeId = holder) .priorNotTerminal
  let _ ← check (vId (derivedLeaseId input.commandId) matchesId "derived leaseId")
  return (sourceGuard, prior)

/-- What the arguments of a call show, before its transaction. -/
structure Shown (input : ActivateSourceInput E) (sourceGuard : SourceGuard E) : Prop where
  commandId : matchesId input.commandId = true
  targetEpoch : 1 ≤ input.targetEpoch ∧ input.targetEpoch ≤ MAX_EPOCH
  sourceGuard : node.sourceGuard = some sourceGuard
  length : input.priorTargetLeaseChain.length ≤ MAX_PRIOR_TARGET_LEASE_CHAIN
  receipt : verifyBFinalizedReceipt E D input.bResolver input.bReceipt = .ok ()
  chain : checkPriorChain E D input.leaseResolver node.streamId input.targetEpoch []
    input.priorTargetLeaseChain = .ok ()
  receiptCommand : input.bReceipt.commandId = input.commandId
  receiptStream : input.bReceipt.streamId = node.streamId
  terminal : ∀ g ∈ input.priorTargetLeaseChain.getLast?, g.leaseStatus = .revoked ∧
    g.holderNodeId = input.bReceipt.bKeyId
  leaseId : matchesId (derivedLeaseId input.commandId) = true

theorem checkActivateSource_eq_ok {D : Sha256Bytes} {node : HaControlFencing E}
    {input : ActivateSourceInput E} {sourceGuard : SourceGuard E} {prior : Option LeaseGrant} :
    node.checkActivateSource D input = .ok (sourceGuard, prior) ↔
      node.Shown D input sourceGuard ∧ prior = input.priorTargetLeaseChain.getLast? := by
  simp only [checkActivateSource, bind_eq_ok, check_eq_ok, vId_eq_ok, require_eq_ok, orThrow_eq_ok,
    checkCutover_eq_ok, pure_eq_ok]
  constructor
  · rintro ⟨_, ⟨hcmd, htarget⟩, g, hguard, _, hlen, _, hreceipt, _, hchain, _, hrcmd, _, hrstream, _,
      ⟨-, rfl⟩, _, hterminal, _, ⟨hlease, -⟩, h⟩
    cases h
    exact ⟨⟨hcmd, htarget, hguard, hlen, hreceipt, hchain, hrcmd, hrstream, hterminal, hlease⟩, rfl⟩
  · rintro ⟨h, rfl⟩
    exact ⟨(), ⟨h.commandId, h.targetEpoch⟩, sourceGuard, h.sourceGuard, (), h.length, (), h.receipt,
      (), h.chain, (), h.receiptCommand, (), h.receiptStream, _,
      ⟨matchesId_of_matchesKeyId (matchesKeyId_of_verifyBFinalizedReceipt h.receipt), rfl⟩, (),
      h.terminal, _, ⟨h.leaseId, rfl⟩, rfl⟩

/-- The part of the transaction that mints a grant; `head` is the verified activation head. -/
def mintActivation (db : ControlDb) (clock : Nat) (input : ActivateSourceInput E)
    (sourceGuard : SourceGuard E) (prior : Option LeaseGrant)
    (head : Option (ControlRecord ActivationRow)) : Except ControlError (LeaseGrant × ControlDb) := do
  let cmd := input.commandId
  let target := input.targetEpoch
  let br := input.bReceipt
  let holder := br.bKeyId
  assertRooted D input.leaseResolver db.activation.bodies holder input.priorTargetLeaseChain
  let currentActivationEpoch := (head.map (·.body.epoch)).getD 0
  assertActivationGap db currentActivationEpoch target
  require (br.epoch = currentActivationEpoch) .receiptEpoch
  let now ← controlNowMs clock
  let grant ← check (signLeaseGrant E D sourceGuard.keyId sourceGuard.privateKey
    (node.promotedGrant sourceGuard cmd target holder prior now))
  -- the commands of the activation history are unique
  require (∀ row ∈ db.activation.bodies, row.commandId ≠ cmd) .uniqueViolation
  return (grant, { db with activation := node.extend D H db.activation {
    commandId := cmd
    epoch := target
    bKeyId := holder
    bReceiptDigest := br.receiptDigest
    priorTargetGrantDigest := prior.map (·.grantDigest)
    grantDigest := grant.grantDigest
    grant } })

/-- The grant that is returned, and the database after the transaction. -/
def activateSource (db : ControlDb) (clock : Nat) (input : ActivateSourceInput E) :
    Except ControlError (LeaseGrant × ControlDb) := do
  let (sourceGuard, prior) ← node.checkActivateSource D input
  let cmd := input.commandId
  let target := input.targetEpoch
  let br := input.bReceipt
  let cur ← orThrow (← node.read D H db.cutover) .noActiveCutover
  require (cur.body.isAt .active cmd target) .noActiveCutover
  let rd ← orThrow (activeEvidence cur.body) .notRatified
  require (rd.bReceiptDigest = br.receiptDigest ∧ rd.n = br.n ∧ rd.bSystemId = br.bSystemId ∧
    rd.bKeyId = br.bKeyId) .notRatified
  match ← node.read D H db.activation with
  | none => do
    require (db.activation.history.isEmpty) .historyWithoutHead
    node.mintActivation D H db clock input sourceGuard prior none
  | some head => do
    node.verifyActivationGrants D input.leaseResolver db.activation.bodies
    if head.body.commandId = cmd then do
      require (head.body.epoch = target ∧ head.body.bKeyId = br.bKeyId ∧
        head.body.bReceiptDigest = br.receiptDigest ∧
        head.body.priorTargetGrantDigest = prior.map (·.grantDigest)) .activationRetryDiffers
      check (verifyLeaseGrant E D input.leaseResolver head.body.grant)
      require (head.body.grant.grantDigest = head.body.grantDigest) .activationRetryDiffers
      return (head.body.grant, db)
    else node.mintActivation D H db clock input sourceGuard prior (some head)

end HaControlFencing

end TskProtocol
