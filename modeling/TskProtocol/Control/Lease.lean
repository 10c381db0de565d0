import TskProtocol.Control.Tables

namespace TskProtocol

namespace HaControlFencing

section Provisioning

variable {E : Ed25519} (D : Sha256Bytes) (H : HmacBytes) (node : HaControlFencing E)

/-- The first transaction of the provisioning saga. -/
def provisionIntent (db : ControlDb) (genesisMarker : JsString) : Except ControlError ControlDb := do
  require (1 ≤ genesisMarker.length ∧ genesisMarker.length ≤ 512) .invalidGenesisMarker
  match ← node.read D H db.provisioning with
  | some cur => do
    require (cur.body.genesisMarker = genesisMarker) .genesisMarkerConflict
    return db
  | none => return { db with
      provisioning := node.extend D H db.provisioning { genesisMarker, state := .intent } }

/-- The witness head, moved on from the verified one. -/
def witnessAdvanceState (db : ControlDb) (epoch : Nat) (state : WitnessPhase) :
    Except ControlError ControlDb := do
  let _ ← orThrow (← node.read D H db.witness) .witnessGenesisMissing
  return { db with witness := node.extend D H db.witness { epoch, state } }

/-- `ON CONFLICT DO NOTHING`. -/
def witnessGenesis (db : ControlDb) (state : WitnessPhase) : ControlDb :=
  if db.witness.history.isEmpty then
    { db with witness := node.extend D H db.witness { epoch := 0, state } }
  else db

def provisionIncomplete (db : ControlDb) (genesisMarker : JsString) :
    Except ControlError ControlDb := do
  let cur ← orThrow (← node.read D H db.provisioning) .genesisMarkerConflict
  require (cur.body.genesisMarker = genesisMarker) .genesisMarkerConflict
  if cur.body.state = .intent then
    return node.witnessGenesis D H { db with
      provisioning := node.extend D H db.provisioning { genesisMarker, state := .incomplete } }
      .incomplete
  else return db

def provisionProvisioned (db : ControlDb) (genesisMarker : JsString) :
    Except ControlError ControlDb := do
  let cur ← orThrow (← node.read D H db.provisioning) .genesisMarkerConflict
  require (cur.body.genesisMarker = genesisMarker) .genesisMarkerConflict
  if cur.body.state = .incomplete then
    node.witnessAdvanceState D H { db with
      provisioning := node.extend D H db.provisioning { genesisMarker, state := .provisioned } }
      0 .provisioned
  else return db

/-- The witness of a provisioned stream. -/
def readProvisioned (db : ControlDb) : Except ControlError (ControlRecord WitnessRow) := do
  let w ← orThrow (← node.read D H db.witness) .notProvisioned
  require (w.body.state = .provisioned) .notProvisioned
  return w

end Provisioning

/-- The highest expiry granted at an epoch. -/
def maxExpiry (rows : List LeaseRow) (epoch : Nat) : Nat :=
  ((rows.filter (·.epoch = epoch)).map (·.grantedMaxExpiryMs)).foldr max 0

section Lease

variable {E : Ed25519} (D : Sha256Bytes) (H : HmacBytes) (node : HaControlFencing E)

/-- The control clock, read in the transaction. -/
def controlNowMs (clock : Nat) : Except ControlError Nat :=
  check (vInt clock "control now" 0 MAX_MS)

/-- The row a lease request asks for, checked field by field. -/
def checkLease (input : LeaseRow) : Except ControlError Unit := do
  let _ ← check (vId input.leaseId matchesId "leaseId")
  let _ ← check (vId input.holderNodeId matchesId "holderNodeId")
  let _ ← check (vId input.grantCommandId matchesId "grantCommandId")
  let _ ← check (vInt input.epoch "epoch" 0 MAX_EPOCH)
  let _ ← check (vInt input.grantedMaxExpiryMs "grantedMaxExpiryMs" 0 MAX_MS)

theorem readable_of_checkLease {input : LeaseRow} {u : Unit} (h : checkLease input = .ok u) :
    ControlRow.readable input = true := by
  simp only [checkLease, bind_eq_ok, check_eq_ok, vId_eq_ok, vInt_eq_ok] at h
  obtain ⟨_, -, _, -, _, -, _, ⟨hepoch, -⟩, _, ⟨hexpiry, -⟩, -⟩ := h
  simp [ControlRow.readable, hepoch.2, hexpiry.2]

def writeLease (db : ControlDb) (clock : Nat) (input : LeaseRow) :
    Except ControlError (ControlRecord LeaseRow × ControlDb) := do
  checkLease input
  let w ← node.readProvisioned D H db
  require (input.epoch = w.body.epoch) .leaseEpochNotWitness
  let now ← controlNowMs clock
  require (input.grantedMaxExpiryMs ≤ now + MAX_LEASE_HORIZON_MS) .horizonExceeded
  let cut ← node.read D H db.cutover
  require (¬ (input.status = .active ∧ cut.any (fun c => !c.body.phase.terminal))) .grantsFrozen
  let _ ← node.read D H db.lease
  match ControlTable.first? db.lease (fun row => row.grantCommandId = input.grantCommandId) with
  | some byCmd => do
    require (byCmd.body = input) .grantCommandReused
    return (byCmd, db)
  | none => do
    let firstAtEpoch := ControlTable.first? db.lease (fun row => row.epoch = input.epoch)
    require (∀ first ∈ firstAtEpoch, first.body.holderNodeId = input.holderNodeId ∧
      first.body.leaseId = input.leaseId) .holderImmutable
    require (maxExpiry db.lease.bodies input.epoch ≤ input.grantedMaxExpiryMs) .expiryShortened
    return (node.next D H db.lease input, { db with lease := node.extend D H db.lease input })

/-- What a fenced epoch is shown by. -/
structure OldFenced where
  holderNodeId : JsString
  grantSeq : Nat
  grantDigest : JsString
  maxExpiryMs : Nat
  controlNowMs : Nat
  deriving DecidableEq, Repr

def proveOldFenced (db : ControlDb) (clock target margin : Nat) : Except ControlError OldFenced := do
  let lease ← orThrow (← node.read D H db.lease) .noLeaseToFence
  require (lease.body.epoch = target - 1) .leaseEpochNotBehindTarget
  require (lease.body.status = .revoked) .leaseNotRevoked
  let maxExpiryMs := maxExpiry db.lease.bodies lease.body.epoch
  let now ← controlNowMs clock
  require (maxExpiryMs + margin ≤ now) .leaseNotExpired
  return {
    holderNodeId := lease.body.holderNodeId
    grantSeq := lease.seq
    grantDigest := lease.digest
    maxExpiryMs, controlNowMs := now }

end Lease

end HaControlFencing

end TskProtocol
