import TskProtocol.Lib.Machine
import TskProtocol.Control.Activation

namespace TskProtocol

open HaControlFencing

/-- Where a call of `advanceEpoch` stands between its transactions. -/
inductive AdvanceStage
  | claim (pre : OldFenced)
  | readBack (pre : OldFenced)
  | finish (pre : OldFenced) (claimDigest : JsString)
  deriving DecidableEq, Repr

structure AdvanceProgress where
  call : AdvanceCall
  stage : AdvanceStage
  deriving DecidableEq, Repr

/-- The control database, its clock, the fencing store, and the calls of `advanceEpoch` in
progress; a crashed call is one that takes no further step. -/
structure ControlState where
  db : ControlDb := {}
  clock : Nat := 0
  store : MemoryFencingStore := { record := none }
  calls : List AdvanceProgress := []
  deriving DecidableEq, Repr

inductive ControlLabel (E : Ed25519)
  | provisionIntent (genesisMarker : JsString)
  | provisionIncomplete (genesisMarker : JsString)
  | provisionProvisioned (genesisMarker : JsString)
  | writeLease (input : LeaseRow)
  | beginPromotionIntent (commandId : JsString) (targetEpoch : Nat)
  | bindSourceFenced (commandId : JsString) (targetEpoch : Nat) (frozenReceipt : SourceFrozenReceipt)
      (frozenResolver : SourceVerifyKeyResolver E)
  | advanceStart (call : AdvanceCall)
  | advanceClaim (i : Nat)
  | advanceReadBack (i : Nat)
  | advanceFinish (i elapsed : Nat)
  | markImporting (commandId : JsString) (targetEpoch : Nat)
  | markReady (commandId : JsString) (targetEpoch : Nat) (bReceipt : BFinalizedReceipt)
      (bResolver : SourceVerifyKeyResolver E)
  | activate (commandId : JsString) (targetEpoch : Nat)
  | abortFencedPromotion (commandId : JsString) (targetEpoch : Nat) (reasonCode : JsString)
  | activateSource (input : ActivateSourceInput E)
  /-- The control clock shows another time. -/
  | clock (now : Nat)
  /-- The fencing store is changed or lost by somebody else. -/
  | store (record : Option FenceRecord)

namespace ControlState

/-- A transaction that throws leaves the database as it was. -/
def settle {α : Type} (s : ControlState) (x : Except ControlError (α × ControlDb)) : ControlState :=
  match x with
  | .ok (_, db) => { s with db }
  | .error _ => s

def settleDb (s : ControlState) (x : Except ControlError ControlDb) : ControlState :=
  match x with
  | .ok db => { s with db }
  | .error _ => s

def drop (s : ControlState) (i : Nat) : ControlState := { s with calls := s.calls.eraseIdx i }

variable {E : Ed25519} (D : Sha256Bytes) (H : HmacBytes) (node : HaControlFencing E)

/-- A retry behind FENCED ends here with a look at the store. -/
def advanceStart (s : ControlState) (call : AdvanceCall) : ControlState :=
  match node.advanceStart D H s.db s.clock call s.store.current with
  | .ok (.fence pre) => { s with calls := s.calls ++ [{ call, stage := .claim pre }] }
  | _ => s

/-- Whether the store has accepted the claim is not looked at. -/
def advanceClaim (s : ControlState) (i : Nat) : ControlState :=
  match s.calls[i]? with
  | some ⟨call, .claim pre⟩ =>
    { s with
      store := (s.store.claim call.holderNodeId call.targetEpoch call.claimExpiresAtMs
        call.commandId).2
      calls := s.calls.set i { call, stage := .readBack pre } }
  | _ => s

def advanceReadBack (s : ControlState) (i : Nat) : ControlState :=
  match s.calls[i]? with
  | some ⟨call, .readBack pre⟩ =>
    match call.claimed s.store.current with
    | some r => { s with calls := s.calls.set i { call, stage := .finish pre (claimDigest D r) } }
    | none => s.drop i
  | _ => s

/-- `elapsed` passes between the two readings of the clock. -/
def advanceFinish (s : ControlState) (i elapsed : Nat) : ControlState :=
  match s.calls[i]? with
  | some ⟨call, .finish pre digest⟩ =>
    let x := node.advanceFinish D H s.db s.clock (s.clock + elapsed) call pre digest s.store.current
    { (s.settle x).drop i with clock := s.clock + elapsed }
  | _ => s

def apply (s : ControlState) : ControlLabel E → ControlState
  | .provisionIntent genesis => s.settleDb (node.provisionIntent D H s.db genesis)
  | .provisionIncomplete genesis => s.settleDb (node.provisionIncomplete D H s.db genesis)
  | .provisionProvisioned genesis => s.settleDb (node.provisionProvisioned D H s.db genesis)
  | .writeLease input => s.settle (node.writeLease D H s.db s.clock input)
  | .beginPromotionIntent cmd target => s.settle (node.beginPromotionIntent D H s.db cmd target)
  | .bindSourceFenced cmd target fr resolver =>
    s.settle (node.bindSourceFenced D H s.db cmd target fr resolver)
  | .advanceStart call => s.advanceStart D H node call
  | .advanceClaim i => s.advanceClaim i
  | .advanceReadBack i => s.advanceReadBack D i
  | .advanceFinish i elapsed => s.advanceFinish D H node i elapsed
  | .markImporting cmd target => s.settle (node.markImporting D H s.db cmd target)
  | .markReady cmd target br resolver => s.settle (node.markReady D H s.db cmd target br resolver)
  | .activate cmd target => s.settle (node.activate D H s.db cmd target)
  | .abortFencedPromotion cmd target reason =>
    s.settle (node.abortFencedPromotion D H s.db cmd target reason)
  | .activateSource input => s.settle (node.activateSource D H s.db s.clock input)
  | .clock now => { s with clock := now }
  | .store record => { s with store := { record } }

end ControlState

/-- Before the first operation on a stream, with whatever the fencing store holds. -/
def ControlState.start (clock : Nat) (record : Option FenceRecord) : ControlState :=
  { clock, store := { record } }

/-- One stream of one control database.  A step that throws is a step that changes nothing. -/
def controlMachine {E : Ed25519} (D : Sha256Bytes) (H : HmacBytes) (node : HaControlFencing E) :
    Machine ControlState (ControlLabel E) where
  step s l := some (s.apply D H node l)

section Sample

theorem length_sampleMac (secret data : List UInt8) :
    (((rollingSha256.hex (secret ++ data)).take 32).map (fun c => UInt8.ofNat c.toNat)).length = 32 := by
  rw [List.length_map, List.length_take, rollingSha256.length_hex]
  rfl

def sampleHmac : HmacBytes where
  mac secret data := ((rollingSha256.hex (secret ++ data)).take 32).map (fun c => UInt8.ofNat c.toNat)
  length_mac := length_sampleMac

def sampleControl : HaControlFencing sampleEd25519 where
  streamId := JsString.lit "s"
  signer := {
    keyId := JsString.lit "g"
    secret := List.replicate 32 1
    keyId_ok := by decide
    secret_ok := by decide }
  resolver _ := some (List.replicate 32 1)
  minClaimRemainingMs := 10
  sourceGuard := some {
    keyId := JsString.lit "k"
    privateKey := ([3] : List UInt8)
    activationTtlMs := 1000
    activationTtlMs_ok := by decide }
  controlSystemId := JsString.lit "c"
  streamId_ok := by decide
  minClaimRemainingMs_ok := by decide

/-- Every key id stands for the key it is spelled with. -/
def sampleKeys : SourceVerifyKeyResolver sampleEd25519 := fun keyId => some keyId.utf8

/-- The lease of one epoch, active and then revoked. -/
def sampleLease (cmd : String) (epoch : Nat) (status : LeaseStatus) (expiry : Nat) : LeaseRow where
  leaseId := JsString.lit "l"
  holderNodeId := JsString.lit "a"
  epoch := epoch
  status := status
  grantedMaxExpiryMs := expiry
  grantCommandId := JsString.lit cmd

def sampleFreeze (cmd : String) (epoch : Nat) : SourceFrozenReceipt :=
  let bare : SourceFrozenReceipt := {
    streamId := JsString.lit "s"
    commandId := JsString.lit cmd
    epoch := epoch
    n := 0
    signedHeadDigestAtN := []
    sourceStateDigestAtN := []
    sourceNodeId := JsString.lit "a"
    revokeCommandId := JsString.lit "r"
    leaseId := JsString.lit "l"
    leaseGrantDigest := []
    receiptDigest := []
    sourceKeyId := JsString.lit "a"
    sourceSignature := [] }
  let digest := rollingSha256.hex (frozenReceiptMsg bare [])
  { bare with
    receiptDigest := digest
    sourceSignature := rollingSha256.hex ((JsString.lit "a").utf8 ++
      withKey "tsk_src_key" (JsString.lit "a") (frozenReceiptMsg bare digest)) }

/-- The receipt of the target `b` for the freeze of `cmd`. -/
def sampleFinalized (cmd : String) (epoch : Nat) : BFinalizedReceipt :=
  let bare : BFinalizedReceipt := {
    streamId := JsString.lit "s"
    commandId := JsString.lit cmd
    epoch := epoch
    sourceEpoch := []
    n := 0
    generationId := JsString.lit "1"
    frozenReceiptDigest := (sampleFreeze cmd epoch).receiptDigest
    manifestDigest := []
    manifestRoot := []
    sourceSystemId := JsString.lit "1"
    sourceKeyId := []
    sourceSignature := []
    guardKeyId := []
    guardSignature := []
    signedHeadDigestAtN := []
    sourceStateDigestAtN := []
    bSystemId := JsString.lit "2"
    receiptDigest := []
    bKeyId := JsString.lit "b"
    bSignature := [] }
  let digest := rollingSha256.hex (bFinalizedMsg bare [])
  { bare with
    receiptDigest := digest
    bSignature := rollingSha256.hex ((JsString.lit "b").utf8 ++
      withKey "tsk_src_key" (JsString.lit "b") (bFinalizedMsg bare digest)) }

/-- Provisioning, a lease that is revoked, and an intent to promote. -/
def samplePreparing : List (ControlLabel sampleEd25519) :=
  [.provisionIntent (JsString.lit "m"), .provisionIncomplete (JsString.lit "m"),
    .provisionProvisioned (JsString.lit "m"), .writeLease (sampleLease "1" 0 .active 50),
    .writeLease (sampleLease "2" 0 .revoked 50), .beginPromotionIntent (JsString.lit "x") 1]

/-- The call that fences the first epoch. -/
def sampleAdvance : AdvanceCall where
  commandId := JsString.lit "x"
  targetEpoch := 1
  holderNodeId := JsString.lit "b"
  safetyMarginMs := 5
  claimExpiresAtMs := 1000

/-- The promotion up to the last part of `advanceEpoch`. -/
def sampleFencing : List (ControlLabel sampleEd25519) :=
  samplePreparing ++ [.bindSourceFenced (JsString.lit "x") 1 (sampleFreeze "x" 0) sampleKeys,
    .clock 60, .advanceStart sampleAdvance, .advanceClaim 0, .advanceReadBack 0]

/-- The rest of the promotion, up to ACTIVE. -/
def sampleActive : List (ControlLabel sampleEd25519) :=
  sampleFencing ++ [.advanceFinish 0 1, .markImporting (JsString.lit "x") 1,
    .markReady (JsString.lit "x") 1 (sampleFinalized "x" 0) sampleKeys,
    .activate (JsString.lit "x") 1]

/-- What a run has left in the control database. -/
def ControlState.observed (s : ControlState) : List CutoverPhase × List WitnessRow × List Nat :=
  (s.db.cutover.bodies.map (·.phase), s.db.witness.bodies, s.db.activation.bodies.map (·.epoch))

end Sample

end TskProtocol
