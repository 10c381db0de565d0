import TskProtocol.Outbox.Transport
import TskProtocol.Server.Promotion
import TskProtocol.SourceFence.Grant

namespace TskProtocol

def MAX_LEASE_HORIZON_MS : Nat := 86400000
def MAX_SAFETY_MARGIN_MS : Nat := 3600000
def MAX_CLAIM_REMAINING_MS : Nat := 3600000
def MAX_PRIOR_TARGET_LEASE_CHAIN : Nat := 10000

inductive ControlError
  | check (e : FenceError) | chain (fault : ChainFault)
  | unknownGuardKey | guardSecretTooShort | invalidGuardSignature | uniqueViolation
  | invalidGenesisMarker | genesisMarkerConflict | witnessGenesisMissing | notProvisioned
  -- leases
  | leaseEpochNotWitness | horizonExceeded | grantsFrozen | grantCommandReused | holderImmutable
  | expiryShortened
  -- cutovers
  | targetNotNext | intentInFlight | abortReasonDiffers | notPostFence | abortWithoutWitness
  | noSourceFencedIntent | witnessNotBehindTarget | noLeaseToFence | leaseEpochNotBehindTarget
  | leaseNotRevoked | leaseNotExpired | missingFenceEvidence | intentChanged | witnessChanged
  | fencedLeaseChanged | claimBudget
  | redisAbsent | redisRolledBack | redisAhead | fencedRedisMismatch | claimNotReadBack | redisChanged
  | receiptCommand | receiptStream | receiptEpoch | noPreparingIntent | sourceFencedRetryDiffers
  | noFencedCutover | noSourceFencedFreeze | noImportingCutover | frozenReceiptMismatch
  | frozenPositionMismatch | sourceEpochMoved | targetIsSource | targetIsControl | readyRetryDiffers
  | noReadyCutover | noReadyEvidence | activeRetryDiffers
  -- source activations
  | noSourceGuard | chainTooLong | chainStream | chainGap | chainEpoch | chainIdentity
  | chainAfterRevoke | priorNotTerminal | noActiveCutover | notRatified | activationGrantUnbound
  | activationRetryDiffers | chainOmitted | chainNotRooted | historyWithoutHead
  | activationEpochNotNew | skippedEpochActivated | skippedEpochNotAborted
  deriving DecidableEq, Repr

/-- A check that the two sides share, inside a control operation. -/
def check {α : Type} (x : Except FenceError α) : Except ControlError α :=
  match x with
  | .ok a => .ok a
  | .error e => .error (.check e)

@[simp] theorem check_eq_ok {α : Type} {x : Except FenceError α} {a : α} :
    check x = .ok a ↔ x = .ok a := by
  cases x <;> simp [check]

inductive ProvisioningPhase
  | intent | incomplete | provisioned
  deriving DecidableEq, Repr

def ProvisioningPhase.text : ProvisioningPhase → JsString
  | .intent => JsString.lit "intent"
  | .incomplete => JsString.lit "incomplete"
  | .provisioned => JsString.lit "provisioned"

structure ProvisioningRow where
  genesisMarker : JsString
  state : ProvisioningPhase
  deriving DecidableEq, Repr

inductive WitnessPhase
  | incomplete | provisioned
  deriving DecidableEq, Repr

def WitnessPhase.text : WitnessPhase → JsString
  | .incomplete => JsString.lit "incomplete"
  | .provisioned => JsString.lit "provisioned"

structure WitnessRow where
  epoch : Nat
  state : WitnessPhase
  deriving DecidableEq, Repr

structure LeaseRow where
  leaseId : JsString
  holderNodeId : JsString
  epoch : Nat
  status : LeaseStatus
  grantedMaxExpiryMs : Nat
  grantCommandId : JsString
  deriving DecidableEq, Repr

inductive CutoverPhase
  | preparing | sourceFenced | fenced | importing | ready | active | aborted
  deriving DecidableEq, Repr

namespace CutoverPhase

def text : CutoverPhase → JsString
  | .preparing => JsString.lit "PREPARING"
  | .sourceFenced => JsString.lit "SOURCE_FENCED"
  | .fenced => JsString.lit "FENCED"
  | .importing => JsString.lit "IMPORTING"
  | .ready => JsString.lit "READY"
  | .active => JsString.lit "ACTIVE"
  | .aborted => JsString.lit "ABORTED"

/-- `CUTOVER_TERMINAL`; the other phases are `CUTOVER_FROZEN`. -/
def terminal : CutoverPhase → Bool
  | .active | .aborted => true
  | _ => false

/-- The phases that an abort may consume. -/
def postFence : CutoverPhase → Bool
  | .fenced | .importing | .ready => true
  | _ => false

end CutoverPhase

structure SourceFencedEvidence where
  frozenReceiptDigest : JsString
  sourceEpoch : Nat
  n : Nat
  headAtN : JsString
  stateAtN : JsString
  sourceNodeId : JsString
  revokeCommandId : JsString
  leaseId : JsString
  leaseGrantDigest : JsString
  sourceKeyId : JsString
  deriving DecidableEq, Repr

/-- Its `proofMode` is always `lease-expiry-control-clock`. -/
structure FenceEvidence where
  holderNodeId : JsString
  grantSeq : Nat
  grantDigest : JsString
  maxExpiryMs : Nat
  controlNowMs : Nat
  safetyMarginMs : Nat
  redisNodeId : JsString
  redisEpoch : Int
  redisExpiresMs : Int
  redisClaimDigest : JsString
  witnessFrom : Nat
  witnessTo : Nat
  deriving DecidableEq, Repr

structure ReadyEvidence where
  bReceiptDigest : JsString
  generationId : JsString
  manifestDigest : JsString
  manifestRoot : JsString
  frozenReceiptDigest : JsString
  n : Nat
  bSystemId : JsString
  sourceSystemId : JsString
  controlSystemId : JsString
  bKeyId : JsString
  deriving DecidableEq, Repr

structure ActiveEvidence where
  bReceiptDigest : JsString
  generationId : JsString
  bSystemId : JsString
  sourceSystemId : JsString
  controlSystemId : JsString
  n : Nat
  frozenReceiptDigest : JsString
  bKeyId : JsString
  deriving DecidableEq, Repr

/-- What a cutover row carries besides its phase, read back from its text. -/
inductive CutoverEvidence
  | sourceFenced (e : SourceFencedEvidence)
  | fenced (e : FenceEvidence)
  | ready (e : ReadyEvidence)
  | active (e : ActiveEvidence)
  | abort (reason : JsString)
  deriving DecidableEq, Repr

def encodeEvidence (e : FenceEvidence) : JsString :=
  Base64Url.encode (frame [some (JsString.lit "tsk_ha_evidence/v1"), some e.holderNodeId,
    num e.grantSeq, some e.grantDigest, num e.maxExpiryMs, num e.controlNowMs,
    num e.safetyMarginMs, some e.redisNodeId, some (JsString.ofInt e.redisEpoch),
    some (JsString.ofInt e.redisExpiresMs), some e.redisClaimDigest, num e.witnessFrom,
    num e.witnessTo, some (JsString.lit "lease-expiry-control-clock")])

namespace CutoverEvidence

private def rendered (members : List (String × Json)) : JsString :=
  (Json.obj (members.map (fun m => (JsString.lit m.1, m.2)))).stringify

/-- The text that is signed. -/
def text : CutoverEvidence → JsString
  | .sourceFenced e => rendered [("k", .str (JsString.lit "source_fenced/v1")),
      ("frozenReceiptDigest", .str e.frozenReceiptDigest), ("sourceEpoch", .num e.sourceEpoch),
      ("n", .num e.n), ("headAtN", .str e.headAtN), ("stateAtN", .str e.stateAtN),
      ("sourceNodeId", .str e.sourceNodeId), ("revokeCommandId", .str e.revokeCommandId),
      ("leaseId", .str e.leaseId), ("leaseGrantDigest", .str e.leaseGrantDigest),
      ("sourceKeyId", .str e.sourceKeyId)]
  | .fenced e => encodeEvidence e
  | .ready e => rendered [("k", .str (JsString.lit "ready/v1")),
      ("bReceiptDigest", .str e.bReceiptDigest), ("generationId", .str e.generationId),
      ("manifestDigest", .str e.manifestDigest), ("manifestRoot", .str e.manifestRoot),
      ("frozenReceiptDigest", .str e.frozenReceiptDigest), ("n", .num e.n),
      ("bSystemId", .str e.bSystemId), ("sourceSystemId", .str e.sourceSystemId),
      ("controlSystemId", .str e.controlSystemId), ("bKeyId", .str e.bKeyId)]
  | .active e => rendered [("k", .str (JsString.lit "active/v1")),
      ("bReceiptDigest", .str e.bReceiptDigest), ("generationId", .str e.generationId),
      ("bSystemId", .str e.bSystemId), ("sourceSystemId", .str e.sourceSystemId),
      ("controlSystemId", .str e.controlSystemId), ("n", .num e.n),
      ("frozenReceiptDigest", .str e.frozenReceiptDigest), ("bKeyId", .str e.bKeyId)]
  | .abort reason => rendered [("k", .str (JsString.lit "abort/v1")), ("reason", .str reason)]

end CutoverEvidence

structure CutoverRow where
  epoch : Nat
  commandId : JsString
  phase : CutoverPhase
  evidence : Option CutoverEvidence
  deriving DecidableEq, Repr

/-- The row is the one of this command and epoch, in this phase. -/
def CutoverRow.isAt (row : CutoverRow) (phase : CutoverPhase) (commandId : JsString)
    (targetEpoch : Nat) : Bool :=
  row.phase = phase && row.commandId = commandId && row.epoch = targetEpoch

/-- `grant` is what `grant_json` holds. -/
structure ActivationRow where
  commandId : JsString
  epoch : Nat
  bKeyId : JsString
  bReceiptDigest : JsString
  priorTargetGrantDigest : Option JsString
  grantDigest : JsString
  grant : LeaseGrant
  deriving DecidableEq, Repr

/-- The framing of a kind of row, and what a reader demands of its own columns. -/
class ControlRow (α : Type) where
  msg : JsString → α → Nat → Option JsString → JsString → List UInt8
  readable : α → Bool

instance : ControlRow ProvisioningRow where
  msg s r seq prev digest := frame [some (JsString.lit "tsk_ha_prov/v1"), some s,
    some r.genesisMarker, some r.state.text, num seq, prev, some digest]
  readable _ := true

instance : ControlRow WitnessRow where
  msg s r seq prev digest := frame [some (JsString.lit "tsk_ha_witness/v1"), some s, num r.epoch,
    some r.state.text, num seq, prev, some digest]
  readable r := r.epoch ≤ MAX_EPOCH

instance : ControlRow LeaseRow where
  msg s r seq prev digest := frame [some (JsString.lit "tsk_ha_lease/v1"), some s, some r.leaseId,
    some r.holderNodeId, num r.epoch, num seq, some r.status.text, num r.grantedMaxExpiryMs,
    some r.grantCommandId, prev, some digest]
  readable r := r.epoch ≤ MAX_EPOCH && r.grantedMaxExpiryMs ≤ MAX_MS

instance : ControlRow CutoverRow where
  msg s r seq prev digest := frame [some (JsString.lit "tsk_ha_cutover/v1"), some s, num r.epoch,
    some r.commandId, num seq, some r.phase.text, r.evidence.map CutoverEvidence.text, prev,
    some digest]
  readable r := r.epoch ≤ MAX_EPOCH

instance : ControlRow ActivationRow where
  msg s r seq prev digest := frame [some (JsString.lit "tsk_ha_source_activation/v2"), some s,
    some r.commandId, num r.epoch, some r.bKeyId, some r.bReceiptDigest, num seq,
    r.priorTargetGrantDigest, some r.grantDigest, prev, some digest]
  readable r := matchesId r.commandId && 1 ≤ r.epoch && r.epoch ≤ MAX_EPOCH &&
    matchesKeyId r.bKeyId && matchesHex64 r.bReceiptDigest &&
    r.priorTargetGrantDigest.all matchesHex64 && matchesHex64 r.grantDigest

structure GuardSigner where
  keyId : JsString
  secret : List UInt8
  keyId_ok : matchesKeyId keyId = true
  secret_ok : 32 ≤ secret.length

abbrev GuardKeyResolver := JsString → Option (List UInt8)

def GuardSigner.sign (H : HmacBytes) (signer : GuardSigner) (msg : List UInt8) : JsString :=
  Base64Url.encode (H.mac signer.secret (withKey "tsk_ha_key" signer.keyId msg))

/-- Decoding and encoding again lets only canonical base64url through, so the bytes agree
exactly when the texts do. -/
def verifyGuard (H : HmacBytes) (resolver : GuardKeyResolver) (keyId : JsString) (msg : List UInt8)
    (signature : JsString) : Except ControlError Unit := do
  require (matchesKeyId keyId) (.check .invalidKeyId)
  let secret ← orThrow (resolver keyId) .unknownGuardKey
  require (32 ≤ secret.length) .guardSecretTooShort
  require (signature = Base64Url.encode (H.mac secret (withKey "tsk_ha_key" keyId msg)))
    .invalidGuardSignature

theorem verifyGuard_sign {H : HmacBytes} {resolver : GuardKeyResolver} {signer : GuardSigner}
    (h : resolver signer.keyId = some signer.secret) (msg : List UInt8) :
    verifyGuard H resolver signer.keyId msg (signer.sign H msg) = .ok () := by
  simp [verifyGuard, bind_eq_ok, signer.keyId_ok, h, signer.secret_ok, GuardSigner.sign]

/-- A row of the control database, with the id of its guard key and its signature. -/
abbrev ControlRecord (α : Type) := Linked α JsString (JsString × JsString)

abbrev ControlTable (α : Type) := SignedTable α JsString (JsString × JsString)

/-- The first row of a query over the history. -/
def ControlTable.first? {α : Type} (t : ControlTable α) (p : α → Bool) : Option (ControlRecord α) :=
  t.history.find? (fun l => p l.body)

/-- The tables of the control database, the rows of one stream. -/
structure ControlDb where
  provisioning : ControlTable ProvisioningRow := {}
  witness : ControlTable WitnessRow := {}
  lease : ControlTable LeaseRow := {}
  cutover : ControlTable CutoverRow := {}
  activation : ControlTable ActivationRow := {}
  deriving DecidableEq, Repr

/-- The signing authority that mints promoted source leases. -/
structure SourceGuard (E : Ed25519) where
  keyId : JsString
  privateKey : E.PrivateKey
  activationTtlMs : Nat
  activationTtlMs_ok : 1 ≤ activationTtlMs ∧ activationTtlMs ≤ MAX_MS

/-- What a control authority is constructed with, and the stream it is asked about. -/
structure HaControlFencing (E : Ed25519) where
  streamId : JsString
  signer : GuardSigner
  resolver : GuardKeyResolver
  minClaimRemainingMs : Nat
  sourceGuard : Option (SourceGuard E)
  /-- The identifier of its own database cluster. -/
  controlSystemId : JsString
  streamId_ok : matchesStreamId 200 streamId = true
  minClaimRemainingMs_ok : 1 ≤ minClaimRemainingMs ∧ minClaimRemainingMs ≤ MAX_CLAIM_REMAINING_MS

namespace HaControlFencing

variable {E : Ed25519} {α : Type} [ControlRow α] {D : Sha256Bytes} {H : HmacBytes}
  {node : HaControlFencing E}

def reader (D : Sha256Bytes) (H : HmacBytes) (node : HaControlFencing E) :
    ChainReader α JsString (JsString × JsString) where
  readable l := ControlRow.readable l.body && 1 ≤ l.seq && l.seq ≤ MAX_SEQ &&
    l.prev.all matchesHex64 && matchesHex64 l.digest
  digestOf body seq prev := D.hex (ControlRow.msg node.streamId body seq prev [])
  verifies l := verifyGuard H node.resolver l.signature.1
    (ControlRow.msg node.streamId l.body l.seq l.prev l.digest) l.signature.2 = .ok ()

/-- `verifyChain`, over the rows as `link` shows them. -/
def verifyChain (D : Sha256Bytes) (H : HmacBytes) (node : HaControlFencing E)
    (history : List (ControlRecord α)) (head : ControlRecord α) : Except ControlError Unit :=
  match (node.reader D H).verify history head with
  | .ok () => .ok ()
  | .error fault => .error (.chain fault)

/-- Read the verified head of a table. -/
def read (D : Sha256Bytes) (H : HmacBytes) (node : HaControlFencing E) (t : ControlTable α) :
    Except ControlError (Option (ControlRecord α)) :=
  match t.read (node.reader D H) with
  | .ok head => .ok head
  | .error fault => .error (.chain fault)

/-- The signed row behind the head. -/
def next (D : Sha256Bytes) (H : HmacBytes) (node : HaControlFencing E) (t : ControlTable α)
    (body : α) : ControlRecord α :=
  SignedTable.next (node.reader D H) (fun body seq prev digest =>
    (node.signer.keyId, node.signer.sign H (ControlRow.msg node.streamId body seq prev digest)))
    t body

/-- Append a signed row.  Only equal digests of rows with different numbers violate a constraint
of the histories here. -/
def extend (D : Sha256Bytes) (H : HmacBytes) (node : HaControlFencing E) (t : ControlTable α)
    (body : α) : ControlTable α :=
  t.append (node.next D H t body)

@[simp] theorem body_next (t : ControlTable α) (body : α) : (node.next D H t body).body = body := rfl

@[simp] theorem bodies_extend (t : ControlTable α) (body : α) :
    (node.extend D H t body).bodies = t.bodies ++ [body] := by
  simp [extend]

theorem headed_extend (t : ControlTable α) (body : α) : (node.extend D H t body).Headed :=
  SignedTable.headed_append ..

theorem verifyChain_eq_ok {history : List (ControlRecord α)} {head : ControlRecord α} :
    node.verifyChain D H history head = .ok () ↔ (node.reader D H).verify history head = .ok () := by
  simp only [verifyChain]
  split <;> simp_all

theorem head_of_read {t : ControlTable α} {head : Option (ControlRecord α)}
    (h : node.read D H t = .ok head) : t.head = head := by
  simp only [read] at h
  split at h
  · next hread =>
    cases h
    exact SignedTable.head_of_read hread
  · cases h

/-- What is read is the head, in front of a history that `verifyChain` takes. -/
theorem read_eq_ok {t : ControlTable α} {row : ControlRecord α} :
    node.read D H t = .ok (some row) ↔ t.head = some row ∧ node.verifyChain D H t.history row = .ok () := by
  rw [verifyChain_eq_ok]
  constructor
  · intro h
    have hhead := head_of_read h
    refine ⟨hhead, ?_⟩
    simp only [read, SignedTable.read, hhead] at h
    cases hverify : (node.reader D H).verify t.history row with
    | ok u => rfl
    | error fault => simp [hverify] at h
  · rintro ⟨hhead, hverify⟩
    simp [read, SignedTable.read, hhead, hverify]

/-- A table whose rows all verify with the keys at hand. -/
abbrev Sound (D : Sha256Bytes) (H : HmacBytes) (node : HaControlFencing E) (t : ControlTable α) :
    Prop := SignedTable.Sound (node.reader D H) t

theorem read_of_sound {t : ControlTable α} (h : node.Sound D H t) :
    node.read D H t = .ok t.head := by
  rw [HaControlFencing.read, SignedTable.Sound.read h]

/-- Appending keeps a table verifiable while its signer is known and its numbers last. -/
theorem Sound.extend {t : ControlTable α} {body : α} (h : node.Sound D H t)
    (hresolve : node.resolver node.signer.keyId = some node.signer.secret)
    (hbody : ControlRow.readable body = true) (hseq : t.history.length < MAX_SEQ) :
    node.Sound D H (node.extend D H t body) := by
  refine SignedTable.Sound.extend h ?_ ?_
  · have hlen := h.seq
    have hprev : (t.head.map (·.digest)).all matchesHex64 = true := by
      rw [h.headed]
      cases hlast : t.history.getLast? with
      | none => rfl
      | some last =>
        have hread := (h.valid last (List.mem_of_getLast? hlast)).readable
        simp only [reader, Bool.and_eq_true] at hread
        simpa using hread.2
    simp only [reader, SignedTable.next, hbody, hprev, matchesHex64_hex, hlen, Bool.true_and,
      Bool.and_true, Bool.and_eq_true, decide_eq_true_eq]
    omega
  · simp only [reader, SignedTable.next, decide_eq_true_eq]
    exact verifyGuard_sign hresolve _

/-- At most one more row, which the readers of the table can take. -/
def Grows (D : Sha256Bytes) (H : HmacBytes) (node : HaControlFencing E) (t t' : ControlTable α) :
    Prop :=
  t' = t ∨ ∃ body, ControlRow.readable body = true ∧ t' = node.extend D H t body

theorem Grows.headed {t t' : ControlTable α} (h : node.Grows D H t t') (ht : t.Headed) :
    t'.Headed := by
  rcases h with rfl | ⟨body, -, rfl⟩
  · exact ht
  · exact headed_extend t body

theorem Grows.sound {t t' : ControlTable α} (h : node.Grows D H t t') (ht : node.Sound D H t)
    (hresolve : node.resolver node.signer.keyId = some node.signer.secret)
    (hseq : t.history.length < MAX_SEQ) : node.Sound D H t' := by
  rcases h with rfl | ⟨body, hbody, rfl⟩
  · exact ht
  · exact ht.extend hresolve hbody hseq

/-- A table that has grown holds another list of rows. -/
theorem Grows.eq_of_bodies {t t' : ControlTable α} (h : node.Grows D H t t')
    (hbodies : t'.bodies = t.bodies) : t' = t := by
  rcases h with rfl | ⟨body, -, rfl⟩
  · rfl
  · simp at hbodies

/-- A head that is read has passed the demands on its columns. -/
theorem readable_of_read {t : ControlTable α} {l : ControlRecord α}
    (h : node.read D H t = .ok (some l)) : ControlRow.readable l.body = true := by
  have hverify := verifyChain_eq_ok.mp (read_eq_ok.mp h).2
  have hreadable := (ChainReader.accepted_of_verify hverify).readable l List.mem_cons_self
  simp only [reader, Bool.and_eq_true] at hreadable
  exact hreadable.1.1.1.1

end HaControlFencing

end TskProtocol
