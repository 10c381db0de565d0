import Mathlib.Algebra.GroupWithZero.Nat
import TskProtocol.Outbox.Transport
import TskProtocol.SourceFence.LeaseHistory
import TskProtocol.SourceFence.Staged

namespace TskProtocol

def MAX_SNAPSHOT_BYTES : Nat := 67108864
def DEFAULT_SNAPSHOT_BYTES : Nat := 33554432

/-- The database that is promoted: what it has received, and its own tables as a source of the stream. -/
structure TargetDb where
  receiver : ReceiverTables
  outbox : SourceDb
  leases : SourceLeaseTable
  deriving DecidableEq, Repr

structure ImportedSourceActivationOptions (E : Ed25519) where
  verifier : ExportVerifier E
  sourceResolver : SourceVerifyKeyResolver E
  guardResolver : SourceVerifyKeyResolver E
  bReceiptResolver : SourceVerifyKeyResolver E
  leaseResolver : SourceVerifyKeyResolver E
  frozenReceipt : SourceFrozenReceipt
  finalizedReceipt : BFinalizedReceipt
  activationLease : LeaseGrant
  targetEpoch : Nat
  maxSnapshotBytes : Option Nat := none

structure ActivatedSource where
  streamId : JsString
  generationId : JsString
  targetEpoch : Nat
  n : Nat
  headDigest : JsString
  activationGrantDigest : JsString
  deriving DecidableEq, Repr

section Snapshot

/-- The members of a plain object, in their order. -/
def Json.ofMembers (members : List (String × Json)) : Json :=
  .obj (members.map (fun m => (JsString.lit m.1, m.2)))

def SourceFrozenReceipt.toJson (r : SourceFrozenReceipt) : Json := .ofMembers
  [("streamId", .str r.streamId), ("commandId", .str r.commandId), ("epoch", .num r.epoch), ("n", .num r.n),
    ("signedHeadDigestAtN", .str r.signedHeadDigestAtN), ("sourceStateDigestAtN", .str r.sourceStateDigestAtN),
    ("sourceNodeId", .str r.sourceNodeId), ("revokeCommandId", .str r.revokeCommandId),
    ("leaseId", .str r.leaseId), ("leaseGrantDigest", .str r.leaseGrantDigest),
    ("receiptDigest", .str r.receiptDigest), ("sourceKeyId", .str r.sourceKeyId),
    ("sourceSignature", .str r.sourceSignature)]

def BFinalizedReceipt.toJson (r : BFinalizedReceipt) : Json := .ofMembers
  [("streamId", .str r.streamId), ("commandId", .str r.commandId), ("epoch", .num r.epoch),
    ("sourceEpoch", .str r.sourceEpoch), ("n", .num r.n), ("generationId", .str r.generationId),
    ("frozenReceiptDigest", .str r.frozenReceiptDigest), ("manifestDigest", .str r.manifestDigest),
    ("manifestRoot", .str r.manifestRoot), ("sourceSystemId", .str r.sourceSystemId),
    ("sourceKeyId", .str r.sourceKeyId), ("sourceSignature", .str r.sourceSignature),
    ("guardKeyId", .str r.guardKeyId), ("guardSignature", .str r.guardSignature),
    ("signedHeadDigestAtN", .str r.signedHeadDigestAtN), ("sourceStateDigestAtN", .str r.sourceStateDigestAtN),
    ("bSystemId", .str r.bSystemId), ("receiptDigest", .str r.receiptDigest), ("bKeyId", .str r.bKeyId),
    ("bSignature", .str r.bSignature)]

def LeaseGrant.toJson (g : LeaseGrant) : Json := .ofMembers
  [("streamId", .str g.streamId), ("leaseEpoch", .num g.leaseEpoch), ("leaseStatus", .str g.leaseStatus.text),
    ("holderNodeId", .str g.holderNodeId), ("leaseId", .str g.leaseId), ("commandId", .str g.commandId),
    ("leaseExpiresAtMs", .num g.leaseExpiresAtMs), ("leaseGrantSeq", .num g.leaseGrantSeq),
    ("prevGrantDigest", optionalJson g.prevGrantDigest), ("grantDigest", .str g.grantDigest),
    ("guardKeyId", .str g.guardKeyId), ("guardSignature", .str g.guardSignature)]

def validateSnapshotBytes (value : Option Nat) : Except FenceError Nat :=
  vInt (value.getD DEFAULT_SNAPSHOT_BYTES) "maxSnapshotBytes" 1 MAX_SNAPSHOT_BYTES

/-- The receipts and the grant as text. -/
def ImportedSourceActivationOptions.snapshotJson {E : Ed25519} (opts : ImportedSourceActivationOptions E) : JsString :=
  (Json.ofMembers [("frozenReceipt", opts.frozenReceipt.toJson),
    ("finalizedReceipt", opts.finalizedReceipt.toJson), ("activationLease", opts.activationLease.toJson)]).stringify

/-- `strictPlainSnapshot` of the receipts and the grant, which are plain data: their numbers have to be
safe integers. -/
def strictPlainSnapshot {E : Ed25519} (opts : ImportedSourceActivationOptions E) : Except FenceError Unit :=
  require (∀ n ∈ [opts.frozenReceipt.epoch, opts.frozenReceipt.n, opts.finalizedReceipt.epoch,
    opts.finalizedReceipt.n, opts.activationLease.leaseEpoch, opts.activationLease.leaseExpiresAtMs,
    opts.activationLease.leaseGrantSeq], isSafeInteger n) (.contract .notSafeInteger)

/-- `canonicalize` of a receipt. -/
def canonicalizeReceipt (r : BFinalizedReceipt) : Except ContractError JsString := do
  require (isSafeInteger r.epoch ∧ isSafeInteger r.n) .notSafeInteger
  require (∀ s ∈ r.texts, s.hasLoneSurrogate = false) .loneSurrogate
  require (∀ s ∈ r.texts, s.utf8.length ≤ CANON_MAX_STRING_BYTES) .stringTooLong
  let text := r.toJson.canonical
  require (text.utf8.length ≤ CANON_MAX_TOTAL_BYTES) .stringTooLong
  return text

end Snapshot

section Persisted

mutual

/-- The text of a `jsonb` value.  The database writes the members of an object in an order of its own;
here they keep theirs, for a text of the same length. -/
def Json.jsonbText : Json → JsString
  | .arr items => JsString.lit "[" ++ JsString.join (JsString.lit ", ") (jsonbItems items) ++ JsString.lit "]"
  | .obj members =>
    JsString.lit "\x7b" ++ JsString.join (JsString.lit ", ") (jsonbMembers members) ++ JsString.lit "\x7d"
  | value => value.stringify

def Json.jsonbItems : List Json → List JsString
  | [] => []
  | item :: rest => item.jsonbText :: jsonbItems rest

def Json.jsonbMembers : List (JsString × Json) → List JsString
  | [] => []
  | (key, value) :: rest => (key.quote ++ JsString.lit ": " ++ value.jsonbText) :: jsonbMembers rest

end

def ExportedSourceRecord.toJson (r : ExportedSourceRecord) : Json := .ofMembers
  [("sequence", .num r.sequence), ("sourceEpoch", .str r.sourceEpoch), ("fenceToken", .str r.fenceToken),
    ("opDigest", .str r.opDigest), ("prevHeadDigest", .str r.prevHeadDigest), ("headDigest", .str r.headDigest),
    ("keyId", .str r.keyId), ("alg", .str r.alg), ("signature", .str r.signature), ("payload", .str r.payload)]

def ChunkContent.toJson : ChunkContent → Json
  | .history records => .arr (records.map ExportedSourceRecord.toJson)
  | .state pairs => .arr (pairs.map (fun pair => .arr [.str pair.1, .num pair.2]))

def ExportChunkInventoryEntry.toJson (e : ExportChunkInventoryEntry) : Json := .ofMembers
  [("kind", .str e.kind.text), ("ordinal", .num e.ordinal), ("seqFrom", .num e.seqFrom), ("seqTo", .num e.seqTo),
    ("itemCount", .num e.itemCount), ("byteDigest", .str e.byteDigest)]

def GuardCountersignedExport.toJson (m : GuardCountersignedExport) : Json := .ofMembers
  [("manifestSchemaVersion", .str m.manifestSchemaVersion), ("streamId", .str m.streamId), ("epoch", .num m.epoch),
    ("sourceEpoch", .str m.sourceEpoch), ("commandId", .str m.commandId), ("sourceNodeId", .str m.sourceNodeId),
    ("sourceSystemId", .str m.sourceSystemId), ("n", .num m.n),
    ("frozenReceiptDigest", .str m.frozenReceiptDigest), ("signedHeadDigestAtN", .str m.signedHeadDigestAtN),
    ("sourceStateDigestAtN", .str m.sourceStateDigestAtN), ("chunkCount", .num m.chunkCount),
    ("inventory", .arr (m.inventory.map ExportChunkInventoryEntry.toJson)), ("manifestRoot", .str m.manifestRoot),
    ("canonicalDigest", .str m.canonicalDigest), ("sourceKeyId", .str m.sourceKeyId),
    ("sourceSignature", .str m.sourceSignature), ("guardKeyId", .str m.guardKeyId),
    ("guardSignature", .str m.guardSignature)]

/-- `octet_length(value::text)` -/
def Json.octets (value : Json) : Nat := value.jsonbText.utf8.length

/-- The size of a manifest with its chunks, as it is persisted. -/
def persistedBytes (chunks : List StageChunk) (m : GuardCountersignedExport) : Nat :=
  (chunks.map (·.content.toJson.octets)).sum + m.toJson.octets

end Persisted

section Import

/-- The row of an imported record; it counts as delivered. -/
def ExportedSourceRecord.row (r : ExportedSourceRecord) (streamId : JsString) (mutation : TskHotpMutation) :
    OutboxRow where
  record := { r.header streamId r.opDigest with mutation }
  head := r.signedHead streamId r.opDigest
  acked := true

/-- One round of the import.  Rows stand in the order of their sequences; what is not checked of a new row
holds of every record that has been replayed. -/
def importRecord (sanitize : PayloadSanitizer) (streamId : JsString) (db : SourceDb) (r : ExportedSourceRecord) :
    Except FenceError SourceDb := do
  let parsed ← orThrow (Json.parse r.payload) .payloadNotJson
  let mutation ← orThrow (sanitize parsed) .payloadRefused
  let canonical ← liftContract (canonicalizeMutation mutation)
  match db.rows.find? (fun row => row.sequence = r.sequence) with
  | some existing => do
    let stored ← liftContract (canonicalizeMutation existing.record.mutation)
    require (existing.record.sourceEpoch = r.sourceEpoch ∧ existing.record.fenceToken = r.fenceToken ∧
      existing.record.opDigest = r.opDigest ∧ stored = canonical ∧
      existing.head.prevHeadDigest = r.prevHeadDigest ∧ existing.head.headDigest = r.headDigest ∧
      existing.head.keyId = r.keyId ∧ existing.head.alg = r.alg ∧ existing.head.signature = r.signature) .ledgerImport
    return db
  | none => do
    let row := r.row streamId mutation
    require (row.insertable db.rows ∧ 1 ≤ mutation.counter ∧ mutation.counter ≤ TSK_HOTP_MAX_COUNTER)
      .constraintViolation
    return { db with rows := db.rows.orderedInsert (fun a b => a.sequence ≤ b.sequence) row }

/-- `COALESCE(MAX(sequence), 0)` -/
def SourceDb.maxSequence (db : SourceDb) : Int := db.rows.foldl (fun n row => max n row.sequence) 0

def advanceTargetFence (fence : Option Nat) (targetEpoch : Nat) : Except FenceError Nat := do
  require (∀ current ∈ fence, current ≤ targetEpoch) .targetFenceAhead
  return targetEpoch

def importCheckpoint (checkpoint : Option OutboxCheckpoint) (imported : OutboxCheckpoint) :
    Except FenceError OutboxCheckpoint := do
  require (∀ cp ∈ checkpoint, cp.sequence ≤ imported.sequence ∧ (cp.sequence = imported.sequence → cp = imported))
    .checkpointDiverges
  return imported

end Import

section Activation

/-- The pointer of a stream joined with the generation that it names. -/
def ReceiverTables.activeGeneration (db : ReceiverTables) (streamId : JsString) :
    Option (ReceiverPointer × ReceiverGeneration) := do
  let p ← db.pointer streamId
  let g ← db.generations.find? (fun g => g.streamId = streamId && g.generationId = p.activeGenerationId)
  return (p, g)

def StageChunk.historyChunk (c : StageChunk) : Option ExportHistoryChunk :=
  match c.content with
  | .history records => some ⟨c.ordinal, c.seqFrom, c.seqTo, records, c.byteDigest⟩
  | .state _ => none

def StageChunk.stateChunk (c : StageChunk) : Option ExportStateChunk :=
  match c.content with
  | .history _ => none
  | .state pairs => some ⟨c.ordinal, c.itemCount, pairs, c.byteDigest⟩

/-- The bundle of the rows, in the order of their ordinals. -/
def persistedBundle (rows : List StageChunk) : Except FenceError SourceExportBundle :=
  match rows.filterMap StageChunk.stateChunk with
  | [stateChunk] => .ok ⟨rows.filterMap StageChunk.historyChunk, stateChunk⟩
  | _ => .error (.staging "state chunk")

/-- What an activation verifies before it writes: the manifest of the active generation, the records of its
history, and what they replay to. -/
def verifiedGeneration (E : Ed25519) (D : Sha256Bytes) (db : ReceiverTables) (streamId generationId : JsString)
    (opts : ImportedSourceActivationOptions E) (maxSnapshotBytes : Nat) :
    Except FenceError (GuardCountersignedExport × List ExportedSourceRecord × ReplayedExport) := do
  let (pointer, generation) ← orThrow (db.activeGeneration streamId) (.staging "active generation")
  require (pointer.activeGenerationId = generationId) (.staging "active generation")
  let stored ← liftContract (canonicalizeReceipt pointer.bFinalizedReceipt)
  let shown ← liftContract (canonicalizeReceipt opts.finalizedReceipt)
  require (stored = shown) (.staging "stored receipt")
  let stage ← orThrow ((db.stage streamId generationId).filter (·.status = .installed)) (.staging "not installed")
  let chunks := (db.stageChunks streamId generationId).map (·.toStageChunk)
  require (2 ≤ chunks.length ∧ chunks.length ≤ 100000 ∧ persistedBytes chunks stage.manifest ≤ maxSnapshotBytes)
    (.staging "bounds")
  let manifest := stage.manifest
  let bundle ← persistedBundle (chunks.insertionSort (fun a b => a.ordinal ≤ b.ordinal))
  verifyGuardCountersignedExport E D opts.sourceResolver opts.guardResolver manifest
  let replay ← assertExportBundleBinds E D opts.verifier bundle manifest.toSourceExportManifest opts.frozenReceipt
  require (replay.n = generation.manifest.n ∧ replay.n = opts.finalizedReceipt.n ∧
    replay.signedHeadDigestAtN = pointer.headDigest ∧ replay.sourceStateDigestAtN = pointer.stateDigest ∧
    manifest.canonicalDigest = generation.manifest.canonicalDigest ∧
    manifest.manifestRoot = generation.manifest.manifestRoot ∧
    opts.frozenReceipt.receiptDigest = generation.manifest.frozenReceiptDigest) (.staging "replay")
  return (manifest, allRecords bundle, replay)

/-- The tables of the source after the import of a history. -/
def importSource (sanitize : PayloadSanitizer) (db : SourceDb) (streamId : JsString) (targetEpoch : Nat)
    (manifest : GuardCountersignedExport) (records : List ExportedSourceRecord) (replay : ReplayedExport) :
    Except FenceError SourceDb := do
  require (db.maxSequence ≤ replay.n) .ledgerImport
  let db ← records.foldlM (importRecord sanitize streamId) db
  let fence ← advanceTargetFence db.fence targetEpoch
  let checkpoint ← importCheckpoint db.checkpoint ⟨manifest.sourceEpoch, replay.n, replay.signedHeadDigestAtN⟩
  return { db with fence := some fence, checkpoint := some checkpoint }

/-- What an activation checks before its transaction. -/
def checkActivation (E : Ed25519) (D : Sha256Bytes) (streamId generationId : JsString)
    (opts : ImportedSourceActivationOptions E) : Except FenceError Nat := do
  let maxSnapshotBytes ← validateSnapshotBytes opts.maxSnapshotBytes
  strictPlainSnapshot opts
  require (opts.snapshotJson.utf8.length ≤ maxSnapshotBytes) (.outOfRange "snapshot")
  let targetEpoch ← vInt opts.targetEpoch "targetEpoch" 1 2147483647
  let receipt := opts.finalizedReceipt
  let lease := opts.activationLease
  verifyBFinalizedReceipt E D opts.bReceiptResolver receipt
  verifyLeaseGrant E D opts.leaseResolver lease
  require (receipt.streamId = streamId ∧ receipt.generationId = generationId ∧
    receipt.bKeyId = lease.holderNodeId ∧ receipt.epoch < targetEpoch ∧ lease.streamId = streamId ∧
    lease.leaseEpoch = targetEpoch ∧ lease.leaseStatus = .active ∧ lease.commandId = receipt.commandId)
    .activationBinding
  return maxSnapshotBytes

/-- One transaction: the result and the tables it leaves, unless it throws.  `targetSystemId` is the system
identifier of the target's own database. -/
def activateFinalizedReceiverAsSource (E : Ed25519) (D : Sha256Bytes) (targetSystemId : JsString) (db : TargetDb)
    (streamId generationId : JsString) (opts : ImportedSourceActivationOptions E) :
    Except FenceError (ActivatedSource × TargetDb) := do
  let maxSnapshotBytes ← checkActivation E D streamId generationId opts
  require (targetSystemId = opts.finalizedReceipt.bSystemId) .targetSystemMismatch
  let (manifest, records, replay) ←
    verifiedGeneration E D db.receiver streamId generationId opts maxSnapshotBytes
  let outbox ← importSource opts.verifier.sanitize db.outbox streamId opts.targetEpoch manifest records replay
  let (installed, leases) := installLeaseGrantInTx E D opts.leaseResolver db.leases opts.activationLease
  let _ ← installed
  return ({
    streamId, generationId
    targetEpoch := opts.targetEpoch
    n := replay.n
    headDigest := replay.signedHeadDigestAtN
    activationGrantDigest := opts.activationLease.grantDigest }, { db with outbox, leases })

end Activation

end TskProtocol
