import TskProtocol.SourceFence.Export

namespace TskProtocol

/-- A mutation as it comes back from its `jsonb` column, the shorter key first. -/
def Json.ofStoredMutation (mutation : TskHotpMutation) : Json := .obj
  [(JsString.lit "counter", .num mutation.counter), (JsString.lit "tumblerId", .str mutation.tumblerId)]

section History

variable (D : Sha256Bytes) (sanitize : PayloadSanitizer) (entries : List OutboxEntry)
  (streamId epoch : JsString)

def exportRecord (entry : OutboxEntry) : Except FenceError ExportedSourceRecord := do
  let stored := (Json.ofStoredMutation entry.1.mutation).stringify
  let parsed ← orThrow (Json.parse stored) .payloadNotJson
  let mutation ← orThrow (sanitize parsed) .payloadRefused
  let payload ← liftContract (canonicalizeMutation mutation)
  require (1 ≤ entry.1.sequence ∧ entry.1.sequence ≤ MAX_SEQ) (.outOfRange "sequence")
  require (matchesHex64 entry.1.opDigest) (.invalidDigest "op_digest")
  require (matchesHex64 entry.2.prevHeadDigest) (.invalidDigest "head_prev")
  require (matchesHex64 entry.2.headDigest) (.invalidDigest "head_digest")
  return {
    sequence := entry.1.sequence
    sourceEpoch := entry.1.sourceEpoch
    fenceToken := entry.1.fenceToken
    opDigest := entry.1.opDigest
    prevHeadDigest := entry.2.prevHeadDigest
    headDigest := entry.2.headDigest
    keyId := entry.2.keyId
    alg := entry.2.alg
    signature := entry.2.signature
    payload }

/-- The chunk of the rows with a sequence in `[seqFrom, seqTo]`. -/
def exportChunk (ordinal seqFrom seqTo : Nat) : Except FenceError ExportHistoryChunk := do
  let rows := entries.filter (fun entry => entry.1.sourceEpoch = epoch ∧
    (seqFrom : Int) ≤ entry.1.sequence ∧ entry.1.sequence ≤ (seqTo : Int))
  require (rows.length = seqTo - seqFrom + 1) .exportGap
  let records ← rows.mapM (exportRecord sanitize)
  let byteDigest ← historyChunkByteDigest D records
  return { ordinal, seqFrom, seqTo, records, byteDigest }

/-- The loop over the chunks up to `n`.  It takes at most `n` rounds. -/
def exportChunks (n maxItems : Nat) : Nat → Nat → Nat → Except FenceError (List ExportHistoryChunk)
  | 0, _, _ => .ok []
  | rounds + 1, ordinal, seqFrom =>
    if seqFrom ≤ n then do
      let chunk ← exportChunk D sanitize entries epoch ordinal seqFrom (min (seqFrom + maxItems - 1) n)
      let rest ← exportChunks n maxItems rounds (ordinal + 1) (seqFrom + maxItems)
      return chunk :: rest
    else return []

def exportSourceHistory (n : Nat) (maxChunkItems : Option Nat) :
    Except FenceError SourceExportBundle := do
  let _ ← vId streamId (matchesStreamId 512) "streamId"
  let n ← vInt n "n" 1 MAX_SEQ
  let maxItems ← vInt (maxChunkItems.getD DEFAULT_MAX_CHUNK_ITEMS) "maxChunkItems" 1 100000
  let historyChunks ← exportChunks D sanitize entries epoch n maxItems n 0 1
  let pairs ← readSourceStatePairs entries n (some epoch)
  let byteDigest ← stateChunkByteDigest D pairs
  let stateChunk : ExportStateChunk :=
    { ordinal := historyChunks.length, itemCount := pairs.length, pairs, byteDigest }
  return { historyChunks, stateChunk }

end History

structure SourceExportInput where
  streamId : JsString
  epoch : Nat
  commandId : JsString
  sourceNodeId : JsString
  deriving DecidableEq, Repr

structure SourceExportOptions (E : Ed25519) where
  sourceKeyId : JsString
  sourcePrivateKey : E.PrivateKey
  sanitize : PayloadSanitizer
  leaseResolver : SourceVerifyKeyResolver E
  headResolver : SourceVerifyKeyResolver E
  frozenReceipt : SourceFrozenReceipt
  maxChunkItems : Option Nat

/-- What the source signs of a manifest. -/
def manifestSignedMsg (m : SourceExportManifest) : List UInt8 :=
  manifestMsg m ++ frame [some (JsString.lit "tsk_manifest_digest"), some m.canonicalDigest]

/-- `sourceSystemId` is the system identifier of the source's own database. -/
def buildSourceExportManifest (E : Ed25519) (D : Sha256Bytes) (db : SourceDb) (sourceSystemId : JsString)
    (input : SourceExportInput) (opts : SourceExportOptions E) :
    Except FenceError (SourceExportBundle × SourceExportManifest) := do
  let s ← vId input.streamId (matchesStreamId 512) "streamId"
  let commandId ← vId input.commandId matchesId "commandId"
  let sourceNodeId ← vId input.sourceNodeId matchesId "sourceNodeId"
  let epoch ← vInt input.epoch "epoch" 0 MAX_EPOCH
  let fr := opts.frozenReceipt
  verifySourceFrozenReceipt E D opts.leaseResolver fr
  require (fr.streamId = s ∧ fr.epoch = epoch ∧ fr.commandId = commandId ∧
    fr.sourceNodeId = sourceNodeId) (.manifest "frozen receipt")
  let cp ← orThrow db.checkpoint .freezeNoCheckpoint
  require (1 ≤ cp.sequence ∧ cp.sequence ≤ MAX_SEQ) (.outOfRange "N")
  let n := cp.sequence.toNat
  require (n = fr.n) (.manifest "checkpoint N")
  let bundle ← exportSourceHistory D opts.sanitize db.entries s cp.sourceEpoch n opts.maxChunkItems
  let replay ← replaySourceExport E D opts.sanitize opts.headResolver s cp.sourceEpoch (allRecords bundle)
  require (replay.n = n ∧ replay.signedHeadDigestAtN = fr.signedHeadDigestAtN ∧
    replay.sourceStateDigestAtN = fr.sourceStateDigestAtN) (.manifest "replay")
  assertStateChunkMatchesReplay D s bundle.stateChunk replay.derivedStatePairs
  let inventory ← bundleInventory D bundle
  assertExportInventory inventory n
  let bare : SourceExportManifest := {
    manifestSchemaVersion := EXPORT_MANIFEST_VERSION
    streamId := s, epoch, sourceEpoch := cp.sourceEpoch, commandId, sourceNodeId, sourceSystemId, n
    frozenReceiptDigest := fr.receiptDigest
    signedHeadDigestAtN := replay.signedHeadDigestAtN
    sourceStateDigestAtN := replay.sourceStateDigestAtN
    chunkCount := inventory.length, inventory
    manifestRoot := computeManifestRoot D inventory
    canonicalDigest := [], sourceKeyId := opts.sourceKeyId, sourceSignature := [] }
  let digested := { bare with canonicalDigest := D.hex (manifestMsg bare) }
  let sourceSignature ←
    edSignB64u E opts.sourceKeyId opts.sourcePrivateKey (manifestSignedMsg digested)
  return (bundle, { digested with sourceSignature })

def verifySourceExportManifest (E : Ed25519) (D : Sha256Bytes) (resolver : SourceVerifyKeyResolver E)
    (m : SourceExportManifest) : Except FenceError Unit := do
  assertExportInventory m.inventory m.n
  require (m.chunkCount = m.inventory.length) (.manifest "chunkCount")
  require (computeManifestRoot D m.inventory = m.manifestRoot) (.manifest "manifestRoot")
  require (D.hex (manifestMsg m) = m.canonicalDigest) (.manifest "canonicalDigest")
  verifySig E resolver m.sourceKeyId (manifestSignedMsg m) m.sourceSignature

structure GuardCountersignedExport extends SourceExportManifest where
  guardKeyId : JsString
  guardSignature : JsString
  deriving DecidableEq, Repr

def guardCountersignMsg (m : SourceExportManifest) : List UInt8 :=
  frame [some (JsString.lit "tsk_guard_countersign/v1"), some m.canonicalDigest, some m.sourceKeyId,
    some m.sourceSignature]

structure GuardCountersignOptions (E : Ed25519) where
  guardKeyId : JsString
  guardPrivateKey : E.PrivateKey
  sourceManifestResolver : SourceVerifyKeyResolver E
  verifier : ExportVerifier E
  frozenReceipt : SourceFrozenReceipt
  expectedCommandId : JsString

def guardCountersignSourceExport (E : Ed25519) (D : Sha256Bytes) (bundle : SourceExportBundle)
    (manifest : SourceExportManifest) (opts : GuardCountersignOptions E) :
    Except FenceError GuardCountersignedExport := do
  let expected ← vId opts.expectedCommandId matchesId "expectedCommandId"
  require (manifest.commandId = expected) (.manifest "commandId")
  verifySourceExportManifest E D opts.sourceManifestResolver manifest
  let _ ← assertExportBundleBinds E D opts.verifier bundle manifest opts.frozenReceipt
  let guardSignature ←
    edSignB64u E opts.guardKeyId opts.guardPrivateKey (guardCountersignMsg manifest)
  return { manifest with guardKeyId := opts.guardKeyId, guardSignature }

/-- Both signatures, of independent custody. -/
def verifyGuardCountersignedExport (E : Ed25519) (D : Sha256Bytes)
    (sourceResolver guardResolver : SourceVerifyKeyResolver E) (m : GuardCountersignedExport) :
    Except FenceError Unit := do
  verifySourceExportManifest E D sourceResolver m.toSourceExportManifest
  verifySig E guardResolver m.guardKeyId (guardCountersignMsg m.toSourceExportManifest) m.guardSignature

end TskProtocol
