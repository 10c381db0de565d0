import TskProtocol.Json.Parse
import TskProtocol.SourceFence.Ledger

namespace TskProtocol

def EXPORT_MANIFEST_VERSION : JsString := JsString.lit "tsk_source_manifest/v1"
def DEFAULT_MAX_CHUNK_ITEMS : Nat := 1024

structure ExportedSourceRecord where
  sequence : Int
  sourceEpoch : JsString
  fenceToken : JsString
  opDigest : JsString
  prevHeadDigest : JsString
  headDigest : JsString
  keyId : JsString
  alg : JsString
  signature : JsString
  payload : JsString
  deriving DecidableEq, Repr

inductive ChunkKind
  | history | state
  deriving DecidableEq, Repr

structure ExportChunkInventoryEntry where
  kind : ChunkKind
  ordinal : Int
  seqFrom : Int
  seqTo : Int
  itemCount : Int
  byteDigest : JsString
  deriving DecidableEq, Repr

structure ExportHistoryChunk where
  ordinal : Int
  seqFrom : Int
  seqTo : Int
  records : List ExportedSourceRecord
  byteDigest : JsString
  deriving DecidableEq, Repr

structure ExportStateChunk where
  ordinal : Int
  itemCount : Int
  pairs : List StatePair
  byteDigest : JsString
  deriving DecidableEq, Repr

structure SourceExportBundle where
  historyChunks : List ExportHistoryChunk
  stateChunk : ExportStateChunk
  deriving DecidableEq, Repr

structure SourceExportManifest where
  manifestSchemaVersion : JsString
  streamId : JsString
  epoch : Nat
  sourceEpoch : JsString
  commandId : JsString
  sourceNodeId : JsString
  sourceSystemId : JsString
  n : Nat
  frozenReceiptDigest : JsString
  signedHeadDigestAtN : JsString
  sourceStateDigestAtN : JsString
  chunkCount : Nat
  inventory : List ExportChunkInventoryEntry
  manifestRoot : JsString
  canonicalDigest : JsString
  sourceKeyId : JsString
  sourceSignature : JsString
  deriving DecidableEq, Repr

structure ReplayedExport where
  signedHeadDigestAtN : JsString
  sourceStateDigestAtN : JsString
  derivedStatePairs : List StatePair
  n : Nat
  deriving DecidableEq, Repr

/-- `sanitize` of a payload of the stream; `none` when it throws. -/
abbrev PayloadSanitizer := Json → Option TskHotpMutation

def int (n : Int) : Option JsString := some (JsString.ofInt n)

/-- `frame(...)` with the range check of its length prefixes. -/
def frameChecked (parts : List (Option JsString)) : Except FenceError (List UInt8) := do
  require (∀ part ∈ parts, ∀ s ∈ part, s.utf8.length < 4294967296) .frameTooLong
  return frame parts

def ExportedSourceRecord.parts (r : ExportedSourceRecord) : List (Option JsString) :=
  [int r.sequence, some r.sourceEpoch, some r.fenceToken, some r.opDigest, some r.prevHeadDigest,
    some r.headDigest, some r.keyId, some r.alg, some r.signature, some r.payload]

def historyChunkParts (records : List ExportedSourceRecord) : List (Option JsString) :=
  some (JsString.lit "tsk_export_hist/v1") :: num records.length ::
    records.flatMap ExportedSourceRecord.parts

def historyChunkByteDigest (D : Sha256Bytes) (records : List ExportedSourceRecord) :
    Except FenceError JsString := do
  let message ← frameChecked (historyChunkParts records)
  return D.hex message

def stateChunkParts (pairs : List StatePair) : List (Option JsString) :=
  some (JsString.lit "tsk_export_state/v1") :: num pairs.length ::
    pairs.flatMap (fun pair => [some pair.1, int pair.2])

def stateChunkByteDigest (D : Sha256Bytes) (pairs : List StatePair) : Except FenceError JsString := do
  let message ← frameChecked (stateChunkParts pairs)
  return D.hex message

def ChunkKind.text : ChunkKind → JsString
  | .history => JsString.lit "history"
  | .state => JsString.lit "state"

def computeManifestRoot (D : Sha256Bytes) (inventory : List ExportChunkInventoryEntry) : JsString :=
  D.hex (frame (some (JsString.lit "tsk_manifest_root/v1") :: num inventory.length ::
    inventory.flatMap (fun e => [some e.kind.text, int e.ordinal, int e.seqFrom, int e.seqTo,
      int e.itemCount, some e.byteDigest])))

def manifestMsg (m : SourceExportManifest) : List UInt8 :=
  frame [some EXPORT_MANIFEST_VERSION, some m.manifestSchemaVersion, some m.streamId, num m.epoch,
    some m.sourceEpoch, some m.commandId, some m.sourceNodeId, some m.sourceSystemId, num m.n,
    some m.frozenReceiptDigest, some m.signedHeadDigestAtN, some m.sourceStateDigestAtN,
    num m.chunkCount, some m.manifestRoot]

section Replay

variable (E : Ed25519) (D : Sha256Bytes) (sanitize : PayloadSanitizer)
  (headResolver : SourceVerifyKeyResolver E) (streamId expectedSourceEpoch : JsString)

namespace ExportedSourceRecord

/-- The header that a record is read into, under the digest of its payload. -/
def header (r : ExportedSourceRecord) (opDigest : JsString) : OutboxRecordHeader where
  contractVersion := JsString.lit "1"
  streamId := streamId
  sourceEpoch := r.sourceEpoch
  sequence := r.sequence
  fenceToken := r.fenceToken
  opDigest := opDigest

def signedHead (r : ExportedSourceRecord) (opDigest : JsString) : SignedStreamHead where
  streamId := streamId
  sequence := r.sequence
  prevHeadDigest := r.prevHeadDigest
  opDigest := opDigest
  keyId := r.keyId
  alg := r.alg
  headDigest := r.headDigest
  signature := r.signature

end ExportedSourceRecord

/-- One round of the replay: the mutation of the record that is expected to be number `expectSeq`,
behind the head `prev`. -/
def replayRecord (expectSeq : Int) (prev : JsString) (r : ExportedSourceRecord) :
    Except FenceError TskHotpMutation := do
  require (1 ≤ r.sequence ∧ r.sequence ≤ MAX_SEQ) (.outOfRange "record sequence")
  require (r.sequence = expectSeq) .exportSequence
  require (r.sourceEpoch = expectedSourceEpoch) .exportSourceEpoch
  let parsed ← orThrow (Json.parse r.payload) .payloadNotJson
  let mutation ← orThrow (sanitize parsed) .payloadRefused
  let canonical ← liftContract (canonicalizeMutation mutation)
  require (r.payload = canonical) .payloadNotCanonical
  let opDigest ← liftContract
    (canonicalOpDigest D streamId r.sourceEpoch r.sequence r.fenceToken mutation)
  require (opDigest = r.opDigest) .opDigestMismatch
  liftContract (assertStreamHeadBinds D (r.header streamId opDigest) (r.signedHead streamId opDigest))
  require (r.alg = JsString.lit "ed25519") .ledgerAlg
  verifyHeadSignature E headResolver r.keyId r.headDigest r.signature
  require (r.prevHeadDigest = prev) .ledgerLink
  return mutation

/-- The loop of the replay; `state` keeps the latest counter of each tumbler. -/
def replayRecords : Int → JsString → OrderedMap JsString Int → List ExportedSourceRecord →
    Except FenceError (JsString × OrderedMap JsString Int)
  | _, prev, state, [] => .ok (prev, state)
  | expectSeq, prev, state, r :: rest => do
    let mutation ← replayRecord E D sanitize headResolver streamId expectedSourceEpoch expectSeq prev r
    replayRecords (expectSeq + 1) r.headDigest (state.set mutation.tumblerId mutation.counter) rest

def replaySourceExport (records : List ExportedSourceRecord) : Except FenceError ReplayedExport := do
  let s ← vId streamId (matchesStreamId 512) "streamId"
  require (records ≠ []) .exportEmpty
  let (head, state) ← replayRecords E D sanitize headResolver s expectedSourceEpoch 1 GENESIS_HEAD_ZERO ∅
    records
  let derivedStatePairs := sortPairs state.entries
  return {
    signedHeadDigestAtN := head
    sourceStateDigestAtN := stateDigestFromPairs D s records.length derivedStatePairs
    derivedStatePairs
    n := records.length }

end Replay

def assertStateChunkMatchesReplay (D : Sha256Bytes) (streamId : JsString) (stateChunk : ExportStateChunk)
    (derivedStatePairs : List StatePair) : Except FenceError Unit := do
  require (stateChunk.pairs.length = derivedStatePairs.length ∧
    stateChunk.itemCount = derivedStatePairs.length) .stateCount
  require (∀ p ∈ stateChunk.pairs.zip derivedStatePairs, p.1 = p.2) .statePair
  let byteDigest ← stateChunkByteDigest D stateChunk.pairs
  require (byteDigest = stateChunk.byteDigest) .chunkDigest
  require (stateDigestFromPairs D streamId 0 (sortPairs stateChunk.pairs) =
    stateDigestFromPairs D streamId 0 derivedStatePairs) .statePair

/-- The loop over all entries but the last; the next expected sequence is returned. -/
def assertHistoryEntries : Int → Int → List ExportChunkInventoryEntry → Except FenceError Int
  | _, expectSeq, [] => .ok expectSeq
  | i, expectSeq, e :: rest => do
    require (e.kind = .history) (.inventory "kind")
    require (e.ordinal = i) (.inventory "ordinal")
    require (e.seqFrom = expectSeq) (.inventory "seqFrom")
    require (e.seqFrom ≤ e.seqTo) (.inventory "range")
    require (e.itemCount = e.seqTo - e.seqFrom + 1) (.inventory "itemCount")
    assertHistoryEntries (i + 1) (e.seqTo + 1) rest

def assertExportInventory (inventory : List ExportChunkInventoryEntry) (n : Nat) :
    Except FenceError Unit := do
  require (2 ≤ inventory.length) (.inventory "length")
  let expectSeq ← assertHistoryEntries 0 1 inventory.dropLast
  require (expectSeq - 1 = n) (.inventory "cover")
  let last ← orThrow inventory.getLast? (.inventory "length")
  require (last.kind = .state ∧ last.ordinal = (inventory.length : Int) - 1 ∧ last.seqFrom = 0 ∧
    last.seqTo = 0) (.inventory "last")

/-- The entry of a history chunk, under the digest of its records. -/
def historyEntry (D : Sha256Bytes) (c : ExportHistoryChunk) :
    Except FenceError ExportChunkInventoryEntry := do
  let byteDigest ← historyChunkByteDigest D c.records
  require (c.byteDigest = byteDigest) .chunkDigest
  return ⟨.history, c.ordinal, c.seqFrom, c.seqTo, c.records.length, byteDigest⟩

def bundleInventory (D : Sha256Bytes) (bundle : SourceExportBundle) :
    Except FenceError (List ExportChunkInventoryEntry) := do
  let inv ← bundle.historyChunks.mapM (historyEntry D)
  let stateByteDigest ← stateChunkByteDigest D bundle.stateChunk.pairs
  require (bundle.stateChunk.byteDigest = stateByteDigest) .chunkDigest
  return inv ++ [⟨.state, bundle.stateChunk.ordinal, 0, 0, bundle.stateChunk.itemCount, stateByteDigest⟩]

def allRecords (bundle : SourceExportBundle) : List ExportedSourceRecord :=
  bundle.historyChunks.flatMap ExportHistoryChunk.records

/-- What a verifier of exports trusts. -/
structure ExportVerifier (E : Ed25519) where
  sanitize : PayloadSanitizer
  headResolver : SourceVerifyKeyResolver E
  frozenResolver : SourceVerifyKeyResolver E

def assertExportBundleBinds (E : Ed25519) (D : Sha256Bytes) (verifier : ExportVerifier E)
    (bundle : SourceExportBundle) (manifest : SourceExportManifest) (fr : SourceFrozenReceipt) :
    Except FenceError ReplayedExport := do
  verifySourceFrozenReceipt E D verifier.frozenResolver fr
  require (fr.receiptDigest = manifest.frozenReceiptDigest ∧ fr.streamId = manifest.streamId ∧
    fr.epoch = manifest.epoch ∧ fr.commandId = manifest.commandId ∧
    fr.sourceNodeId = manifest.sourceNodeId ∧ fr.n = manifest.n ∧
    fr.signedHeadDigestAtN = manifest.signedHeadDigestAtN ∧
    fr.sourceStateDigestAtN = manifest.sourceStateDigestAtN) (.manifest "frozen receipt")
  let inv ← bundleInventory D bundle
  assertExportInventory inv manifest.n
  require (computeManifestRoot D inv = manifest.manifestRoot) (.manifest "root")
  require (inv.length = manifest.inventory.length) (.manifest "chunk count")
  require (∀ p ∈ inv.zip manifest.inventory, p.1 = p.2) (.manifest "inventory entry")
  let replay ← replaySourceExport E D verifier.sanitize verifier.headResolver manifest.streamId
    manifest.sourceEpoch (allRecords bundle)
  require (replay.n = manifest.n ∧ replay.signedHeadDigestAtN = manifest.signedHeadDigestAtN ∧
    replay.sourceStateDigestAtN = manifest.sourceStateDigestAtN) (.manifest "replay")
  assertStateChunkMatchesReplay D manifest.streamId bundle.stateChunk replay.derivedStatePairs
  return replay

end TskProtocol
