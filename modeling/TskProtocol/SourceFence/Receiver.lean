import TskProtocol.SourceFence.Exporter

namespace TskProtocol

inductive StageStatus
  | staged | installed
  deriving DecidableEq, Repr

/-- A row of `tsk_receiver_stage`; the other columns repeat fields of the manifest. -/
structure ReceiverStage where
  streamId : JsString
  generationId : JsString
  manifest : GuardCountersignedExport
  status : StageStatus
  deriving DecidableEq, Repr

/-- The `content` of a chunk, with its kind. -/
inductive ChunkContent
  | history (records : List ExportedSourceRecord)
  | state (pairs : List StatePair)
  deriving DecidableEq, Repr

structure StageChunk where
  ordinal : Int
  seqFrom : Int
  seqTo : Int
  itemCount : Int
  byteDigest : JsString
  content : ChunkContent
  deriving DecidableEq, Repr

/-- A row of `tsk_receiver_stage_chunk`. -/
structure ReceiverStageChunk extends StageChunk where
  streamId : JsString
  generationId : JsString
  deriving DecidableEq, Repr

structure ReceiverGeneration where
  streamId : JsString
  generationId : JsString
  manifest : GuardCountersignedExport
  signedHeadDigestAtN : JsString
  sourceStateDigestAtN : JsString
  bSystemId : JsString
  bFinalizedReceipt : BFinalizedReceipt
  deriving DecidableEq, Repr

structure ReceiverPointer where
  streamId : JsString
  activeGenerationId : JsString
  checkpointSeq : Nat
  headDigest : JsString
  stateDigest : JsString
  bFinalizedReceipt : BFinalizedReceipt
  deriving DecidableEq, Repr

structure ReceiverStateRow where
  streamId : JsString
  generationId : JsString
  tumblerId : JsString
  hotpCounter : Int
  deriving DecidableEq, Repr

/-- The tables of a receiver, for all streams. -/
structure ReceiverTables where
  stages : List ReceiverStage := []
  chunks : List ReceiverStageChunk := []
  generations : List ReceiverGeneration := []
  pointers : List ReceiverPointer := []
  states : List ReceiverStateRow := []
  deriving DecidableEq, Repr

namespace ReceiverTables

variable (db : ReceiverTables) (streamId generationId : JsString)

def stage : Option ReceiverStage :=
  db.stages.find? (fun row => row.streamId = streamId && row.generationId = generationId)

def stageChunks : List ReceiverStageChunk :=
  db.chunks.filter (fun row => row.streamId = streamId && row.generationId = generationId)

def stageChunk (ordinal : Int) : Option ReceiverStageChunk :=
  (db.stageChunks streamId generationId).find? (fun row => row.ordinal = ordinal)

def pointer : Option ReceiverPointer := db.pointers.find? (fun row => row.streamId = streamId)

/-- The materialized state of a generation. -/
def stateRows : List StatePair :=
  (db.states.filter (fun row => row.streamId = streamId && row.generationId = generationId)).map
    (fun row => (row.tumblerId, row.hotpCounter))

end ReceiverTables

structure ReceiverVerifyOptions (E : Ed25519) where
  verifier : ExportVerifier E
  sourceResolver : SourceVerifyKeyResolver E
  guardResolver : SourceVerifyKeyResolver E
  frozenReceipt : SourceFrozenReceipt
  expectedCommandId : JsString

structure ReceiverFinalizeOptions (E : Ed25519) extends ReceiverVerifyOptions E where
  bVerifyResolver : SourceVerifyKeyResolver E
  bKeyId : JsString
  bPrivateKey : E.PrivateKey

/-- What staging and finalizing both verify; the replay is returned. -/
def verifiedExportSnapshot (E : Ed25519) (D : Sha256Bytes) (bundle : SourceExportBundle)
    (manifest : GuardCountersignedExport) (opts : ReceiverVerifyOptions E) :
    Except FenceError ReplayedExport := do
  let expected ← vId opts.expectedCommandId matchesId "expectedCommandId"
  require (manifest.commandId = expected) (.manifest "commandId")
  verifyGuardCountersignedExport E D opts.sourceResolver opts.guardResolver manifest
  assertExportBundleBinds E D opts.verifier bundle manifest.toSourceExportManifest opts.frozenReceipt

/-- The chunks of a bundle, as they are staged. -/
def SourceExportBundle.stageChunks (bundle : SourceExportBundle) : List StageChunk :=
  bundle.historyChunks.map (fun c =>
    ⟨c.ordinal, c.seqFrom, c.seqTo, c.records.length, c.byteDigest, .history c.records⟩) ++
  [⟨bundle.stateChunk.ordinal, 0, 0, bundle.stateChunk.itemCount, bundle.stateChunk.byteDigest,
    .state bundle.stateChunk.pairs⟩]

/-- Text that a `jsonb` column takes and gives back. -/
def fitsJsonb (s : JsString) : Bool := s.all (· ≠ 0) && !s.hasLoneSurrogate

/-- The range of an `integer` column that is not negative. -/
def fitsInteger (n : Int) : Bool := 0 ≤ n && n ≤ 2147483647

/-- The range of a `bigint` column that is not negative. -/
def fitsBigint (n : Int) : Bool := 0 ≤ n && n ≤ 9223372036854775807

def ExportedSourceRecord.texts (r : ExportedSourceRecord) : List JsString :=
  [r.sourceEpoch, r.fenceToken, r.opDigest, r.prevHeadDigest, r.headDigest, r.keyId, r.alg, r.signature,
    r.payload]

def ChunkContent.texts : ChunkContent → List JsString
  | .history records => records.flatMap ExportedSourceRecord.texts
  | .state pairs => pairs.map Prod.fst

def GuardCountersignedExport.texts (m : GuardCountersignedExport) : List JsString :=
  [m.manifestSchemaVersion, m.streamId, m.sourceEpoch, m.commandId, m.sourceNodeId, m.sourceSystemId,
    m.frozenReceiptDigest, m.signedHeadDigestAtN, m.sourceStateDigestAtN, m.manifestRoot,
    m.canonicalDigest, m.sourceKeyId, m.sourceSignature, m.guardKeyId, m.guardSignature] ++
  m.inventory.map (·.byteDigest)

def BFinalizedReceipt.texts (r : BFinalizedReceipt) : List JsString :=
  [r.streamId, r.commandId, r.sourceEpoch, r.generationId, r.frozenReceiptDigest, r.manifestDigest,
    r.manifestRoot, r.sourceSystemId, r.sourceKeyId, r.sourceSignature, r.guardKeyId, r.guardSignature,
    r.signedHeadDigestAtN, r.sourceStateDigestAtN, r.bSystemId, r.receiptDigest, r.bKeyId, r.bSignature]

namespace ReceiverTables

/-- A row of the stage, under its constraints. -/
def insertStage (db : ReceiverTables) (row : ReceiverStage) : Except FenceError ReceiverTables := do
  let m := row.manifest
  require (row.streamId.fitsIdColumn ∧ matchesId row.generationId ∧ fitsBigint m.epoch ∧ 1 ≤ m.n ∧
    fitsBigint m.n ∧ matchesHex64 m.canonicalDigest ∧ matchesHex64 m.manifestRoot ∧ 2 ≤ m.chunkCount ∧
    fitsInteger m.chunkCount ∧ m.texts.all fitsJsonb ∧ (db.stage row.streamId row.generationId).isNone)
    .constraintViolation
  return { db with stages := db.stages ++ [row] }

def insertStageChunk (db : ReceiverTables) (row : ReceiverStageChunk) : Except FenceError ReceiverTables := do
  require (row.streamId.fitsIdColumn ∧ fitsInteger row.ordinal ∧ fitsBigint row.seqFrom ∧
    fitsBigint row.seqTo ∧ fitsInteger row.itemCount ∧ matchesHex64 row.byteDigest ∧
    row.content.texts.all fitsJsonb ∧ (db.stageChunk row.streamId row.generationId row.ordinal).isNone)
    .constraintViolation
  return { db with chunks := db.chunks ++ [row] }

def insertGeneration (db : ReceiverTables) (row : ReceiverGeneration) : Except FenceError ReceiverTables := do
  let m := row.manifest
  require (row.streamId.fitsIdColumn ∧ matchesId row.generationId ∧ fitsBigint m.epoch ∧ 1 ≤ m.n ∧
    fitsBigint m.n ∧ matchesHex64 m.canonicalDigest ∧ matchesHex64 m.manifestRoot ∧
    matchesHex64 m.frozenReceiptDigest ∧ matchesHex64 row.signedHeadDigestAtN ∧
    matchesHex64 row.sourceStateDigestAtN ∧ row.bFinalizedReceipt.texts.all fitsJsonb ∧
    ∀ other ∈ db.generations, (other.streamId, other.generationId) ≠ (row.streamId, row.generationId))
    .constraintViolation
  return { db with generations := db.generations ++ [row] }

def insertState (db : ReceiverTables) (row : ReceiverStateRow) : Except FenceError ReceiverTables := do
  require (row.streamId.fitsIdColumn ∧ row.tumblerId.fitsIdColumn ∧ 1 ≤ row.hotpCounter ∧
    row.hotpCounter ≤ 2147483647 ∧ ∀ other ∈ db.states, (other.streamId, other.generationId, other.tumblerId) ≠
      (row.streamId, row.generationId, row.tumblerId)) .constraintViolation
  return { db with states := db.states ++ [row] }

def insertPointer (db : ReceiverTables) (row : ReceiverPointer) : Except FenceError ReceiverTables := do
  require (row.streamId.fitsIdColumn ∧ 1 ≤ row.checkpointSeq ∧ fitsBigint row.checkpointSeq ∧
    matchesHex64 row.headDigest ∧ matchesHex64 row.stateDigest ∧ row.bFinalizedReceipt.texts.all fitsJsonb ∧
    (db.pointer row.streamId).isNone) .constraintViolation
  return { db with pointers := db.pointers ++ [row] }

/-- Staged rows become installed; there has to be one. -/
def sealStage (db : ReceiverTables) (streamId generationId : JsString) : Except FenceError ReceiverTables := do
  let matching (row : ReceiverStage) : Bool :=
    row.streamId = streamId && row.generationId = generationId && row.status = .staged
  require ((db.stages.filter matching).length = 1) .noAffectedRow
  return { db with stages := db.stages.map (fun row =>
    if matching row then { row with status := .installed } else row) }

end ReceiverTables

/-- One transaction: the tables it leaves, unless it throws. -/
def stageReceiverExport (E : Ed25519) (D : Sha256Bytes) (db : ReceiverTables) (generationId : JsString)
    (bundle : SourceExportBundle) (manifest : GuardCountersignedExport) (opts : ReceiverVerifyOptions E) :
    Except FenceError ReceiverTables := do
  let gid ← vId generationId matchesId "generationId"
  let _ ← verifiedExportSnapshot E D bundle manifest opts
  let s ← vId manifest.streamId (matchesStreamId 512) "streamId"
  match db.stage s gid with
  | some existing =>
    require (existing.manifest.canonicalDigest = manifest.canonicalDigest) (.staging "manifest")
    require (∀ c ∈ bundle.stageChunks, (db.stageChunk s gid c.ordinal).map (·.byteDigest) = some c.byteDigest)
      (.staging "chunk digest")
    return db
  | none =>
    let db ← db.insertStage ⟨s, gid, manifest, .staged⟩
    bundle.stageChunks.foldlM (fun db c => db.insertStageChunk ⟨c, s, gid⟩) db

/-- The loop over the staged rows; a later state chunk takes the place of an earlier one. -/
def rebuildChunks : List ReceiverStageChunk → Except FenceError (List ExportHistoryChunk × Option ExportStateChunk)
  | [] => .ok ([], none)
  | row :: rest => do
    require (0 ≤ row.ordinal ∧ row.ordinal ≤ 100000) (.outOfRange "ordinal")
    match row.content with
    | .history records =>
      require (1 ≤ row.seqFrom ∧ row.seqFrom ≤ MAX_SEQ) (.outOfRange "seq_from")
      require (1 ≤ row.seqTo ∧ row.seqTo ≤ MAX_SEQ) (.outOfRange "seq_to")
      let (historyChunks, stateChunk) ← rebuildChunks rest
      return (⟨row.ordinal, row.seqFrom, row.seqTo, records, row.byteDigest⟩ :: historyChunks, stateChunk)
    | .state pairs =>
      require (0 ≤ row.itemCount ∧ row.itemCount ≤ 1000000) (.outOfRange "item_count")
      let (historyChunks, stateChunk) ← rebuildChunks rest
      return (historyChunks, stateChunk <|> some ⟨row.ordinal, row.itemCount, pairs, row.byteDigest⟩)

/-- The bundle and the manifest of a generation, from its staged rows alone. -/
def rebuildStagedBundle (db : ReceiverTables) (streamId generationId : JsString) :
    Except FenceError (SourceExportBundle × GuardCountersignedExport) := do
  let st ← orThrow (db.stage streamId generationId) (.staging "not staged")
  let rows := (db.stageChunks streamId generationId).insertionSort (fun a b => a.ordinal ≤ b.ordinal)
  let chunkCount ← vInt st.manifest.chunkCount "chunk_count" 2 100000
  require (rows.length = chunkCount) (.staging "chunk count")
  let (historyChunks, stateChunk) ← rebuildChunks rows
  let stateChunk ← orThrow stateChunk (.staging "state chunk")
  return (⟨historyChunks, stateChunk⟩, st.manifest)

def signBFinalizedReceipt (E : Ed25519) (D : Sha256Bytes) (bKeyId : JsString) (bPrivateKey : E.PrivateKey)
    (bare : BFinalizedReceipt) : Except FenceError BFinalizedReceipt := do
  let receiptDigest := D.hex (bFinalizedMsg bare [])
  let bSignature ← edSignB64u E bKeyId bPrivateKey (bFinalizedMsg bare receiptDigest)
  return { bare with receiptDigest, bKeyId, bSignature }

/-- The unsigned receipt of a verified manifest. -/
def bareFinalized (s gid bSystemId : JsString) (m : GuardCountersignedExport) (replay : ReplayedExport) :
    BFinalizedReceipt where
  streamId := s
  commandId := m.commandId
  epoch := m.epoch
  sourceEpoch := m.sourceEpoch
  n := m.n
  generationId := gid
  frozenReceiptDigest := m.frozenReceiptDigest
  manifestDigest := m.canonicalDigest
  manifestRoot := m.manifestRoot
  sourceSystemId := m.sourceSystemId
  sourceKeyId := m.sourceKeyId
  sourceSignature := m.sourceSignature
  guardKeyId := m.guardKeyId
  guardSignature := m.guardSignature
  signedHeadDigestAtN := replay.signedHeadDigestAtN
  sourceStateDigestAtN := replay.sourceStateDigestAtN
  bSystemId := bSystemId
  receiptDigest := []
  bKeyId := []
  bSignature := []

/-- The writes of an install, in one transaction. -/
def installGeneration (db : ReceiverTables) (s gid bSystemId : JsString) (m : GuardCountersignedExport)
    (replay : ReplayedExport) (receipt : BFinalizedReceipt) : Except FenceError ReceiverTables := do
  let db ← db.insertGeneration
    ⟨s, gid, m, replay.signedHeadDigestAtN, replay.sourceStateDigestAtN, bSystemId, receipt⟩
  let db ← replay.derivedStatePairs.foldlM (fun db pair => db.insertState ⟨s, gid, pair.1, pair.2⟩) db
  let db ← db.insertPointer
    ⟨s, gid, m.n, replay.signedHeadDigestAtN, replay.sourceStateDigestAtN, receipt⟩
  db.sealStage s gid

/-- One transaction: the receipt and the tables it leaves, unless it throws.  `bSystemId` is the
system identifier of the receiver's own database. -/
def finalizeReceiverGeneration (E : Ed25519) (D : Sha256Bytes) (bSystemId : JsString) (db : ReceiverTables)
    (streamId generationId : JsString) (opts : ReceiverFinalizeOptions E) :
    Except FenceError (BFinalizedReceipt × ReceiverTables) := do
  let s ← vId streamId (matchesStreamId 512) "streamId"
  let gid ← vId generationId matchesId "generationId"
  let bKeyId ← vId opts.bKeyId matchesKeyId "bKeyId"
  let (bundle, manifest) ← rebuildStagedBundle db s gid
  let manifestStream ← vId manifest.streamId (matchesStreamId 512) "streamId"
  require (manifestStream = s) (.staging "streamId")
  let replay ← verifiedExportSnapshot E D bundle manifest opts.toReceiverVerifyOptions
  require (bSystemId ≠ manifest.sourceSystemId) .notDistinct
  match db.pointer s with
  | some ptr =>
    require (ptr.activeGenerationId = gid) .otherGeneration
    let stored := ptr.bFinalizedReceipt
    verifyBFinalizedReceipt E D opts.bVerifyResolver stored
    require (stored.manifestDigest = manifest.canonicalDigest ∧
      stored.manifestRoot = manifest.manifestRoot) (.staging "stored receipt")
    return (stored, db)
  | none =>
    let receipt ← signBFinalizedReceipt E D bKeyId opts.bPrivateKey
      (bareFinalized s gid bSystemId manifest replay)
    verifyBFinalizedReceipt E D opts.bVerifyResolver receipt
    let db ← installGeneration db s gid bSystemId manifest replay receipt
    return (receipt, db)

/-- A transaction of an operator; one that throws is rolled back, and a retry is another one. -/
inductive StagingLabel (E : Ed25519)
  | stage (generationId : JsString) (bundle : SourceExportBundle) (manifest : GuardCountersignedExport)
      (opts : ReceiverVerifyOptions E)
  | finalize (streamId generationId : JsString) (opts : ReceiverFinalizeOptions E)
  /-- The process is lost before its transaction commits. -/
  | crash

def ReceiverTables.step {E : Ed25519} (D : Sha256Bytes) (bSystemId : JsString) (db : ReceiverTables) :
    StagingLabel E → Option ReceiverTables
  | .stage generationId bundle manifest opts => some <|
    match stageReceiverExport E D db generationId bundle manifest opts with
    | .ok db' => db'
    | .error _ => db
  | .finalize streamId generationId opts => some <|
    match finalizeReceiverGeneration E D bSystemId db streamId generationId opts with
    | .ok (_, db') => db'
    | .error _ => db
  | .crash => some db

/-- The transactions of any operators, one after another. -/
def stagingMachine (E : Ed25519) (D : Sha256Bytes) (bSystemId : JsString) :
    Machine ReceiverTables (StagingLabel E) where
  step := ReceiverTables.step D bSystemId

end TskProtocol
