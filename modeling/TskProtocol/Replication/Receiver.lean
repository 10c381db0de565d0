import TskProtocol.Replication.Envelope
import TskProtocol.Server.Store

namespace TskProtocol

def MAX_CLIENT_ID_LEN : Nat := 128
def MAX_SEGMENT_ID_LEN : Nat := 128
def MAX_SEGMENTS : Nat := 32
def MAX_SEALED_SECRET_CHARS : Nat := 8192
def MAX_ENVELOPE_BYTES : Nat := 256 * 1024

inductive ReceiverError
  | invalidBody | envelopeTooLarge | invalidStream | invalidEpoch | invalidSequence | invalidSentAt
  | invalidPreviousHash | invalidHeadHash | invalidSignature
  | invalidMutation | unknownOp | invalidSetClientId | invalidSetMap | invalidDelete
  | invalidUpdateClientId | invalidUpdateEntries | invalidConsume
  | signatureInvalid | envelopeStale | streamOrEpochMismatch | envelopeReplay | sequenceGap
  | hashChainMismatch | operationHashMismatch | unsealedSecretInvalid | secretUnsealFailed
  | lifecycleRollback | usageRollback | counterRollback | clientNotFound | counterReplayOrGap
  | store (e : StoreError)
  deriving DecidableEq, Repr

def isValidId (value : JsString) (max : Nat) : Bool := 0 < value.length && value.length ≤ max

def isSafeNonNegativeInteger (value : Int) : Bool := isSafeInteger value && 0 ≤ value

/-- What the segment loop of `validateMap` keeps track of. -/
structure MapScan where
  ids : List JsString
  cursor : Nat
  hasHotp : Bool
  hasExhaustedHotp : Bool
  deriving DecidableEq, Repr

def MapScan.visit (scan : MapScan) (keyLength : Nat) (seg : SegmentConfig) : Option MapScan :=
  let (start, stop) := seg.position
  if isValidId seg.segmentId MAX_SEGMENT_ID_LEN = false ∨ seg.segmentId ∈ scan.ids then none
  else if isSafeInteger start = false ∨ isSafeInteger stop = false ∨ start ≠ scan.cursor ∨
      stop ≤ start ∨ keyLength < stop then none
  else if seg.type = .hotp ∧ isValidHOTPStoredCounter seg.storedCounter = false then none
  else if seg.type = .totp ∧ seg.windowSec.any (fun w => isSafeInteger w && 1 ≤ w) = false then none
  else some {
    ids := seg.segmentId :: scan.ids
    cursor := stop
    hasHotp := scan.hasHotp || seg.type = .hotp
    hasExhaustedHotp := scan.hasExhaustedHotp ||
      (seg.type = .hotp && seg.storedCounter = TSK_MAX_HOTP_COUNTER) }

def MapScan.visitAll (keyLength : Nat) : MapScan → List SegmentConfig → Option MapScan
  | scan, [] => some scan
  | scan, seg :: rest => (scan.visit keyLength seg).bind (visitAll keyLength · rest)

/-- Without `secretSealed` no signing material is accepted. -/
def validSecretField (sharedSecret : JsString) (secretSealed : Bool) : Bool :=
  if secretSealed then 1 ≤ sharedSecret.length && sharedSecret.length ≤ MAX_SEALED_SECRET_CHARS
  else sharedSecret = []

def validateMap (map : TumblerMap) (clientId : JsString) (secretSealed : Bool) : Bool :=
  map.clientId = clientId && map.version = JsString.lit "1" &&
  isSafeInteger map.keyLength && 20 ≤ map.keyLength && map.keyLength ≤ 512 &&
  isSafeNonNegativeInteger map.createdAt &&
  2 ≤ map.segments.length && map.segments.length ≤ MAX_SEGMENTS &&
  validSecretField map.sharedSecret secretSealed &&
  match MapScan.visitAll map.keyLength ⟨[], 0, false, false⟩ map.segments with
  | none => false
  | some scan =>
    isSafeInteger map.checksum.1 && isSafeInteger map.checksum.2 &&
    map.checksum.1 = scan.cursor && map.checksum.2 = map.keyLength && scan.hasHotp &&
    map.requestCount.all (isSafeNonNegativeInteger ·) &&
    map.maxRequests.all (fun n => isSafeInteger n && 1 ≤ n) &&
    map.hotpRotationWarningCounters.all
      (fun n => isSafeInteger n && 1 ≤ n && n ≤ TSK_MAX_HOTP_COUNTER) &&
    map.expiresAt.all isSafeNonNegativeInteger &&
    (!scan.hasExhaustedHotp || isTerminal map.status)

def validateMutation : TumblerReplicaMutation → Except ReceiverError Unit
  | .set clientId map secretSealed =>
    if isValidId clientId MAX_CLIENT_ID_LEN = false then throw .invalidSetClientId
    else if validateMap map clientId secretSealed = false then throw .invalidSetMap
    else pure ()
  | .delete clientId =>
    if isValidId clientId MAX_CLIENT_ID_LEN = false then throw .invalidDelete else pure ()
  | .updateCounters clientId updates =>
    if isValidId clientId MAX_CLIENT_ID_LEN = false then throw .invalidUpdateClientId
    else if MAX_SEGMENTS < updates.length ∨ updates.all (fun u =>
        isValidId u.1 MAX_SEGMENT_ID_LEN && isValidHOTPStoredCounter u.2) = false then
      throw .invalidUpdateEntries
    else pure ()
  | .consumeCounter clientId segmentId matchedCounter =>
    if isValidId clientId MAX_CLIENT_ID_LEN = false ∨ isValidId segmentId MAX_SEGMENT_ID_LEN = false ∨
        isValidHOTPStoredCounter matchedCounter = false ∨ TSK_MAX_HOTP_COUNTER ≤ matchedCounter then
      throw .invalidConsume
    else pure ()

/-- `/^[a-f0-9]{64}$/`, for hashes and for an unsealed secret. -/
def matchesHashPattern (s : JsString) : Bool :=
  s.length = 64 && s.all isLowerHexDigit

def matchesReplicaSignaturePattern (signature : JsString) : Bool :=
  signature.length = 43 && signature.all isBase64Url

/-- The checks of `validateTumblerOp` that the wire types leave open. -/
def validateTumblerOp (op : TumblerReplicaOp) : Except ReceiverError Unit :=
  if MAX_ENVELOPE_BYTES < (Json.ofEnvelope op).stringify.utf8.length then throw .envelopeTooLarge
  else if isValidId op.checkpoint.streamId 128 = false then throw .invalidStream
  else if isSafeInteger op.checkpoint.epoch = false ∨ op.checkpoint.epoch < 1 then
    throw .invalidEpoch
  else if isSafeInteger op.checkpoint.sequence = false ∨ op.checkpoint.sequence < 1 then
    throw .invalidSequence
  else if isSafeInteger op.sentAt = false ∨ op.sentAt < 0 then throw .invalidSentAt
  else if matchesHashPattern op.previousHash = false then throw .invalidPreviousHash
  else if matchesHashPattern op.checkpoint.headHash = false then throw .invalidHeadHash
  else if matchesReplicaSignaturePattern op.signature = false then throw .invalidSignature
  else validateMutation op.mutation

/-- The loop over the HOTP segments of the stored map. -/
def checkCounterRollback (next : List SegmentConfig) : List SegmentConfig → Except ReceiverError Unit
  | [] => pure ()
  | seg :: rest =>
    if seg.type ≠ .hotp then checkCounterRollback next rest
    else match lastSegment next seg.segmentId with
      | none => throw .counterRollback
      | some nextSeg =>
        if nextSeg.type ≠ .hotp ∨ nextSeg.storedCounter < seg.storedCounter then
          throw .counterRollback
        else checkCounterRollback next rest

def checkRollback (current next : TumblerMap) : Except ReceiverError Unit :=
  if isTerminal current.status ∧ isTerminal next.status = false then throw .lifecycleRollback
  else if next.currentCount < current.currentCount then throw .usageRollback
  else checkCounterRollback next.segments current.segments

def checkUpdateRollback (segments : List SegmentConfig) :
    List (JsString × Int) → Except ReceiverError Unit
  | [] => pure ()
  | (segmentId, nextCounter) :: rest =>
    match lastSegment segments segmentId with
    | none => throw .counterRollback
    | some seg =>
      if seg.type ≠ .hotp ∨ nextCounter < seg.storedCounter then throw .counterRollback
      else checkUpdateRollback segments rest

/-- `applyTumblerOp` between two stretches: the stored map has been read, or the store has
answered. -/
inductive ApplyStage
  | setting (clientId : JsString) (map : TumblerMap) (current : Option TumblerMap)
  | updating (clientId : JsString) (updates : List (JsString × Int)) (current : Option TumblerMap)
  | answered (result : Except ReceiverError Unit)
  deriving DecidableEq, Repr

/-- `applyTumblerOp` up to its first await. -/
def beginApply (store : MemoryTumblerStore) (now : Int) :
    TumblerReplicaMutation → ApplyStage × MemoryTumblerStore
  | .set clientId map _ =>
    let (current, store) := store.get clientId now
    (.setting clientId map current, store)
  | .delete clientId => (.answered (.ok ()), store.delete clientId)
  | .updateCounters clientId updates =>
    let (current, store) := store.get clientId now
    (.updating clientId updates current, store)
  | .consumeCounter clientId segmentId matchedCounter =>
    match store.consumeCounter clientId segmentId matchedCounter with
    | (.ok true, store) => (.answered (.ok ()), store)
    | (.ok false, store) => (.answered (.error .counterReplayOrGap), store)
    | (.error e, store) => (.answered (.error (.store e)), store)

/-- The checks against the map that was read, then the store. -/
def answerApply (store : MemoryTumblerStore) :
    ApplyStage → Except ReceiverError Unit × MemoryTumblerStore
  | .setting clientId map current =>
    match current.elim (.ok ()) (fun current => checkRollback current map) with
    | .error e => (.error e, store)
    | .ok () =>
      let (outcome, store) := store.set clientId map
      (outcome.mapError .store, store)
  | .updating clientId updates current =>
    match current with
    | none => (.error .clientNotFound, store)
    | some current =>
      match checkUpdateRollback current.segments updates with
      | .error e => (.error e, store)
      | .ok () =>
        let (outcome, store) := store.updateCounters clientId (.ofEntries updates)
        (outcome.mapError .store, store)
  | .answered result => (result, store)

def applyTumblerOp (store : MemoryTumblerStore) (now : Int) (mutation : TumblerReplicaMutation) :
    Except ReceiverError Unit × MemoryTumblerStore :=
  let (stage, store) := beginApply store now mutation
  answerApply store stage

/-- What a receiver is constructed with. -/
structure ReceiverConfig where
  token : ReplicaToken
  streamId : JsString
  epoch : Int
  maxClockSkewMs : Int := 60000
  /-- Whether a `secretUnsealer` is configured. -/
  unseals : Bool
  streamId_valid : isValidId streamId 128 = true
  epoch_valid : isSafeInteger epoch = true ∧ 1 ≤ epoch

structure TumblerReplicaReceiver extends ReceiverConfig where
  store : MemoryTumblerStore
  checkpoint : ReplicationCheckpoint
  integrityLost : Bool := false
  validationReady : Bool := true

structure IngestRefusal where
  status : Nat
  error : ReceiverError
  deriving DecidableEq, Repr

/-- An admitted ingest: waiting for the unsealer, or inside `applyTumblerOp`. -/
inductive IngestStage
  | unsealing (clientId : JsString) (map : TumblerMap)
  | applying (stage : ApplyStage)
  deriving DecidableEq, Repr

namespace TumblerReplicaReceiver

def refuse (receiver : TumblerReplicaReceiver) (status : Nat) (error : ReceiverError) :
    Except IngestRefusal Unit × TumblerReplicaReceiver :=
  (.error ⟨status, error⟩, receiver)

/-- Refuse and stop vouching for the stream. -/
def halt {α : Type} (receiver : TumblerReplicaReceiver) (error : ReceiverError) :
    Except IngestRefusal α × TumblerReplicaReceiver :=
  (.error ⟨409, error⟩, { receiver with integrityLost := true })

/-- The checks of `ingest`, all made before its first await. -/
def checkEnvelope (H : HmacSha256) (D : Sha256) (receiver : TumblerReplicaReceiver) (now : Int)
    (op : TumblerReplicaOp) : Except IngestRefusal Unit × TumblerReplicaReceiver :=
  match validateTumblerOp op with
  | .error e => receiver.refuse 400 e
  | .ok () =>
    if verifyReplicaEnvelopeSignature H op receiver.token = false then
      receiver.refuse 401 .signatureInvalid
    else if receiver.maxClockSkewMs < (now - op.sentAt).natAbs then receiver.refuse 401 .envelopeStale
    else if op.checkpoint.streamId ≠ receiver.streamId ∨ op.checkpoint.epoch ≠ receiver.epoch then
      receiver.refuse 409 .streamOrEpochMismatch
    else if op.checkpoint.sequence < receiver.checkpoint.sequence + 1 then
      receiver.refuse 409 .envelopeReplay
    else if receiver.checkpoint.sequence + 1 < op.checkpoint.sequence then
      receiver.halt .sequenceGap
    else if op.previousHash ≠ receiver.checkpoint.headHash then receiver.halt .hashChainMismatch
    else if op.checkpoint.headHash ≠ computeReplicationHash D op.checkpoint.streamId
        op.checkpoint.epoch op.checkpoint.sequence op.previousHash op.mutation then
      receiver.halt .operationHashMismatch
    else (.ok (), receiver)

def startApply (receiver : TumblerReplicaReceiver) (now : Int) (mutation : TumblerReplicaMutation) :
    ApplyStage × TumblerReplicaReceiver :=
  let (stage, store) := beginApply receiver.store now mutation
  (stage, { receiver with store := store })

/-- An admitted mutation up to the next await. -/
def enter (receiver : TumblerReplicaReceiver) (now : Int) (mutation : TumblerReplicaMutation) :
    IngestStage × TumblerReplicaReceiver :=
  match mutation with
  | .set clientId map secretSealed =>
    if secretSealed && receiver.unseals then (.unsealing clientId map, receiver)
    else
      -- Such a replica can observe, but not authenticate clients.
      let (stage, receiver) := startApply { receiver with validationReady := false } now mutation
      (.applying stage, receiver)
  | _ =>
    let (stage, receiver) := receiver.startApply now mutation
    (.applying stage, receiver)

/-- `ingest` up to its first await. -/
def beginIngest (H : HmacSha256) (D : Sha256) (receiver : TumblerReplicaReceiver) (now : Int)
    (op : TumblerReplicaOp) : Except IngestRefusal IngestStage × TumblerReplicaReceiver :=
  match receiver.checkEnvelope H D now op with
  | (.error refusal, receiver) => (.error refusal, receiver)
  | (.ok (), receiver) =>
    let (stage, receiver) := receiver.enter now op.mutation
    (.ok stage, receiver)

/-- After the unsealer has answered; `none` when it threw. -/
def unsealed (receiver : TumblerReplicaReceiver) (now : Int) (clientId : JsString)
    (map : TumblerMap) (rawSecret : Option JsString) :
    Except IngestRefusal ApplyStage × TumblerReplicaReceiver :=
  match rawSecret with
  | none => receiver.halt .secretUnsealFailed
  | some rawSecret =>
    if matchesHashPattern rawSecret = false then receiver.halt .unsealedSecretInvalid
    else
      let (stage, receiver) :=
        receiver.startApply now (.set clientId { map with sharedSecret := rawSecret } false)
      (.ok stage, receiver)

def answer (receiver : TumblerReplicaReceiver) (stage : ApplyStage) :
    Except ReceiverError Unit × TumblerReplicaReceiver :=
  let (result, store) := answerApply receiver.store stage
  (result, { receiver with store := store })

/-- The end of `ingest`: only here does the checkpoint move. -/
def conclude (receiver : TumblerReplicaReceiver) (op : TumblerReplicaOp)
    (result : Except ReceiverError Unit) : Except IngestRefusal Unit × TumblerReplicaReceiver :=
  match result with
  | .error e => receiver.halt e
  | .ok () => (.ok (), { receiver with checkpoint := op.checkpoint })

def concludeApply (receiver : TumblerReplicaReceiver) (op : TumblerReplicaOp) (stage : ApplyStage) :
    Except IngestRefusal Unit × TumblerReplicaReceiver :=
  let (result, receiver) := receiver.answer stage
  receiver.conclude op result

def finishIngest (receiver : TumblerReplicaReceiver) (now : Int)
    (secretUnsealer : JsString → JsString → Option JsString) (op : TumblerReplicaOp) :
    IngestStage → Except IngestRefusal Unit × TumblerReplicaReceiver
  | .unsealing clientId map =>
    match receiver.unsealed now clientId map (secretUnsealer clientId map.sharedSecret) with
    | (.error refusal, receiver) => (.error refusal, receiver)
    | (.ok stage, receiver) => receiver.concludeApply op stage
  | .applying stage => receiver.concludeApply op stage

/-- One `ingest` with nothing in between. -/
def ingest (H : HmacSha256) (D : Sha256) (secretUnsealer : JsString → JsString → Option JsString)
    (receiver : TumblerReplicaReceiver) (now : Int) (op : TumblerReplicaOp) :
    Except IngestRefusal Unit × TumblerReplicaReceiver :=
  match receiver.beginIngest H D now op with
  | (.error refusal, receiver) => (.error refusal, receiver)
  | (.ok stage, receiver) => receiver.finishIngest now secretUnsealer op stage

end TumblerReplicaReceiver

end TskProtocol
