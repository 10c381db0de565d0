import TskProtocol.Replication.Receiver
import TskProtocol.Replication.WireForm

namespace TskProtocol

/-- A record of plain data, whatever its members are. -/
structure PlainRecord where
  members : List (JsString × PlainValue)
  distinct : (PlainValue.obj members).Distinct

/-- A mutation in memory, as `enqueueMutation` is given it. -/
inductive PlainMutation
  | set (clientId : JsString) (map : PlainRecord) (secretSealed : Bool)
  | delete (clientId : JsString)
  | updateCounters (clientId : JsString) (updates : List (JsString × PlainNumber))
  | consumeCounter (clientId segmentId : JsString) (matchedCounter : PlainNumber)

def PlainMutation.value : PlainMutation → PlainValue
  | .set clientId map secretSealed => .obj [(JsString.lit "op", .str (JsString.lit "set")),
      (JsString.lit "clientId", .str clientId), (JsString.lit "map", .obj map.members),
      (JsString.lit "secretSealed", .bool secretSealed)]
  | .delete clientId => .obj [(JsString.lit "op", .str (JsString.lit "delete")),
      (JsString.lit "clientId", .str clientId)]
  | .updateCounters clientId updates => .obj [
      (JsString.lit "op", .str (JsString.lit "updateCounters")),
      (JsString.lit "clientId", .str clientId),
      (JsString.lit "updates", .arr (updates.map fun u => .arr [.str u.1, .num u.2]))]
  | .consumeCounter clientId segmentId matchedCounter => .obj [
      (JsString.lit "op", .str (JsString.lit "consumeCounter")),
      (JsString.lit "clientId", .str clientId), (JsString.lit "segmentId", .str segmentId),
      (JsString.lit "matchedCounter", .num matchedCounter)]

structure PlainReplicaOp where
  checkpoint : ReplicationCheckpoint
  previousHash : JsString
  mutation : PlainMutation

/-- What `computeReplicationHash` is given. -/
def hashInput (streamId : JsString) (epoch sequence : Int) (previousHash : JsString)
    (mutation : PlainValue) : PlainValue := .obj [
  (JsString.lit "streamId", .str streamId), (JsString.lit "epoch", .num (.int epoch)),
  (JsString.lit "sequence", .num (.int sequence)), (JsString.lit "previousHash", .str previousHash),
  (JsString.lit "mutation", mutation)]

/-- `computeReplicationHash`; an object always has a canonical form. -/
def replicationHashOf (D : Sha256) (input : PlainValue) : JsString := D.hex (input.canonical.getD [])

/-- `enqueueMutation` of a source at `checkpoint`. -/
def ReplicationCheckpoint.enqueue (D : Sha256) (checkpoint : ReplicationCheckpoint)
    (mutation : PlainMutation) : PlainReplicaOp where
  checkpoint := { checkpoint with
    sequence := checkpoint.sequence + 1
    headHash := replicationHashOf D (hashInput checkpoint.streamId checkpoint.epoch
      (checkpoint.sequence + 1) checkpoint.headHash mutation.value) }
  previousHash := checkpoint.headHash
  mutation := mutation

/-- The envelope in memory before it is signed; the clock may read anything. -/
def PlainReplicaOp.unsigned (op : PlainReplicaOp) (sentAt : PlainNumber) :
    List (JsString × PlainValue) := [
  (JsString.lit "streamId", .str op.checkpoint.streamId),
  (JsString.lit "epoch", .num (.int op.checkpoint.epoch)),
  (JsString.lit "sequence", .num (.int op.checkpoint.sequence)),
  (JsString.lit "headHash", .str op.checkpoint.headHash),
  (JsString.lit "previousHash", .str op.previousHash), (JsString.lit "sentAt", .num sentAt),
  (JsString.lit "mutation", op.mutation.value)]

def PlainReplicaOp.signature (H : HmacSha256) (token : ReplicaToken) (op : PlainReplicaOp)
    (sentAt : PlainNumber) : JsString :=
  H.digest token.secret.utf8 ((PlainValue.obj (op.unsigned sentAt)).canonical.getD [])

/-- The envelope that `push` signs. -/
def PlainReplicaOp.envelope (H : HmacSha256) (token : ReplicaToken) (op : PlainReplicaOp)
    (sentAt : PlainNumber) : PlainValue :=
  .obj (op.unsigned sentAt ++ [(JsString.lit "signature", .str (op.signature H token sentAt))])

/-- The body of the request, as the receiver parses it. -/
def PlainReplicaOp.body (H : HmacSha256) (token : ReplicaToken) (op : PlainReplicaOp)
    (sentAt : PlainNumber) : Option Json :=
  (op.envelope H token sentAt).stringify.bind Json.parse

namespace Json

/-- `typeof value === 'object'`, for a value that is truthy. -/
def typeofObject : Json → Bool
  | .arr _ => true
  | .obj _ => true
  | _ => false

/-- The elements of an array of two. -/
def asPair : Json → Option (Json × Json)
  | .arr [a, b] => some (a, b)
  | _ => none

def asItems : Json → Option (List Json)
  | .arr items => some items
  | _ => none

/-- `value.key ?? 0`, unless it is something else than a number. -/
def numberOrZero (value : Json) (key : String) : Option Int :=
  match value.field key with
  | none => some 0
  | some .null => some 0
  | some (.num n) => some n
  | some _ => none

/-- `value[key] === undefined`, or a number that passes. -/
def numberIfPresent (value : Json) (key : String) (passes : Int → Bool) : Bool :=
  (value.field key).all (fun v => v.asNum.any passes)

/-- `{ ...value, [key]: member }` -/
def withMember (value : Json) (key : String) (member : Json) : Json :=
  match value with
  | .obj members => .obj (setMember (JsString.lit key) member members)
  | value => value

def position? (value : Json) : Option (Int × Int) := do
  let (start, stop) ← (value.field "position").bind asPair
  return (← start.asNum, ← stop.asNum)

def segmentType? (value : Json) : Option SegmentType := do
  let type ← value.strField "type"
  if type = JsString.lit "static" then some .static
  else if type = JsString.lit "totp" then some .totp
  else if type = JsString.lit "hotp" then some .hotp
  else none

end Json

/-- The loop body of `validateMap`. -/
def MapScan.visitBody (scan : MapScan) (keyLength : Int) (segment : Json) : Option MapScan := do
  let segmentId ← segment.strField "segmentId"
  let (start, stop) ← segment.position?
  let type ← segment.segmentType?
  if isValidId segmentId MAX_SEGMENT_ID_LEN = false ∨ segmentId ∈ scan.ids then none
  else if isSafeInteger start = false ∨ isSafeInteger stop = false ∨ start ≠ scan.cursor ∨
      stop ≤ start ∨ keyLength < stop then none
  else if type = .hotp ∧ (segment.numberOrZero "counter").any isValidHOTPStoredCounter = false then none
  else if type = .totp ∧ (segment.numField "windowSec").any (fun w => isSafeInteger w && 1 ≤ w) = false then
    none
  else some {
    ids := segmentId :: scan.ids
    cursor := stop.toNat
    hasHotp := scan.hasHotp || type = .hotp
    hasExhaustedHotp := scan.hasExhaustedHotp ||
      (type = .hotp && segment.numberOrZero "counter" = some TSK_MAX_HOTP_COUNTER) }

def MapScan.visitBodies (keyLength : Int) : MapScan → List Json → Option MapScan
  | scan, [] => some scan
  | scan, segment :: rest => (scan.visitBody keyLength segment).bind (visitBodies keyLength · rest)

def validStatus (map : Json) : Bool :=
  (map.field "status").all fun v => v.asStr.any fun status => status ∈
    [JsString.lit "active", JsString.lit "expiring", JsString.lit "revoked", JsString.lit "expired"]

def terminalStatus (map : Json) : Bool :=
  map.strField "status" = some (JsString.lit "expired") ||
    map.strField "status" = some (JsString.lit "revoked")

/-- `validateMap` of a value from outside. -/
def validateMapBody (map : Json) (clientId : JsString) (secretSealed : Bool) : Bool :=
  let keyLength := map.numField "keyLength"
  let segments := (map.field "segments").bind Json.asItems
  let checksum := (map.field "checksum").bind Json.position?
  map.typeofObject && map.strField "clientId" = some clientId &&
  map.strField "version" = some (JsString.lit "1") &&
  keyLength.any (fun n => isSafeInteger n && 20 ≤ n && n ≤ 512) &&
  (map.numField "createdAt").any isSafeNonNegativeInteger &&
  segments.any (fun items => 2 ≤ items.length && items.length ≤ MAX_SEGMENTS) && checksum.isSome &&
  (map.strField "sharedSecret").any (validSecretField · secretSealed) &&
  match MapScan.visitBodies (keyLength.getD 0) ⟨[], 0, false, false⟩ (segments.getD []) with
  | none => false
  | some scan =>
    checksum.any (fun position : Int × Int =>
      isSafeInteger position.1 && isSafeInteger position.2 &&
      position.1 = scan.cursor && some position.2 = keyLength) && scan.hasHotp &&
    map.numberIfPresent "requestCount" isSafeNonNegativeInteger &&
    map.numberIfPresent "maxRequests" (fun n => isSafeInteger n && 1 ≤ n) &&
    map.numberIfPresent "hotpRotationWarningCounters"
      (fun n => isSafeInteger n && 1 ≤ n && n ≤ TSK_MAX_HOTP_COUNTER) &&
    map.numberIfPresent "expiresAt" isSafeNonNegativeInteger && validStatus map &&
    (!scan.hasExhaustedHotp || terminalStatus map)

def validUpdateEntry (entry : Json) : Bool :=
  entry.asPair.any fun (segmentId, counter) =>
    segmentId.asStr.any (isValidId · MAX_SEGMENT_ID_LEN) && counter.asNum.any isValidHOTPStoredCounter

/-- `validateMutation` of a value from outside: the mutation is put together anew. -/
def validateMutationBody (value : Option Json) : Except ReceiverError Json := do
  let value ← orThrow (value.filter Json.typeofObject) .invalidMutation
  let op := value.strField "op"
  if op = some (JsString.lit "set") then
    let clientId ← orThrow ((value.strField "clientId").filter (isValidId · MAX_CLIENT_ID_LEN))
      .invalidSetClientId
    match value.field "map", value.field "secretSealed" with
    | some map, some (.bool secretSealed) =>
      require (validateMapBody map clientId secretSealed) .invalidSetMap
      return .obj [(JsString.lit "op", .str (JsString.lit "set")),
        (JsString.lit "clientId", .str clientId), (JsString.lit "map", map),
        (JsString.lit "secretSealed", .bool secretSealed)]
    | _, _ => throw .invalidSetMap
  else if op = some (JsString.lit "delete") then
    let clientId ← orThrow ((value.strField "clientId").filter (isValidId · MAX_CLIENT_ID_LEN))
      .invalidDelete
    return .obj [(JsString.lit "op", .str (JsString.lit "delete")),
      (JsString.lit "clientId", .str clientId)]
  else if op = some (JsString.lit "updateCounters") then
    let clientId ← orThrow ((value.strField "clientId").filter (isValidId · MAX_CLIENT_ID_LEN))
      .invalidUpdateClientId
    let updates ← orThrow (((value.field "updates").bind Json.asItems).filter fun updates =>
      updates.length ≤ MAX_SEGMENTS && updates.all validUpdateEntry) .invalidUpdateEntries
    return .obj [(JsString.lit "op", .str (JsString.lit "updateCounters")),
      (JsString.lit "clientId", .str clientId), (JsString.lit "updates", .arr updates)]
  else if op = some (JsString.lit "consumeCounter") then
    let clientId ← orThrow ((value.strField "clientId").filter (isValidId · MAX_CLIENT_ID_LEN))
      .invalidConsume
    let segmentId ← orThrow ((value.strField "segmentId").filter (isValidId · MAX_SEGMENT_ID_LEN))
      .invalidConsume
    let matchedCounter ← orThrow ((value.numField "matchedCounter").filter fun n =>
      isValidHOTPStoredCounter n && n < TSK_MAX_HOTP_COUNTER) .invalidConsume
    return .obj [(JsString.lit "op", .str (JsString.lit "consumeCounter")),
      (JsString.lit "clientId", .str clientId), (JsString.lit "segmentId", .str segmentId),
      (JsString.lit "matchedCounter", .num matchedCounter)]
  else throw .unknownOp

/-- `validateTumblerOp` of a request body. -/
def validateBody (body : Json) : Except ReceiverError Json := do
  require (body.stringify.utf8.length ≤ MAX_ENVELOPE_BYTES) .envelopeTooLarge
  require (body.typeofObject) .invalidBody
  require ((body.strField "streamId").any (isValidId · 128)) .invalidStream
  require ((body.numField "epoch").any fun n => isSafeInteger n && 1 ≤ n) .invalidEpoch
  require ((body.numField "sequence").any fun n => isSafeInteger n && 1 ≤ n) .invalidSequence
  require ((body.numField "sentAt").any isSafeNonNegativeInteger) .invalidSentAt
  require ((body.strField "previousHash").any matchesHashPattern) .invalidPreviousHash
  require ((body.strField "headHash").any matchesHashPattern) .invalidHeadHash
  require ((body.strField "signature").any matchesReplicaSignaturePattern) .invalidSignature
  let mutation ← validateMutationBody (body.field "mutation")
  return body.withMember "mutation" mutation

/-- `verifyReplicaEnvelopeSignature` of an operation that has been validated. -/
def verifyBodySignature (H : HmacSha256) (op : Json) (token : ReplicaToken) : Bool :=
  op.strField "signature" = some (H.digest token.secret.utf8 (op.without "signature").canonical)

/-- `computeReplicationHash` of the members of an operation. -/
def bodyHash (D : Sha256) (op : Json) : JsString :=
  D.hex (Json.obj (["streamId", "epoch", "sequence", "previousHash", "mutation"].filterMap fun key =>
    (op.field key).map fun member => (JsString.lit key, member))).canonical

namespace TumblerReplicaReceiver

/-- The checks of `ingest` on a request body.  The members that are read have been validated, so that
their defaults are never taken. -/
def checkBody (H : HmacSha256) (D : Sha256) (receiver : TumblerReplicaReceiver) (now : Int)
    (body : Json) : Except IngestRefusal Json × TumblerReplicaReceiver :=
  match validateBody body with
  | .error e => (.error ⟨400, e⟩, receiver)
  | .ok op =>
    let sequence := (op.numField "sequence").getD 0
    if verifyBodySignature H op receiver.token = false then
      (.error ⟨401, .signatureInvalid⟩, receiver)
    else if receiver.maxClockSkewMs < (now - (op.numField "sentAt").getD 0).natAbs then
      (.error ⟨401, .envelopeStale⟩, receiver)
    else if op.strField "streamId" ≠ some receiver.streamId ∨
        op.numField "epoch" ≠ some receiver.epoch then
      (.error ⟨409, .streamOrEpochMismatch⟩, receiver)
    else if sequence < receiver.checkpoint.sequence + 1 then
      (.error ⟨409, .envelopeReplay⟩, receiver)
    else if receiver.checkpoint.sequence + 1 < sequence then receiver.halt .sequenceGap
    else if op.strField "previousHash" ≠ some receiver.checkpoint.headHash then
      receiver.halt .hashChainMismatch
    else if op.strField "headHash" ≠ some (bodyHash D op) then receiver.halt .operationHashMismatch
    else (.ok op, receiver)

end TumblerReplicaReceiver

end TskProtocol
