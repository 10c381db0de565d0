import TskProtocol.Json
import TskProtocol.Lib.OrderedMap
import TskProtocol.Core.Crypto
import TskProtocol.Core.Types

namespace TskProtocol

def REPLICATION_GENESIS_HASH : JsString := List.replicate 64 48

def MIN_REPLICATION_TOKEN_BYTES : Nat := 32

structure ReplicationCheckpoint where
  streamId : JsString
  epoch : Int
  sequence : Int
  headHash : JsString
  deriving DecidableEq, Repr

/-- The wire vocabulary. -/
inductive TumblerReplicaMutation
  | set (clientId : JsString) (map : TumblerMap) (secretSealed : Bool)
  | delete (clientId : JsString)
  | updateCounters (clientId : JsString) (updates : List (JsString × Int))
  | consumeCounter (clientId segmentId : JsString) (matchedCounter : Int)
  deriving DecidableEq, Repr

structure PendingReplicaOp where
  checkpoint : ReplicationCheckpoint
  previousHash : JsString
  mutation : TumblerReplicaMutation
  deriving DecidableEq, Repr

structure TumblerReplicaOp extends PendingReplicaOp where
  sentAt : Int
  signature : JsString
  deriving DecidableEq, Repr

namespace Json

def ofSegmentType : SegmentType → Json
  | .static => .str (JsString.lit "static")
  | .totp => .str (JsString.lit "totp")
  | .hotp => .str (JsString.lit "hotp")

def ofKeyStatus : KeyStatus → Json
  | .active => .str (JsString.lit "active")
  | .expiring => .str (JsString.lit "expiring")
  | .revoked => .str (JsString.lit "revoked")
  | .expired => .str (JsString.lit "expired")

def ofPosition (position : Nat × Nat) : Json := .arr [.num position.1, .num position.2]

def ofSegment (seg : SegmentConfig) : Json := .obj (
  [(JsString.lit "segmentId", .str seg.segmentId),
    (JsString.lit "position", ofPosition seg.position),
    (JsString.lit "type", ofSegmentType seg.type)] ++
  optional "windowSec" (seg.windowSec.map (fun n => .num n)) ++
  optional "counter" (seg.counter.map .num))

def ofMap (map : TumblerMap) : Json := .obj (
  [(JsString.lit "clientId", .str map.clientId),
    (JsString.lit "sharedSecret", .str map.sharedSecret),
    (JsString.lit "keyLength", .num map.keyLength),
    (JsString.lit "segments", .arr (map.segments.map ofSegment)),
    (JsString.lit "checksum", .obj [(JsString.lit "position", ofPosition map.checksum)]),
    (JsString.lit "createdAt", .num map.createdAt),
    (JsString.lit "version", .str map.version)] ++
  optional "label" (map.label.map .str) ++
  optional "expiresAt" (map.expiresAt.map .num) ++
  optional "maxRequests" (map.maxRequests.map .num) ++
  optional "rotationWarningRequests" (map.rotationWarningRequests.map .num) ++
  optional "hotpRotationWarningCounters" (map.hotpRotationWarningCounters.map .num) ++
  optional "requestCount" (map.requestCount.map (fun n => .num n)) ++
  optional "lastUsedAt" (map.lastUsedAt.map (fun t => t.elim .null .num)) ++
  optional "status" (map.status.map ofKeyStatus))

def ofMutation : TumblerReplicaMutation → Json
  | .set clientId map secretSealed => .obj [(JsString.lit "op", .str (JsString.lit "set")),
      (JsString.lit "clientId", .str clientId), (JsString.lit "map", ofMap map),
      (JsString.lit "secretSealed", .bool secretSealed)]
  | .delete clientId => .obj [(JsString.lit "op", .str (JsString.lit "delete")),
      (JsString.lit "clientId", .str clientId)]
  | .updateCounters clientId updates => .obj [
      (JsString.lit "op", .str (JsString.lit "updateCounters")),
      (JsString.lit "clientId", .str clientId),
      (JsString.lit "updates", .arr (updates.map (fun u => .arr [.str u.1, .num u.2])))]
  | .consumeCounter clientId segmentId matchedCounter => .obj [
      (JsString.lit "op", .str (JsString.lit "consumeCounter")),
      (JsString.lit "clientId", .str clientId), (JsString.lit "segmentId", .str segmentId),
      (JsString.lit "matchedCounter", .num matchedCounter)]

end Json

/-- The hash covers everything of an operation except the hash itself. -/
def computeReplicationHash (D : Sha256) (streamId : JsString) (epoch sequence : Int)
    (previousHash : JsString) (mutation : TumblerReplicaMutation) : JsString :=
  D.hex (Json.obj [(JsString.lit "streamId", .str streamId), (JsString.lit "epoch", .num epoch),
    (JsString.lit "sequence", .num sequence), (JsString.lit "previousHash", .str previousHash),
    (JsString.lit "mutation", Json.ofMutation mutation)]).canonical

/-- The operation that a source at `checkpoint` makes of a mutation. -/
def ReplicationCheckpoint.link (D : Sha256) (checkpoint : ReplicationCheckpoint)
    (mutation : TumblerReplicaMutation) : PendingReplicaOp where
  checkpoint := { checkpoint with
    sequence := checkpoint.sequence + 1
    headHash := computeReplicationHash D checkpoint.streamId checkpoint.epoch
      (checkpoint.sequence + 1) checkpoint.headHash mutation }
  previousHash := checkpoint.headHash
  mutation := mutation

/-- The members of an envelope that the signature covers. -/
def unsignedEnvelope (pending : PendingReplicaOp) (sentAt : Int) : List (JsString × Json) :=
  [(JsString.lit "streamId", .str pending.checkpoint.streamId),
    (JsString.lit "epoch", .num pending.checkpoint.epoch),
    (JsString.lit "sequence", .num pending.checkpoint.sequence),
    (JsString.lit "headHash", .str pending.checkpoint.headHash),
    (JsString.lit "previousHash", .str pending.previousHash), (JsString.lit "sentAt", .num sentAt),
    (JsString.lit "mutation", Json.ofMutation pending.mutation)]

def Json.ofEnvelope (op : TumblerReplicaOp) : Json := .obj (
  unsignedEnvelope op.toPendingReplicaOp op.sentAt ++ [(JsString.lit "signature", .str op.signature)])

/-- A token as the constructors of both ends demand it. -/
structure ReplicaToken where
  secret : JsString
  strong : MIN_REPLICATION_TOKEN_BYTES ≤ secret.utf8.length

def envelopeSignature (H : HmacSha256) (token : ReplicaToken) (pending : PendingReplicaOp)
    (sentAt : Int) : JsString :=
  H.digest token.secret.utf8 (Json.obj (unsignedEnvelope pending sentAt)).canonical

def signReplicaEnvelope (H : HmacSha256) (token : ReplicaToken) (pending : PendingReplicaOp)
    (sentAt : Int) : TumblerReplicaOp :=
  { pending with sentAt := sentAt, signature := envelopeSignature H token pending sentAt }

/-- Decoding and encoding again lets only canonical base64url through, so the bytes agree
exactly when the texts do. -/
def verifyReplicaEnvelopeSignature (H : HmacSha256) (op : TumblerReplicaOp) (token : ReplicaToken) :
    Bool :=
  op.signature = envelopeSignature H token op.toPendingReplicaOp op.sentAt

@[simp] theorem verify_signReplicaEnvelope (H : HmacSha256) (token : ReplicaToken)
    (pending : PendingReplicaOp) (sentAt : Int) :
    verifyReplicaEnvelopeSignature H (signReplicaEnvelope H token pending sentAt) token = true := by
  simp [verifyReplicaEnvelopeSignature, signReplicaEnvelope]

end TskProtocol
