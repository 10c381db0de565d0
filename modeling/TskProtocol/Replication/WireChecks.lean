import TskProtocol.Replication.WireEnvelope

namespace TskProtocol

variable {H : HmacSha256} {D : Sha256} {token : ReplicaToken}

namespace PlainMutation

/-- What is written of a mutation. -/
def json (mutation : PlainMutation) : Json := mutation.value.toJson.getD .null

theorem toJson_value (mutation : PlainMutation) : mutation.value.toJson = some mutation.json := by
  cases mutation <;> rfl

end PlainMutation

theorem toJson_hashInput (streamId : JsString) (epoch sequence : Int) (previousHash : JsString)
    (mutation : PlainMutation) :
    (hashInput streamId epoch sequence previousHash mutation.value).toJson = some (.obj [
      (JsString.lit "streamId", .str streamId), (JsString.lit "epoch", .num epoch),
      (JsString.lit "sequence", .num sequence), (JsString.lit "previousHash", .str previousHash),
      (JsString.lit "mutation", mutation.json)]) := by
  simp only [hashInput, PlainValue.toJson, PlainValue.membersToJson, mutation.toJson_value]
  rfl

namespace PlainReplicaOp

/-- What is written of an envelope before it is signed. -/
def unsignedJson (op : PlainReplicaOp) (sentAt : PlainNumber) : List (JsString × Json) := [
  (JsString.lit "streamId", .str op.checkpoint.streamId),
  (JsString.lit "epoch", .num op.checkpoint.epoch),
  (JsString.lit "sequence", .num op.checkpoint.sequence),
  (JsString.lit "headHash", .str op.checkpoint.headHash),
  (JsString.lit "previousHash", .str op.previousHash), (JsString.lit "sentAt", sentAt.toJson),
  (JsString.lit "mutation", op.mutation.json)]

/-- What is written of a signed envelope. -/
def json (H : HmacSha256) (token : ReplicaToken) (op : PlainReplicaOp) (sentAt : PlainNumber) : Json :=
  .obj (op.unsignedJson sentAt ++ [(JsString.lit "signature", .str (op.signature H token sentAt))])

theorem toJson_unsigned (op : PlainReplicaOp) (sentAt : PlainNumber) :
    (PlainValue.obj (op.unsigned sentAt)).toJson = some (.obj (op.unsignedJson sentAt)) := by
  simp only [unsigned, unsignedJson, PlainValue.toJson, PlainValue.membersToJson, op.mutation.toJson_value]
  rfl

theorem signature_eq (op : PlainReplicaOp) (sentAt : PlainNumber) :
    op.signature H token sentAt =
      H.digest token.secret.utf8 (Json.obj (op.unsignedJson sentAt)).canonical := by
  rw [signature, PlainValue.canonical_eq, toJson_unsigned]
  rfl

section Fields

variable (op : PlainReplicaOp) (sentAt : PlainNumber)

theorem field_streamId : (op.json H token sentAt).strField "streamId" = some op.checkpoint.streamId := rfl

theorem field_epoch : (op.json H token sentAt).numField "epoch" = some op.checkpoint.epoch := rfl

end Fields

end PlainReplicaOp

section Check

variable {checkpoint : ReplicationCheckpoint} {mutation : PlainMutation} {sentAt : PlainNumber}
  {receiver : TumblerReplicaReceiver} {now : Int}

end Check

end TskProtocol
