import TskProtocol.TumblerMapStore.Mutation
import TskProtocol.Outbox.Source
import TskProtocol.SourceFence.Lease

namespace TskProtocol

structure CredentialRecord extends OutboxRecordHeader where
  mutation : CredentialMutation
  deriving DecidableEq, Repr

structure CredentialOutboxRow where
  record : CredentialRecord
  head : SignedStreamHead
  acked : Bool := false
  quarantined : Bool := false
  deriving DecidableEq, Repr

/-- A row of `tsk_credential_maps`. -/
structure CredentialMapRow where
  map : TumblerMap
  revision : Int
  deriving DecidableEq, Repr

/-- A row of `tsk_credential_mutation_key`. -/
structure CredentialMutationKey where
  keyId : JsString
  secret : List UInt8
  active : Bool := true
  deriving DecidableEq, Repr

/-- The tables of one stream, of the credentials that it carries, and of their tickets. -/
structure CredentialDb where
  streamId : JsString
  maps : OrderedMap JsString CredentialMapRow := ∅
  fence : Option Nat := none
  checkpoint : Option OutboxCheckpoint := none
  rows : List CredentialOutboxRow := []
  lease : SourceLeaseTable := {}
  keys : List CredentialMutationKey := []
  /-- `tsk_credential_mutation_nonce`: a nonce with `expires_at_ms`. -/
  nonces : OrderedMap JsString Nat := ∅

structure CredentialTicket where
  keyId : JsString
  nonce : JsString
  txid : JsString
  expiresAtMs : JsString
  mac : JsString
  deriving DecidableEq, Repr

inductive CredentialEffect
  | upsert (clientId : JsString) (revision : Int) (map : TumblerMap)
  | insert (clientId : JsString) (revision : Int) (map : TumblerMap)
  | delete (clientId : JsString) (revision : Int)
  deriving DecidableEq, Repr

/-- The arguments of `tsk_apply_credential_mutation` behind the ticket. -/
structure CredentialAppend where
  streamId : JsString
  sourceEpoch : JsString
  sequence : Int
  fence : Nat
  opDigest : JsString
  mutation : CredentialMutation
  headPrev : JsString
  headDigest : JsString
  headKeyId : JsString
  headAlg : JsString
  headSig : JsString
  effects : List CredentialEffect
  deriving DecidableEq, Repr

def CredentialEffect.toJson : CredentialEffect → Json
  | .upsert clientId revision map => effect "upsert" clientId revision [("map", .ofMap map)]
  | .insert clientId revision map => effect "insert" clientId revision [("map", .ofMap map)]
  | .delete clientId revision => effect "delete" clientId revision []
where
  effect (action : String) (clientId : JsString) (revision : Int) (map : List (String × Json)) : Json :=
    .ofMembers ([("action", .str (JsString.lit action)), ("clientId", .str clientId),
      ("revision", .num revision)] ++ map)

def CredentialEffect.maps : CredentialEffect → List TumblerMap
  | .upsert _ _ map => [map]
  | .insert _ _ map => [map]
  | .delete _ _ => []

/-- The row that is inserted: a record and its head, as the publisher puts them together. -/
def CredentialAppend.row (a : CredentialAppend) : CredentialOutboxRow where
  record := {
    contractVersion := HA_OUTBOX_CONTRACT_VERSION
    streamId := a.streamId
    sourceEpoch := a.sourceEpoch
    sequence := a.sequence
    fenceToken := fenceTokenToDecimal a.fence
    opDigest := a.opDigest
    mutation := a.mutation }
  head := {
    streamId := a.streamId
    sequence := a.sequence
    prevHeadDigest := a.headPrev
    opDigest := a.opDigest
    keyId := a.headKeyId
    alg := a.headAlg
    headDigest := a.headDigest
    signature := a.headSig }

def CredentialDb.pending (db : CredentialDb) : Nat :=
  (db.rows.filter fun row => !row.acked && !row.quarantined).length

namespace Credential

def MAX_MUTATION_NONCES : Nat := 10000
def TICKET_LIFETIME_MS : Nat := 10000

/-- `encode(bytes, 'hex')` -/
def hexText (bytes : List UInt8) : JsString :=
  bytes.flatMap fun byte => [toHexDigit (byte.toNat / 16), toHexDigit byte.toNat]

/-- `tsk_credential_ticket_context`, of a ticket without its MAC. -/
def ticketContext (ticket : CredentialTicket) (a : CredentialAppend) : JsString :=
  (Json.ofMembers
    [("domain", .str (JsString.lit "tsk-credential-db-mutation/v1")),
      ("ticket", .ofMembers [("keyId", .str ticket.keyId), ("nonce", .str ticket.nonce),
        ("txid", .str ticket.txid), ("expiresAtMs", .str ticket.expiresAtMs)]),
      ("payload", .arr [.str a.streamId, .str a.sourceEpoch, .str (JsString.ofInt a.sequence),
        .str (fenceTokenToDecimal a.fence), .str a.opDigest, a.mutation.toJson, .str a.headPrev,
        .str a.headDigest, .str a.headKeyId, .str a.headAlg, .str a.headSig,
        .arr (a.effects.map CredentialEffect.toJson)])]).jsonbText

/-- The row of `tsk_source_lease_history` with the highest number. -/
def latestGrant (lease : SourceLeaseTable) : Option LeaseRecord := lease.history.maxOn? (·.seq)

structure PreparedAppend where
  sourceEpoch : JsString
  sequence : Int
  prevHead : JsString
  fence : Nat
  deriving DecidableEq, Repr

/-- What a store asks for with `tsk_prepare_credential_append`. -/
structure PrepareInput where
  streamId : JsString
  epoch : Nat
  bound : LeaseBinding
  skewMs : Nat
  maxPending : Nat

/-- `tsk_prepare_credential_append`, on the database's own clock. -/
def prepareAppend (input : PrepareInput) (nowMs : Nat) (db : CredentialDb) :
    Except CredentialError PreparedAppend := do
  let stale : CredentialError := .raised "source lease is missing, stale, expired, or not latest"
  require (input.streamId = db.streamId) stale
  let lease ← orThrow db.lease.head stale
  let latest ← orThrow (latestGrant db.lease) stale
  require (lease.body.leaseStatus = .active ∧ lease.body.leaseEpoch = input.epoch ∧
    lease.body.holderNodeId = input.bound.holderNodeId ∧ lease.body.leaseId = input.bound.leaseId ∧
    lease.digest = input.bound.grantDigest ∧ latest.seq = lease.seq ∧ latest.digest = lease.digest ∧
    nowMs + input.skewMs < lease.body.leaseExpiresAtMs) stale
  let fence ← orThrow (db.fence.filter (· = input.epoch)) (.raised "source fence missing or stale")
  let exhausted : CredentialError := .raised "source checkpoint missing or exhausted"
  let checkpoint ← orThrow db.checkpoint exhausted
  require (checkpoint.sequence < MAX_SAFE_INTEGER) exhausted
  require (1 ≤ input.maxPending ∧ db.pending < input.maxPending) (.raised "credential outbox backpressure")
  return {
    sourceEpoch := checkpoint.sourceEpoch
    sequence := checkpoint.sequence + 1
    prevHead := checkpoint.head
    fence := fence }

/-- The nonces that are left after the oldest thousand of the expired ones are deleted. -/
def pruneNonces (nowMs : Nat) (nonces : OrderedMap JsString Nat) : OrderedMap JsString Nat :=
  let expired := (nonces.entries.filter fun e => e.2 < nowMs).mergeSort fun e f =>
    e.2 < f.2 || (e.2 = f.2 && e.1.le f.1)
  nonces.filter fun nonce expiresAtMs => (nonce, expiresAtMs) ∉ expired.take 1000

/-- The first half of `tsk_apply_credential_mutation`: the ticket is checked and used up. -/
def redeemTicket (H : HmacBytes) (nowMs : Nat) (txid : JsString) (ticket : CredentialTicket)
    (a : CredentialAppend) (db : CredentialDb) : Except CredentialError (OrderedMap JsString Nat) := do
  require (matchesKeyId ticket.keyId ∧ 22 ≤ ticket.nonce.length ∧ ticket.nonce.length ≤ 128 ∧
    ticket.nonce.all isBase64Url ∧ ticket.txid = txid ∧ 1 ≤ ticket.expiresAtMs.length ∧
    ticket.expiresAtMs.length ≤ 16 ∧ ticket.expiresAtMs.all isDecimalDigit ∧ matchesHex64 ticket.mac)
    (.raised "credential mutation ticket invalid")
  let expiresAtMs := bigIntOf ticket.expiresAtMs
  require (nowMs ≤ expiresAtMs ∧ expiresAtMs ≤ nowMs + TICKET_LIFETIME_MS)
    (.raised "credential mutation ticket expired")
  let key ← orThrow (db.keys.find? fun key => key.keyId = ticket.keyId && key.active)
    (.raised "credential mutation ticket key unavailable")
  require (hexText (H.mac key.secret (ticketContext ticket a).utf8) = ticket.mac)
    (.raised "credential mutation ticket MAC invalid")
  let nonces := pruneNonces nowMs db.nonces
  require (nonces.size < MAX_MUTATION_NONCES) (.raised "credential mutation nonce capacity exhausted")
  require (nonces.has ticket.nonce = false) .constraintViolation
  return nonces.set ticket.nonce expiresAtMs

/-- The constraints of the table `tsk_outbox_rows`.  Of the texts inside a mutation the label alone is
free of a pattern. -/
def insertable (row : CredentialOutboxRow) (maps : List TumblerMap) (rows : List CredentialOutboxRow) : Bool :=
  row.record.sourceEpoch.fitsIdColumn && 1 ≤ row.record.sequence && row.record.sequence ≤ MAX_SAFE_INTEGER &&
  matchesHex64 row.record.opDigest && row.record.mutation.tumblerId.fitsIdColumn &&
  1 ≤ row.record.mutation.counter && row.record.mutation.counter ≤ MAX_REVISION &&
  matchesHex64 row.head.prevHeadDigest && matchesHex64 row.head.headDigest &&
  1 ≤ row.head.keyId.codePointLength && row.head.keyId.codePointLength ≤ 128 &&
  row.head.alg ∈ STREAM_HEAD_ALGS && fitsJsonb row.head.signature &&
  1 ≤ row.head.signature.codePointLength && row.head.signature.codePointLength ≤ 4096 &&
  maps.all (fun map => map.label.all fitsJsonb) &&
  rows.all fun other => (other.record.sourceEpoch, other.record.sequence) ≠
    (row.record.sourceEpoch, row.record.sequence)

/-- An effect shows what a snapshot of the mutation says. -/
def binds (D : Sha256Bytes) (s : CredentialSnapshot) (clientId : JsString) (revision : Int)
    (map : TumblerMap) : Bool :=
  clientId = s.clientId && revision = s.counter && matchesHex64 map.sharedSecret &&
    D.hex map.sharedSecret.utf8 = s.secretDigest && PublicMap.ofMap map = s.publicMap

/-- The `CHECK` of a revision. -/
def checkRevision (revision : Int) : Except CredentialError Unit :=
  require (1 ≤ revision ∧ revision ≤ MAX_REVISION) .constraintViolation

/-- The second half of `tsk_apply_credential_mutation`: what the mutation does to the maps. -/
def applyEffects (D : Sha256Bytes) (maps : OrderedMap JsString CredentialMapRow) :
    CredentialMutation → List CredentialEffect →
      Except CredentialError (OrderedMap JsString CredentialMapRow)
  | .snapshot _ s, [.upsert clientId revision map] => do
    require (binds D s clientId revision map ∧ map.clientId = s.clientId)
      (.raised "snapshot effect does not bind the signed mutation")
    checkRevision revision
    require ((maps.get? clientId).all fun row => row.revision + 1 = revision)
      (.raised "credential snapshot revision precondition failed")
    return maps.set clientId { map, revision }
  | .snapshot _ _, [_] => .error (.raised "snapshot effect does not bind the signed mutation")
  | .snapshot _ _, _ => .error (.raised "snapshot effect count invalid")
  | .delete _ clientId counter, [.delete clientId' revision] => do
    require (clientId' = clientId ∧ revision = counter)
      (.raised "delete effect does not bind the signed mutation")
    require ((maps.get? clientId').any fun row => row.revision + 1 = revision)
      (.raised "credential delete revision precondition failed")
    return maps.erase clientId'
  | .delete .., [_] => .error (.raised "delete effect does not bind the signed mutation")
  | .delete .., _ => .error (.raised "delete effect count invalid")
  | .replace _ _ old replacement, [.upsert clientId revision map, .insert clientId' revision' map'] => do
    require (binds D old clientId revision map ∧ binds D replacement clientId' revision' map')
      (.raised "replace effects do not bind the signed mutation")
    checkRevision revision
    require ((maps.get? clientId).any fun row => row.revision + 1 = revision)
      (.raised "replacement old credential precondition failed")
    let maps := maps.set clientId { map, revision }
    checkRevision revision'
    require (maps.has clientId' = false) .constraintViolation
    return maps.set clientId' { map := map', revision := revision' }
  | .replace .., [_, _] => .error (.raised "replace effects do not bind the signed mutation")
  | .replace .., _ => .error (.raised "replace effect count invalid")

/-- `tsk_apply_credential_mutation`, in the transaction `txid` and on the database's own clock. -/
def applyMutation (H : HmacBytes) (D : Sha256Bytes) (nowMs : Nat) (txid : JsString)
    (ticket : CredentialTicket) (a : CredentialAppend) (db : CredentialDb) :
    Except CredentialError CredentialDb := do
  let nonces ← redeemTicket H nowMs txid ticket a db
  let changed : CredentialError := .raised "credential append precondition changed"
  let checkpoint ← orThrow db.checkpoint changed
  require (a.streamId = db.streamId ∧ checkpoint.sourceEpoch = a.sourceEpoch ∧
    checkpoint.sequence + 1 = a.sequence ∧ checkpoint.head = a.headPrev ∧ db.fence = some a.fence) changed
  require (insertable a.row (a.effects.flatMap CredentialEffect.maps) db.rows) .constraintViolation
  let maps ← applyEffects D db.maps a.mutation a.effects
  return { db with
    nonces := nonces
    maps := maps
    rows := db.rows ++ [a.row]
    checkpoint := some { checkpoint with sequence := a.sequence, headDigest := a.headDigest } }

end Credential

end TskProtocol
