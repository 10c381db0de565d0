import TskProtocol.TumblerMapStore.Authority
import TskProtocol.Lib.Transaction
import TskProtocol.Server.Mutation

namespace TskProtocol

structure CredentialMutationTicketSigner where
  keyId : JsString
  sign : JsString → JsString

/-- What the constructor has checked. -/
structure PgHaTumblerMapStore where
  streamId : JsString
  sourceEpoch : Nat
  signer : StreamHeadSigner
  maxPendingRows : Nat
  lease : LeaseBinding
  skewMs : Nat
  ticketSigner : CredentialMutationTicketSigner
  streamId_valid : matchesStreamId 128 streamId = true
  sourceEpoch_le : sourceEpoch ≤ MAX_EPOCH
  maxPendingRows_mem : 1 ≤ maxPendingRows ∧ maxPendingRows ≤ 1000000

/-- What one transaction finds outside the tables: its id, its random nonce, the clock at each of its
statements, and the verdicts of the attestations at its start and before its commit. -/
structure CredentialTransaction where
  txid : JsString
  nonce : JsString
  preparedAt : Nat
  ticketAt : Nat
  appliedAt : Nat
  committedAt : Nat
  entered : Bool := true
  boundary : Bool := true

abbrev CredentialStatements := Statements CredentialDb CredentialError

namespace PgHaTumblerMapStore

open Credential

variable (H : HmacBytes) (D : Sha256Bytes) (store : PgHaTumblerMapStore) (tx : CredentialTransaction)

def prepare (nowMs maxPending : Nat) : CredentialStatements PreparedAppend := do
  let input : PrepareInput := {
    streamId := store.streamId
    epoch := store.sourceEpoch
    bound := store.lease
    skewMs := store.skewMs
    maxPending := maxPending }
  let prepared ← .check (prepareAppend input nowMs (← get))
  .check (require (isSafeInteger prepared.sequence ∧ 1 ≤ prepared.sequence)
    (.validation "credential sequence invalid"))
  return prepared

/-- The arguments of the append, and the head that signs them. -/
def buildAppend (prepared : PreparedAppend) (mutation : CredentialMutation) (effects : List CredentialEffect) :
    Except CredentialError CredentialAppend := do
  let fenceToken := fenceTokenToDecimal prepared.fence
  let opDigest ← opDigest D store.streamId prepared.sourceEpoch prepared.sequence fenceToken mutation
  let header : OutboxRecordHeader := {
    contractVersion := HA_OUTBOX_CONTRACT_VERSION
    streamId := store.streamId
    sourceEpoch := prepared.sourceEpoch
    sequence := prepared.sequence
    fenceToken := fenceToken
    opDigest := opDigest }
  (assertHeaderConformant header).mapError .contract
  let headDigest ← (streamHeadDigest D store.streamId prepared.sequence prepared.prevHead opDigest
    store.signer.keyId store.signer.alg).mapError .contract
  return {
    streamId := store.streamId
    sourceEpoch := prepared.sourceEpoch
    sequence := prepared.sequence
    fence := prepared.fence
    opDigest := opDigest
    mutation := mutation
    headPrev := prepared.prevHead
    headDigest := headDigest
    headKeyId := store.signer.keyId
    headAlg := store.signer.alg
    headSig := store.signer.sign headDigest
    effects := effects }

/-- The ticket of an append; the context does not read the MAC. -/
def signTicket (a : CredentialAppend) : Except CredentialError CredentialTicket := do
  let ticketBase : CredentialTicket := {
    keyId := store.ticketSigner.keyId
    nonce := tx.nonce
    txid := tx.txid
    expiresAtMs := JsString.ofNat (tx.ticketAt + 5000)
    mac := [] }
  let mac := store.ticketSigner.sign (ticketContext ticketBase a)
  require (matchesHex64 mac) (.validation "credential mutation ticket MAC invalid")
  return { ticketBase with mac }

def appendAndApply (rawMutation : CredentialMutation) (effects : List CredentialEffect) :
    CredentialStatements PUnit := do
  let mutation ← .check (sanitizeMutation D rawMutation)
  let prepared ← store.prepare tx.preparedAt store.maxPendingRows
  let a ← .check (store.buildAppend D prepared mutation effects)
  let ticket ← .check (store.signTicket tx a)
  let db ← .check (applyMutation H D tx.appliedAt tx.txid ticket a (← get))
  set db

def readInTx (clientId : JsString) : CredentialStatements (Option CredentialMapRow) := do
  let clientId ← .check (checkId clientId "clientId")
  match (← get).maps.get? clientId with
  | none => return none
  | some row => do
    .check (cloneJson (.ofMap row.map) "stored credential map")
    let map ← .check (Credential.validateMap true row.map)
    return some { row with map }

def persist (map : TumblerMap) (revision : Int) : CredentialStatements PUnit := do
  let s ← .check (snapshot D map revision)
  let mutation ← .check (sanitizeMutation D (.snapshot s.clientId s))
  store.appendAndApply H D tx mutation [.upsert s.clientId s.counter map]

/-- A transaction with its attestations, and with the check that the append is still allowed before it
commits. -/
def mutate {α : Type} (fn : CredentialStatements α) (db : CredentialDb) :
    Except CredentialError α × CredentialDb :=
  Statements.transaction (do
    .check (require tx.entered (.validation "credential runtime mutation boundary is unsafe or drifted"))
    let result ← fn
    .check (require tx.boundary (.validation "credential runtime mutation boundary is unsafe or drifted"))
    let _ ← store.prepare tx.committedAt (store.maxPendingRows + 1)
    return result) db

/-- Checks that are made before the transaction begins. -/
def after {α β : Type} (checks : Except CredentialError α)
    (op : α → Except CredentialError β × CredentialDb) (db : CredentialDb) :
    Except CredentialError β × CredentialDb :=
  match checks with
  | .error e => (.error e, db)
  | .ok a => op a

def set (clientId : JsString) (value : TumblerMap) (db : CredentialDb) :
    Except CredentialError PUnit × CredentialDb :=
  after (do
    cloneJson (.ofMap value) "credential map"
    let incoming ← Credential.validateMap true value
    require (incoming.clientId = clientId) (.validation "credential clientId mismatch")
    return incoming) (fun incoming => store.mutate tx (do
      let current ← readInTx clientId
      match current with
      | some row => do
        .check (assertMonotonicMap row.map incoming)
        store.persist H D tx incoming (row.revision + 1)
      | none => store.persist H D tx incoming 1) db) db

def delete (clientId : JsString) (db : CredentialDb) : Except CredentialError PUnit × CredentialDb :=
  store.mutate tx (do
    match ← readInTx clientId with
    | none => return ⟨⟩
    | some current =>
      store.appendAndApply H D tx (.delete clientId clientId (current.revision + 1))
        [.delete clientId (current.revision + 1)]) db

/-- The loop over the captured updates. -/
def applyUpdates : List SegmentConfig → List (JsString × Int) → Except CredentialError (List SegmentConfig)
  | segments, [] => .ok segments
  | segments, (segmentId, counter) :: rest => do
    let target : CredentialError := .validation "HOTP counter update target invalid"
    let seg ← orThrow (segments.find? fun seg => seg.segmentId = segmentId) target
    require (seg.type = .hotp) target
    require (seg.storedCounter ≤ counter) (.validation "HOTP counter update must be monotonic")
    applyUpdates (MemoryTumblerStore.setFirstCounter segmentId counter segments) rest

/-- `minimumHOTPUsesRemaining` and `reconcile`, in front of `persist`. -/
def persistReconciled (map : TumblerMap) (revision : Int) : CredentialStatements PUnit := do
  let (outcome, written) := MemoryTumblerStore.reconcileMap map
  .check (outcome.mapError .store)
  store.persist H D tx written revision

def updateCounters (clientId : JsString) (updates : OrderedMap JsString Int) (db : CredentialDb) :
    Except CredentialError PUnit × CredentialDb :=
  after (do
    updates.entries.forM fun update => do
      let _ ← checkId update.1 "segmentId"
    updates.entries.forM fun update =>
      (assertValidHOTPStoredCounter update.2 (counterLabel update.1)).mapError .core) (fun _ =>
    store.mutate tx (do
      match ← readInTx clientId with
      | none => return ⟨⟩
      | some row => do
        let segments ← .check (applyUpdates row.map.segments updates.entries)
        store.persistReconciled H D tx { row.map with segments } (row.revision + 1)) db) db

def consumeCounter (clientId segmentId : JsString) (matchedCounter : Int) (db : CredentialDb) :
    Except CredentialError Bool × CredentialDb :=
  after (do
    let clientId ← checkId clientId "clientId"
    let segmentId ← checkId segmentId "segmentId"
    return (clientId, segmentId)) (fun (clientId, segmentId) =>
    if isUsableHOTPDerivationCounter matchedCounter = false then (.ok false, db)
    else store.mutate tx (do
      match ← readInTx clientId with
      | none => return false
      | some row =>
        match row.map.segments.find? fun seg => seg.segmentId = segmentId with
        | none => return false
        | some seg =>
          if seg.type ≠ .hotp then return false
          else if isUsableHOTPDerivationCounter seg.storedCounter = false then do
            if seg.storedCounter = TSK_MAX_HOTP_COUNTER ∧ isTerminal row.map.status = false then
              store.persist H D tx row.map.expire (row.revision + 1)
            return false
          else if seg.storedCounter > matchedCounter then return false
          else do
            let segments := MemoryTumblerStore.setFirstCounter segmentId (matchedCounter + 1) row.map.segments
            store.persistReconciled H D tx { row.map with segments } (row.revision + 1)
            return true) db) db

/-- What `commitValidation` checks of its input, which it clones. -/
def checkCommitInput (input : ValidationCommitInput) : Except CredentialError ValidationCommitInput := do
  cloneJson (.ofMembers
    [("counterMatches", .arr (input.counterMatches.map fun m =>
        .ofMembers [("segmentId", .str m.1), ("matchedCounter", .num m.2)])),
      ("usedAt", .num input.usedAt)]) "validation commit"
  require (isSafeInteger input.usedAt ∧ 0 ≤ input.usedAt) (.validation "validation commit invalid")
  input.counterMatches.forM fun m => do
    require (0 ≤ m.2 ∧ m.2 ≤ TSK_MAX_HOTP_COUNTER) (.validation "matched counter invalid")
    let _ ← checkId m.1 "segmentId"
  return input

def commitValidation (clientId : JsString) (input : ValidationCommitInput) (db : CredentialDb) :
    Except CredentialError ValidationCommitResult × CredentialDb :=
  after (checkCommitInput input) (fun commitInput => store.mutate tx (do
    match ← readInTx clientId with
    | none => return .fail .keyExpired
    | some row => do
      let before ← .check (canonicalText (.ofMap row.map))
      let (outcome, written) := commitValidationToMap row.map commitInput
      let result ← .check (outcome.mapError .core)
      let canonical ← .check (canonicalText (.ofMap written))
      if canonical ≠ before then store.persist H D tx written (row.revision + 1)
      return result) db) db

def replaceCredential (oldClientId : JsString) (replacement : TumblerMap) (db : CredentialDb) :
    Except CredentialError Bool × CredentialDb :=
  after (do
    cloneJson (.ofMap replacement) "replacement credential map"
    Credential.validateMap true replacement) (fun next => store.mutate tx (do
    match ← readInTx oldClientId with
    | none => return false
    | some oldRow =>
      if isTerminal oldRow.map.status then return false
      else do
        match ← readInTx next.clientId with
        | some _ => return false
        | none => do
          let revoked := { oldRow.map with status := some .revoked }
          let old ← .check (snapshot D revoked (oldRow.revision + 1))
          let fresh ← .check (snapshot D next 1)
          let mutation ← .check (sanitizeMutation D (.replace old.clientId old.counter old fresh))
          store.appendAndApply H D tx mutation
            [.upsert old.clientId old.counter revoked, .insert fresh.clientId fresh.counter next]
          return true) db) db

/-- One call of the `TumblerMapStore` interface. -/
def perform (mutation : StoreMutation) (db : CredentialDb) :
    Except CredentialError MutationResult × CredentialDb :=
  match mutation with
  | .set clientId map =>
    let (outcome, db) := store.set H D tx clientId map db
    (outcome.map fun _ => .done, db)
  | .delete clientId =>
    let (outcome, db) := store.delete H D tx clientId db
    (outcome.map fun _ => .done, db)
  | .updateCounters clientId updates =>
    let (outcome, db) := store.updateCounters H D tx clientId updates db
    (outcome.map fun _ => .done, db)
  | .consumeCounter clientId segmentId matchedCounter =>
    let (outcome, db) := store.consumeCounter H D tx clientId segmentId matchedCounter db
    (outcome.map .answer, db)
  | .commitValidation clientId input =>
    let (outcome, db) := store.commitValidation H D tx clientId input db
    (outcome.map .committed, db)
  | .replaceCredential oldClientId replacement =>
    let (outcome, db) := store.replaceCredential H D tx oldClientId replacement db
    (outcome.map .answer, db)

/-- `get` and `list` read alone. -/
def get (clientId : JsString) (db : CredentialDb) : Except CredentialError (Option TumblerMap) :=
  ((readInTx clientId).exec db).1.map fun row => row.map (·.map)

def list (db : CredentialDb) : List JsString := db.maps.keys.mergeSort JsString.le

end PgHaTumblerMapStore

end TskProtocol
