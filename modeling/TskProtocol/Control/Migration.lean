import TskProtocol.Control.Evidence
import TskProtocol.Control.Activation
import TskProtocol.Json.RoundTrip
import TskProtocol.Lib.Transaction

namespace TskProtocol

def CONTROL_SCHEMA_VERSION : Nat := 2

def HA_CONTROL_MANIFEST_DIGEST : JsString :=
  JsString.lit "f01ff613773b750256a6bf91a0c93d9e538a0a88de343775ac9d9bd526b59e1a"

def HA_CONTROL_V1_MANIFEST_DIGEST : JsString :=
  JsString.lit "a80069c514d7450a5a2f4482d99952f9b2920ee876d14f51ba5d516ff79eefab"

inductive MigrationError
  | field (e : FenceError) | chain (fault : ChainFault)
  | misplaced | stampMissing | stampMismatch | attestation | uniqueViolation
  | noLegacyTable | malformedGrant | grantUnbound | noCutover | notActive | evidenceMissing | evidenceDiffers
  deriving DecidableEq, Repr

/-- A row of `HA_CONTROL_V1_SOURCE_ACTIVATION_SCHEMA`. -/
structure LegacyActivation where
  streamId : JsString
  commandId : JsString
  epoch : Nat
  bKeyId : JsString
  bReceiptDigest : JsString
  grantDigest : JsString
  grantJson : JsString
  guardKeyId : JsString
  deriving DecidableEq, Repr

/-- The source activations of all streams, in the tables of either version. -/
inductive SourceActivations
  | v1 (rows : List LegacyActivation)
  | v2 (tables : JsString → ControlTable ActivationRow)

def SourceActivations.version : SourceActivations → Nat
  | .v1 _ => 1
  | .v2 _ => 2

structure SchemaStamp where
  version : Nat
  catalogManifest : JsString
  deriving DecidableEq, Repr

/-- The whole control database, stream by stream. -/
structure ControlStore where
  stamp : Option SchemaStamp
  provisioning : JsString → ControlTable ProvisioningRow
  witness : JsString → ControlTable WitnessRow
  lease : JsString → ControlTable LeaseRow
  cutover : JsString → ControlTable CutoverRow
  activations : SourceActivations

namespace ControlStore

/-- What version 1 has activated; the rows are in the order of their streams. -/
def legacy (store : ControlStore) : List LegacyActivation :=
  match store.activations with
  | .v1 rows => rows
  | .v2 _ => []

/-- The tables of one stream as version 2 reads them. -/
def db (store : ControlStore) (streamId : JsString) : ControlDb where
  provisioning := store.provisioning streamId
  witness := store.witness streamId
  lease := store.lease streamId
  cutover := store.cutover streamId
  activation := match store.activations with
    | .v1 _ => {}
    | .v2 tables => tables streamId

end ControlStore

/-- What PostgreSQL reports of the schema. -/
structure ControlCatalog where
  /-- The transaction is serializable and every governed table is found in the pinned schema. -/
  placed : Bool
  /-- The digest of the manifest of a version, where the activation tables are those of a version. -/
  manifestDigest : Nat → Nat → JsString

def LeaseStatus.ofText (s : JsString) : Option LeaseStatus :=
  if s = LeaseStatus.active.text then some .active
  else if s = LeaseStatus.revoked.text then some .revoked
  else none

theorem LeaseStatus.ofText_text (status : LeaseStatus) : ofText status.text = some status := by
  cases status <;> rfl

namespace LeaseGrant

def members (g : LeaseGrant) : List (String × Json) :=
  [("streamId", .str g.streamId), ("leaseEpoch", .num g.leaseEpoch), ("leaseStatus", .str g.leaseStatus.text),
    ("holderNodeId", .str g.holderNodeId), ("leaseId", .str g.leaseId), ("commandId", .str g.commandId),
    ("leaseExpiresAtMs", .num g.leaseExpiresAtMs), ("leaseGrantSeq", .num g.leaseGrantSeq),
    ("prevGrantDigest", optionalJson g.prevGrantDigest), ("grantDigest", .str g.grantDigest),
    ("guardKeyId", .str g.guardKeyId), ("guardSignature", .str g.guardSignature)]

/-- The object that `grant_json` holds. -/
def json (g : LeaseGrant) : Json := .obj (g.members.map fun m => (JsString.lit m.1, m.2))

def natField (value : Json) (key : String) : Option Nat :=
  (value.numField key).bind fun n => if 0 ≤ n then some n.toNat else none

/-- A missing member is read as null. -/
def nullableField (value : Json) (key : String) : Option (Option JsString) :=
  match value.field key with
  | none | some .null => some none
  | some (.str s) => some (some s)
  | some _ => none

/-- The checks of a grant let no member of another type through. -/
def ofJson (value : Json) : Option LeaseGrant := do
  return {
    streamId := ← value.strField "streamId"
    leaseEpoch := ← natField value "leaseEpoch"
    leaseStatus := ← (value.strField "leaseStatus").bind LeaseStatus.ofText
    holderNodeId := ← value.strField "holderNodeId"
    leaseId := ← value.strField "leaseId"
    commandId := ← value.strField "commandId"
    leaseExpiresAtMs := ← natField value "leaseExpiresAtMs"
    leaseGrantSeq := ← natField value "leaseGrantSeq"
    prevGrantDigest := ← nullableField value "prevGrantDigest"
    grantDigest := ← value.strField "grantDigest"
    guardKeyId := ← value.strField "guardKeyId"
    guardSignature := ← value.strField "guardSignature" }

def read (text : JsString) : Option LeaseGrant := (Json.parse text).bind ofJson

theorem nodup_names (g : LeaseGrant) : ((g.members.map fun m => (JsString.lit m.1, m.2)).map Prod.fst).Nodup := by
  have hnames : (["streamId", "leaseEpoch", "leaseStatus", "holderNodeId", "leaseId", "commandId", "leaseExpiresAtMs",
      "leaseGrantSeq", "prevGrantDigest", "grantDigest", "guardKeyId", "guardSignature"].map JsString.lit).Nodup := by
    decide
  simpa only [members, List.map_cons, List.map_nil] using hnames

theorem field_json (g : LeaseGrant) {m : String × Json} (hm : m ∈ g.members) : g.json.field m.1 = some m.2 :=
  Json.field_of_mem g.nodup_names (List.mem_map_of_mem hm)

theorem ofJson_json (g : LeaseGrant) : ofJson g.json = some g := by
  have hfield := fun m hm => g.field_json (m := m) hm
  simp only [members, List.forall_mem_cons, List.not_mem_nil, false_imp_iff, implies_true, and_true] at hfield
  obtain ⟨h1, h2, h3, h4, h5, h6, h7, h8, h9, h10, h11, h12⟩ := hfield
  have hnat : ∀ n : Nat, (Json.asNum (.num (n : Int))).bind (fun n => if 0 ≤ n then some n.toNat else none) = some n := by
    intro n
    simp [Json.asNum]
  have hprev : nullableField g.json "prevGrantDigest" = some g.prevGrantDigest := by
    rw [nullableField, h9]
    cases g.prevGrantDigest <;> rfl
  simp only [ofJson, Json.strField, natField, Json.numField, h1, h2, h3, h4, h5, h6, h7, h8, hprev, h10, h11, h12,
    Option.bind_eq_bind, Option.bind_some, hnat, Json.asStr, LeaseStatus.ofText_text]
  rfl

/-- What has been written is read back. -/
theorem read_stringify (g : LeaseGrant) : read g.json.stringify = some g := by
  have hdistinct : g.json.Distinct := by
    refine ⟨g.nodup_names, Json.membersDistinct_iff.mpr ?_⟩
    have hprev : (optionalJson g.prevGrantDigest).Distinct := by
      cases g.prevGrantDigest <;> trivial
    simp only [members, List.map_cons, List.map_nil, List.forall_mem_cons, List.not_mem_nil, false_imp_iff,
      implies_true, and_true]
    exact ⟨trivial, trivial, trivial, trivial, trivial, trivial, trivial, trivial, hprev, trivial, trivial, trivial⟩
  rw [read, Json.parse_stringify hdistinct, Option.bind_some, ofJson_json]

end LeaseGrant

/-- The reader of a control table of any stream, with the keys of any resolver. -/
def controlReader {α : Type} [ControlRow α] (D : Sha256Bytes) (H : HmacBytes) (resolver : GuardKeyResolver)
    (streamId : JsString) : ChainReader α JsString (JsString × JsString) where
  readable l := ControlRow.readable l.body && 1 ≤ l.seq && l.seq ≤ MAX_SEQ &&
    l.prev.all matchesHex64 && matchesHex64 l.digest
  digestOf body seq prev := D.hex (ControlRow.msg streamId body seq prev [])
  verifies l := verifyGuard H resolver l.signature.1
    (ControlRow.msg streamId l.body l.seq l.prev l.digest) l.signature.2 = .ok ()

/-- The migration looks at the grammar of the commands as well. -/
def legacyCutoverReader (D : Sha256Bytes) (H : HmacBytes) (resolver : GuardKeyResolver) (streamId : JsString) :
    ChainReader CutoverRow JsString (JsString × JsString) :=
  { controlReader D H resolver streamId with
    readable := fun l => (controlReader D H resolver streamId).readable l && matchesId l.body.commandId }

/-- The receipt and the key of the target that `JSON.parse` finds in the evidence of a head. -/
def ratifiedTarget : Option CutoverEvidence → Except MigrationError (Option (JsString × JsString))
  | some (.active e) => return some (e.bReceiptDigest, e.bKeyId)
  | some (.ready e) => return some (e.bReceiptDigest, e.bKeyId)
  | some (.fenced _) => .error .evidenceMissing
  | some (.sourceFenced _) | some (.abort _) | none => return none

section Migration

variable {E : Ed25519} (D : Sha256Bytes) (H : HmacBytes) (migrationSigner : GuardSigner)
  (controlResolver : GuardKeyResolver) (sourceLeaseResolver : SourceVerifyKeyResolver E)

/-- The first activation of a stream, signed for version 2. -/
def signedActivation (streamId : JsString) (row : ActivationRow) : ControlTable ActivationRow :=
  SignedTable.extend (controlReader D H controlResolver streamId) (fun body seq prev digest =>
    (migrationSigner.keyId, migrationSigner.sign H (ControlRow.msg streamId body seq prev digest))) {} row

/-- One round of the loop over the legacy rows. -/
def convertActivation (cutover : JsString → ControlTable CutoverRow) (row : LegacyActivation) :
    Except MigrationError (JsString × ControlTable ActivationRow) := do
  let streamId ← (vId row.streamId (matchesStreamId 200) "legacy activation stream_id").mapError .field
  let commandId ← (vId row.commandId matchesId "legacy activation command_id").mapError .field
  let epoch ← (vInt row.epoch "legacy activation epoch" 1 MAX_EPOCH).mapError .field
  let holder ← (vId row.bKeyId matchesKeyId "legacy activation target key").mapError .field
  let receiptDigest ← (vDigest row.bReceiptDigest "legacy activation receipt digest").mapError .field
  let grantDigest ← (vDigest row.grantDigest "legacy activation grant digest").mapError .field
  let grant ← orThrow (LeaseGrant.read row.grantJson) .malformedGrant
  (verifyLeaseGrant E D sourceLeaseResolver grant).mapError .field
  require (grant.streamId = streamId ∧ grant.commandId = commandId ∧ grant.leaseEpoch = epoch ∧
    grant.holderNodeId = holder ∧ grant.grantDigest = grantDigest ∧ grant.guardKeyId = row.guardKeyId ∧
    grant.leaseStatus = .active ∧ grant.leaseGrantSeq = 1 ∧ grant.prevGrantDigest = none) .grantUnbound
  let head ← orThrow (← ((cutover streamId).read (legacyCutoverReader D H controlResolver streamId)).mapError .chain)
    .noCutover
  require (head.body.isAt .active commandId epoch) .notActive
  require ((← ratifiedTarget head.body.evidence) = some (receiptDigest, holder)) .evidenceDiffers
  return (streamId, signedActivation D H migrationSigner controlResolver streamId {
    commandId
    epoch
    bKeyId := holder
    bReceiptDigest := receiptDigest
    priorTargetGrantDigest := none
    grantDigest
    grant })

/-- A stream has one head. -/
def insertActivations : List (JsString × ControlTable ActivationRow) → (JsString → ControlTable ActivationRow) →
    Except MigrationError (JsString → ControlTable ActivationRow)
  | [], tables => return tables
  | item :: rest, tables => do
    require ((tables item.1).head = none) .uniqueViolation
    insertActivations rest (Function.update tables item.1 item.2)

/-- The statements of the migration. -/
def migrateControlSchema (catalog : ControlCatalog) : Statements ControlStore MigrationError JsString := do
  Statements.check (require catalog.placed .misplaced)
  let store ← get
  let stamp ← Statements.check (orThrow store.stamp .stampMissing)
  Statements.check (require (stamp = ⟨1, HA_CONTROL_V1_MANIFEST_DIGEST⟩) .stampMismatch)
  Statements.check (require (catalog.manifestDigest 1 store.activations.version = HA_CONTROL_V1_MANIFEST_DIGEST)
    .attestation)
  let rows ← Statements.check (match store.activations with
    | .v1 rows => .ok rows
    | .v2 _ => .error .noLegacyTable)
  let converted ← Statements.check (rows.mapM
    (convertActivation D H migrationSigner controlResolver sourceLeaseResolver store.cutover))
  -- the table of version 1 is dropped before those of version 2 are created
  set { store with activations := .v2 fun _ => {} }
  let tables ← Statements.check (insertActivations converted fun _ => {})
  set { store with activations := .v2 tables }
  let manifestDigest := catalog.manifestDigest CONTROL_SCHEMA_VERSION 2
  Statements.check (require (manifestDigest = HA_CONTROL_MANIFEST_DIGEST) .attestation)
  set { store with activations := .v2 tables, stamp := some ⟨CONTROL_SCHEMA_VERSION, manifestDigest⟩ }
  return manifestDigest

/-- In one transaction. -/
def migrateControlSchemaV1ToV2 (catalog : ControlCatalog) (store : ControlStore) :
    Except MigrationError JsString × ControlStore :=
  (migrateControlSchema D H migrationSigner controlResolver sourceLeaseResolver catalog).transaction store

end Migration

end TskProtocol
