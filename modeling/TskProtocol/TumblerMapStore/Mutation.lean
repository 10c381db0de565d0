import TskProtocol.TumblerMapStore.Map
import TskProtocol.SourceFence.Activation

namespace TskProtocol

/-- A map without its signing material. -/
structure PublicMap where
  map : TumblerMap
  secretless : map.sharedSecret = []
  deriving DecidableEq, Repr

namespace PublicMap

/-- `delete source.sharedSecret` -/
def ofMap (map : TumblerMap) : PublicMap where
  map := { map with sharedSecret := [] }
  secretless := rfl

def toJson (p : PublicMap) : Json := (Json.ofMap p.map).without "sharedSecret"

end PublicMap

structure CredentialSnapshot where
  clientId : JsString
  counter : Int
  publicMap : PublicMap
  publicMapDigest : JsString
  secretDigest : JsString
  deriving DecidableEq, Repr

inductive CredentialMutation
  | snapshot (tumblerId : JsString) (s : CredentialSnapshot)
  | replace (tumblerId : JsString) (counter : Int) (old replacement : CredentialSnapshot)
  | delete (tumblerId clientId : JsString) (counter : Int)
  deriving DecidableEq, Repr

def CredentialSnapshot.members (s : CredentialSnapshot) : List (String × Json) :=
  [("clientId", .str s.clientId), ("counter", .num s.counter), ("publicMap", s.publicMap.toJson),
    ("publicMapDigest", .str s.publicMapDigest), ("secretDigest", .str s.secretDigest)]

def CredentialSnapshot.toJson (s : CredentialSnapshot) : Json := .ofMembers s.members

namespace CredentialMutation

def tumblerId : CredentialMutation → JsString
  | .snapshot tumblerId _ => tumblerId
  | .replace tumblerId _ _ _ => tumblerId
  | .delete tumblerId _ _ => tumblerId

def counter : CredentialMutation → Int
  | .snapshot _ s => s.counter
  | .replace _ counter _ _ => counter
  | .delete _ _ counter => counter

def toJson : CredentialMutation → Json
  | .snapshot tumblerId s => .ofMembers
    (("kind", .str (JsString.lit "tsk.credential.snapshot.v1")) :: ("tumblerId", .str tumblerId) ::
      s.members)
  | .replace tumblerId counter old replacement => .ofMembers
    [("kind", .str (JsString.lit "tsk.credential.replace.v1")), ("tumblerId", .str tumblerId),
      ("counter", .num counter), ("old", old.toJson), ("replacement", replacement.toJson)]
  | .delete tumblerId clientId counter => .ofMembers
    [("kind", .str (JsString.lit "tsk.credential.delete.v1")), ("clientId", .str clientId),
      ("tumblerId", .str tumblerId), ("counter", .num counter)]

end CredentialMutation

namespace Credential

def MAX_REVISION : Int := 2147483647

def sanitizeSnapshot (D : Sha256Bytes) (s : CredentialSnapshot) (name : String) :
    Except CredentialError CredentialSnapshot := do
  let unbound : CredentialError := .validation (name ++ " is not exact, bound, and secret-free")
  let clientId ← checkId s.clientId (name ++ ".clientId")
  let publicMap ← validateMap false s.publicMap.map
  require (publicMap.clientId = clientId ∧ containsSecret [] s.publicMap.toJson = false ∧
    matchesHex64 s.publicMapDigest) unbound
  let publicMapDigest ← digest D s.publicMap.toJson
  require (publicMapDigest = s.publicMapDigest ∧ matchesHex64 s.secretDigest ∧ 1 ≤ s.counter ∧
    s.counter ≤ MAX_REVISION) unbound
  return s

def sanitizeMutation (D : Sha256Bytes) (mutation : CredentialMutation) :
    Except CredentialError CredentialMutation := do
  cloneJson mutation.toJson "credential mutation"
  match mutation with
  | .delete tumblerId clientId counter => do
    let clientId ← checkId clientId "clientId"
    require (tumblerId = clientId ∧ 1 ≤ counter ∧ counter ≤ MAX_REVISION)
      (.validation "credential delete revision invalid")
    return .delete clientId clientId counter
  | .replace tumblerId counter old replacement => do
    let old ← sanitizeSnapshot D old "replace.old"
    let replacement ← sanitizeSnapshot D replacement "replace.replacement"
    require (old.clientId ≠ replacement.clientId ∧ tumblerId = old.clientId ∧ counter = old.counter ∧
      old.publicMap.map.status = some .revoked ∧ isTerminal replacement.publicMap.map.status = false)
      (.validation "credential replacement binding invalid")
    return .replace old.clientId old.counter old replacement
  | .snapshot tumblerId s => do
    let clientId ← checkId s.clientId "clientId"
    let s ← sanitizeSnapshot D s "credential snapshot"
    require (tumblerId = clientId ∧ s.clientId = clientId)
      (.validation "credential snapshot binding invalid")
    return .snapshot clientId s

/-- The public map with its digest, and the digest of the secret. -/
def publicSnapshot (D : Sha256Bytes) (map : TumblerMap) :
    Except CredentialError (PublicMap × JsString × JsString) := do
  cloneJson (.ofMap map) "TSK credential map"
  let source ← validateMap true map
  let clientId ← checkId source.clientId "map.clientId"
  let secretDigest := D.hex source.sharedSecret.utf8
  let publicMap := PublicMap.ofMap source
  require (publicMap.map.clientId = clientId ∧ containsSecret [] publicMap.toJson = false)
    (.validation "TSK public credential snapshot contains secret material")
  let publicMapDigest ← digest D publicMap.toJson
  return (publicMap, publicMapDigest, secretDigest)

/-- `PgHaTumblerMapStore.snapshot` -/
def snapshot (D : Sha256Bytes) (map : TumblerMap) (revision : Int) :
    Except CredentialError CredentialSnapshot := do
  let clientId ← checkId map.clientId "map.clientId"
  require (1 ≤ revision ∧ revision ≤ MAX_REVISION) (.validation "credential revision exhausted")
  (assertTumblerMapCounterState map).mapError .store
  let (publicMap, publicMapDigest, secretDigest) ← publicSnapshot D map
  sanitizeSnapshot D { clientId, counter := revision, publicMap, publicMapDigest, secretDigest }
    "credential snapshot"

/-- `canonicalOpDigest` of a credential mutation. -/
def opDigest (D : Sha256Bytes) (streamId sourceEpoch : JsString) (sequence : Int)
    (fenceToken : JsString) (mutation : CredentialMutation) : Except CredentialError JsString := do
  (assertId streamId).mapError .contract
  (assertId sourceEpoch).mapError .contract
  (assertSequence sequence).mapError .contract
  (assertFenceToken fenceToken).mapError .contract
  let canonical ← canonicalText mutation.toJson
  return D.hex (framed [HA_OUTBOX_DIGEST_DOMAIN, HA_OUTBOX_CONTRACT_VERSION, streamId, sourceEpoch,
    JsString.ofInt sequence, fenceToken, canonical])

end Credential

end TskProtocol
