import TskProtocol.Core.Crypto
import TskProtocol.Lib.HashChain
import TskProtocol.Principal.Payload

namespace TskProtocol

def PRINCIPAL_GENESIS_HASH : JsString := List.replicate 64 48
def PRINCIPAL_BINDING_PURPOSE : JsString := JsString.lit "tsk.principal.session.bind.v1"

abbrev AuthorizationContext := OrderedMap JsString PayloadValue

structure PrincipalRecord where
  principalId : JsString
  principalDigest : JsString
  createdAt : Int
  updatedAt : Int
  authorizationContext : AuthorizationContext
  keyVersion : Nat
  sessionIds : List JsString
  activeSessionIds : List JsString
  streamIds : List JsString
  checkpointHead : JsString
  checkpointSeq : Int

structure PrincipalStreamRecord where
  principalId : JsString
  streamId : JsString
  provider : JsString
  agentInstanceId : JsString
  providerSessionIds : List JsString
  seq : Int
  headHash : JsString
  deriving DecidableEq

structure PrincipalSessionProof where
  challengeNonce : JsString
  signedAt : Int
  signature : JsString

structure BindSessionInput where
  principalSecret : JsString
  proof : PrincipalSessionProof
  provider : JsString
  providerSessionId : JsString
  agentInstanceId : Option JsString := none
  policyDigest : JsString
  runtimeMetadata : OrderedMap JsString PayloadValue := ∅
  authorizationContext : Option AuthorizationContext := none
  maxProofAgeMs : Option Int := none

inductive PrincipalEventType
  | session_bound | session_event | session_closed | key_rotated | authorization_updated
  deriving DecidableEq, Repr

def PrincipalEventType.text : PrincipalEventType → JsString
  | .session_bound => JsString.lit "session_bound"
  | .session_event => JsString.lit "session_event"
  | .session_closed => JsString.lit "session_closed"
  | .key_rotated => JsString.lit "key_rotated"
  | .authorization_updated => JsString.lit "authorization_updated"

/-- What the hash of an event covers. -/
structure PrincipalStreamEntry where
  principalId : JsString
  streamId : JsString
  provider : JsString
  providerSessionId : Option JsString
  agentInstanceId : JsString
  seq : Int
  timestamp : Int
  eventType : PrincipalEventType
  policyDigest : Option JsString
  proofDigest : Option JsString
  payloadHash : JsString
  payload : Option PayloadRecord
  prevHash : JsString

structure PrincipalStreamEvent extends PrincipalStreamEntry where
  chainHash : JsString
  bindingHash : Option JsString

structure StreamHead where
  seq : Int
  chainHash : JsString
  deriving DecidableEq

abbrev StreamHeads := OrderedMap JsString StreamHead

/-- What the hash of a checkpoint covers. -/
structure PrincipalCheckpointEntry where
  principalId : JsString
  seq : Int
  timestamp : Int
  streamHeads : StreamHeads
  prevHash : JsString

structure PrincipalCheckpoint extends PrincipalCheckpointEntry where
  checkpointHash : JsString

structure SessionBinding where
  principalId : JsString
  streamId : JsString
  provider : JsString
  providerSessionId : JsString
  agentInstanceId : JsString
  boundAt : Int
  policyDigest : JsString
  authorizationContext : AuthorizationContext
  runtime : PayloadValue
  prevHash : JsString
  bindingHash : JsString
  checkpointHash : JsString

/-- What a call finds outside of the ledger. -/
structure CaptureMoment where
  /-- The clock at the proof check, at the making of a record, of an event and of a checkpoint. -/
  verifiedAt : Int
  createdAt : Int
  recordedAt : Int
  checkpointedAt : Int
  capturedAt : JsString
  /-- What the environment says about the runtime. -/
  env : List (JsString × Option JsString)

section Hashing

variable (S : Sha256) (H : HmacSha256)

def optionalStr : Option JsString → PayloadValue
  | some s => .str s
  | none => .null

def StreamHead.toValue (head : StreamHead) : PayloadValue := .obj
  [(JsString.lit "seq", .num head.seq), (JsString.lit "chainHash", .str head.chainHash)]

def headsValue (heads : StreamHeads) : PayloadValue :=
  .obj (heads.entries.map fun e => (e.1, e.2.toValue))

/-- The fields that the hash of an event covers, ahead of the payload. -/
def PrincipalStreamEntry.fields (event : PrincipalStreamEntry) : List PayloadValue :=
  [.num event.seq, .str event.prevHash, .str event.principalId, .str event.streamId,
    .str event.provider, optionalStr event.providerSessionId, .str event.agentInstanceId,
    .num event.timestamp, .str event.eventType.text, optionalStr event.policyDigest,
    optionalStr event.proofDigest, .str event.payloadHash]

def PrincipalStreamEntry.text (event : PrincipalStreamEntry) : Except PrincipalError JsString :=
  canonicalJson (.arr (event.fields ++ [.obj (event.payload.getD [])]))

def computeStreamEventHash (event : PrincipalStreamEntry) : Except PrincipalError JsString := do
  return S.hex (← event.text)

def PrincipalCheckpointEntry.fields (checkpoint : PrincipalCheckpointEntry) : List PayloadValue :=
  [.num checkpoint.seq, .str checkpoint.prevHash, .str checkpoint.principalId, .num checkpoint.timestamp]

def PrincipalCheckpointEntry.text (checkpoint : PrincipalCheckpointEntry) :
    Except PrincipalError JsString :=
  canonicalJson (.arr (checkpoint.fields ++ [headsValue checkpoint.streamHeads]))

def computeCheckpointHash (checkpoint : PrincipalCheckpointEntry) : Except PrincipalError JsString := do
  return S.hex (← checkpoint.text)

def principalDigestFromSecret (principalSecret : JsString) : Except PrincipalError JsString := do
  (validateHexSecret principalSecret).mapError .core
  return S.hex (JsString.lit "tsk-principal-v1:" ++ principalSecret)

def principalIdFromDigest (principalDigest : JsString) : JsString :=
  JsString.lit "principal_" ++ (S.hex (JsString.lit "tsk-principal-id-v1:" ++ principalDigest)).take 24

def makeStreamId (principalId provider agentInstanceId : JsString) : JsString :=
  JsString.lit "stream_" ++ (S.hex (principalId ++ JsString.lit ":" ++ provider ++ JsString.lit ":" ++
    agentInstanceId)).take 24

def BindSessionInput.agentInstance (input : BindSessionInput) : JsString :=
  input.agentInstanceId.getD (input.provider ++ JsString.lit ":" ++ input.providerSessionId)

def buildPrincipalSessionProofPayload (input : BindSessionInput) (principalDigest : JsString) :
    PayloadValue := .obj
  [(JsString.lit "purpose", .str PRINCIPAL_BINDING_PURPOSE),
    (JsString.lit "principal_digest", .str principalDigest),
    (JsString.lit "provider", .str input.provider),
    (JsString.lit "provider_session_id", .str input.providerSessionId),
    (JsString.lit "agent_instance_id", .str input.agentInstance),
    (JsString.lit "policy_digest", .str input.policyDigest),
    (JsString.lit "challenge_nonce", .str input.proof.challengeNonce),
    (JsString.lit "signed_at", .num input.proof.signedAt)]

def isBlank (s : JsString) : Bool := s.all isJsWhitespace

def assertBindingInput (input : BindSessionInput) : Except PrincipalError Unit := do
  require (isBlank input.provider = false) .providerRequired
  require (isBlank input.providerSessionId = false) .providerSessionIdRequired
  require (isBlank input.policyDigest = false) .policyDigestRequired

def signPrincipalSessionProof (principalSecret : JsString) (payload : PayloadValue) :
    Except PrincipalError JsString := do
  (hmac H principalSecret (← canonicalJson payload)).mapError .core

def verifyPrincipalSessionProof (input : BindSessionInput) (digest : JsString) (now : Int) :
    Except PrincipalError Unit := do
  require ((now - input.proof.signedAt).natAbs ≤ input.maxProofAgeMs.getD 300000) .proofExpired
  require (16 ≤ input.proof.challengeNonce.length) .nonceTooShort
  let expected ← signPrincipalSessionProof H input.principalSecret
    (buildPrincipalSessionProofPayload input digest)
  require (constantTimeEqual expected input.proof.signature) .proofInvalid

/-- The fields of the environment under those of the caller. -/
def collectRuntimeMetadata (overrides : OrderedMap JsString PayloadValue) (moment : CaptureMoment) :
    PayloadValue :=
  let envMetadata : OrderedMap JsString PayloadValue := .ofEntries
    ((JsString.lit "capturedAt", .str moment.capturedAt) :: (JsString.lit "source", .str (JsString.lit "env")) ::
      moment.env.map fun e => (e.1, match e.2 with | some s => .str s | none => .undefined))
  let capturedAt := match overrides.get? (JsString.lit "capturedAt") with
    | none | some .undefined | some .null => .str moment.capturedAt
    | some value => value
  let source := JsString.lit (if 0 < overrides.size then "combined" else "env")
  .sanitize (.obj (((envMetadata.insertAll overrides.entries).set (JsString.lit "capturedAt")
    capturedAt).set (JsString.lit "source") (.str source)).entries)

end Hashing

end TskProtocol
