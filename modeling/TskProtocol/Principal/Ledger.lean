import TskProtocol.Principal.Session

namespace TskProtocol

structure MemoryPrincipalSessionLedger where
  principals : OrderedMap JsString PrincipalRecord := ∅
  streams : OrderedMap JsString PrincipalStreamRecord := ∅
  events : OrderedMap JsString (List PrincipalStreamEvent) := ∅
  checkpoints : OrderedMap JsString (List PrincipalCheckpoint) := ∅

inductive PrincipalBreak
  | principal_not_found | stream_missing
  | non_contiguous_stream_seq | broken_stream_link | stream_entry_hash_mismatch | stream_head_mismatch
  | non_contiguous_checkpoint_seq | broken_checkpoint_link | checkpoint_hash_mismatch
  | principal_checkpoint_head_mismatch | checkpoint_stream_heads_mismatch
  deriving DecidableEq, Repr

structure PrincipalChainVerifyResult where
  valid : Bool
  principalId : JsString
  brokenAt : Option JsString := none
  reason : Option PrincipalBreak := none
  deriving DecidableEq, Repr

/-- `streamHeads[streamId] = head` -/
def StreamHeads.assign (heads : StreamHeads) (streamId : JsString) (head : StreamHead) : StreamHeads :=
  if streamId = PROTO then heads else heads.set streamId head

/-- What `appendEventToStream` is told about an event. -/
structure EventOptions where
  providerSessionId : Option JsString := none
  policyDigest : Option JsString := none
  proofDigest : Option JsString := none
  binding : Bool := false

namespace MemoryPrincipalSessionLedger

variable (S : Sha256) (H : HmacSha256)

def eventsOf (ledger : MemoryPrincipalSessionLedger) (streamId : JsString) : List PrincipalStreamEvent :=
  (ledger.events.get? streamId).getD []

def checkpointsOf (ledger : MemoryPrincipalSessionLedger) (principalId : JsString) :
    List PrincipalCheckpoint := (ledger.checkpoints.get? principalId).getD []

def upsertPrincipal (ledger : MemoryPrincipalSessionLedger) (principalDigest : JsString)
    (authorizationContext : Option AuthorizationContext) (now : Int) :
    PrincipalRecord × MemoryPrincipalSessionLedger :=
  let principalId := principalIdFromDigest S principalDigest
  match ledger.principals.get? principalId with
  | some existing => (existing, ledger)
  | none =>
    let principal : PrincipalRecord := {
      principalId
      principalDigest
      createdAt := now
      updatedAt := now
      authorizationContext := authorizationContext.getD ∅
      keyVersion := 1
      sessionIds := []
      activeSessionIds := []
      streamIds := []
      checkpointHead := PRINCIPAL_GENESIS_HASH
      checkpointSeq := 0 }
    (principal, { ledger with
      principals := ledger.principals.set principalId principal
      checkpoints := ledger.checkpoints.set principalId [] })

/-- `if (!list.includes(id)) list.push(id)` -/
def pushNew (id : JsString) (list : List JsString) : List JsString :=
  if id ∈ list then list else list ++ [id]

def upsertStream (ledger : MemoryPrincipalSessionLedger) (principal : PrincipalRecord)
    (streamId provider agentInstanceId providerSessionId : JsString) :
    PrincipalStreamRecord × PrincipalRecord × MemoryPrincipalSessionLedger :=
  match ledger.streams.get? streamId with
  | some existing =>
    let existing := { existing with
      providerSessionIds := pushNew providerSessionId existing.providerSessionIds }
    (existing, principal, { ledger with streams := ledger.streams.set streamId existing })
  | none =>
    let stream : PrincipalStreamRecord := {
      principalId := principal.principalId
      streamId
      provider
      agentInstanceId
      providerSessionIds := [providerSessionId]
      seq := 0
      headHash := PRINCIPAL_GENESIS_HASH }
    let principal := { principal with streamIds := principal.streamIds ++ [streamId] }
    (stream, principal, { ledger with
      principals := ledger.principals.set principal.principalId principal
      streams := ledger.streams.set streamId stream
      events := ledger.events.set streamId [] })

def appendEventToStream (ledger : MemoryPrincipalSessionLedger) (stream : PrincipalStreamRecord)
    (eventType : PrincipalEventType) (payload : PayloadRecord) (options : EventOptions) (now : Int) :
    Except PrincipalError (PrincipalStreamEvent × MemoryPrincipalSessionLedger) := do
  let sanitizedPayload := PayloadValue.sanitizeMembers payload
  let seq := stream.seq + 1
  let payloadHash := S.hex (← canonicalJson (.obj sanitizedPayload))
  let base : PrincipalStreamEntry := {
    principalId := stream.principalId
    streamId := stream.streamId
    provider := stream.provider
    providerSessionId := options.providerSessionId
    agentInstanceId := stream.agentInstanceId
    seq
    timestamp := now
    eventType
    policyDigest := options.policyDigest
    proofDigest := options.proofDigest
    payloadHash
    payload := some sanitizedPayload
    prevHash := stream.headHash }
  let chainHash ← computeStreamEventHash S base
  let event : PrincipalStreamEvent := { base with
    chainHash
    bindingHash := if options.binding then some chainHash else none }
  return (event, { ledger with
    events := ledger.events.set stream.streamId (ledger.eventsOf stream.streamId ++ [event])
    streams := ledger.streams.set stream.streamId { stream with seq, headHash := chainHash } })

/-- The heads of the streams that are there. -/
def headsOf (ledger : MemoryPrincipalSessionLedger) (heads : StreamHeads) : List JsString → StreamHeads
  | [] => heads
  | streamId :: rest =>
    match ledger.streams.get? streamId with
    | some stream => ledger.headsOf (heads.assign streamId ⟨stream.seq, stream.headHash⟩) rest
    | none => ledger.headsOf heads rest

def appendCheckpoint (ledger : MemoryPrincipalSessionLedger) (principal : PrincipalRecord) (now : Int) :
    Except PrincipalError (PrincipalCheckpoint × MemoryPrincipalSessionLedger) := do
  let base : PrincipalCheckpointEntry := {
    principalId := principal.principalId
    seq := principal.checkpointSeq + 1
    timestamp := now
    streamHeads := ledger.headsOf ∅ principal.streamIds
    prevHash := principal.checkpointHead }
  let checkpointHash ← computeCheckpointHash S base
  let checkpoint : PrincipalCheckpoint := { base with checkpointHash }
  return (checkpoint, { ledger with
    checkpoints := ledger.checkpoints.set principal.principalId
      (ledger.checkpointsOf principal.principalId ++ [checkpoint])
    principals := ledger.principals.set principal.principalId { principal with
      checkpointSeq := checkpoint.seq
      checkpointHead := checkpointHash
      updatedAt := checkpoint.timestamp } })

/-- The last two writes of a call.  What has been written before them stays when one throws. -/
def appendBoth (ledger : MemoryPrincipalSessionLedger) (principal : PrincipalRecord)
    (stream : PrincipalStreamRecord) (eventType : PrincipalEventType) (payload : PayloadRecord)
    (options : EventOptions) (moment : CaptureMoment) :
    Except PrincipalError (PrincipalStreamEvent × PrincipalCheckpoint) × MemoryPrincipalSessionLedger :=
  match ledger.appendEventToStream S stream eventType payload options moment.recordedAt with
  | .error e => (.error e, ledger)
  | .ok (event, appended) =>
    match appended.appendCheckpoint S principal moment.checkpointedAt with
    | .error e => (.error e, appended)
    | .ok (checkpoint, stored) => (.ok (event, checkpoint), stored)

def bindingPayload (input : BindSessionInput) (runtime : PayloadValue)
    (authorizationContext : AuthorizationContext) : PayloadRecord :=
  [(JsString.lit "provider", .str input.provider),
    (JsString.lit "providerSessionId", .str input.providerSessionId),
    (JsString.lit "agentInstanceId", .str input.agentInstance),
    (JsString.lit "policyDigest", .str input.policyDigest), (JsString.lit "runtime", runtime),
    (JsString.lit "authorizationContext", .obj authorizationContext.entries)]

def proofValue (proof : PrincipalSessionProof) : PayloadValue := .obj
  [(JsString.lit "challengeNonce", .str proof.challengeNonce),
    (JsString.lit "signedAt", .num proof.signedAt), (JsString.lit "signature", .str proof.signature)]

/-- A principal's record with the session of a binding in it. -/
def enterSession (input : BindSessionInput) (principal : PrincipalRecord) : PrincipalRecord :=
  { principal with
    sessionIds := pushNew input.providerSessionId principal.sessionIds
    activeSessionIds := pushNew input.providerSessionId principal.activeSessionIds
    authorizationContext := match input.authorizationContext with
      | some context => principal.authorizationContext.insertAll context.entries
      | none => principal.authorizationContext }

/-- The checks that come before the first write, with the digest of the principal. -/
def checkBinding (input : BindSessionInput) (now : Int) : Except PrincipalError JsString := do
  assertBindingInput input
  (validateHexSecret input.principalSecret).mapError .core
  let principalDigest ← principalDigestFromSecret S input.principalSecret
  verifyPrincipalSessionProof H input principalDigest now
  return principalDigest

def bindSession (ledger : MemoryPrincipalSessionLedger) (input : BindSessionInput)
    (moment : CaptureMoment) : Except PrincipalError SessionBinding × MemoryPrincipalSessionLedger :=
  match checkBinding S H input moment.verifiedAt with
  | .error e => (.error e, ledger)
  | .ok principalDigest =>
    let (principal, ledger) :=
      ledger.upsertPrincipal S principalDigest input.authorizationContext moment.createdAt
    let streamId := makeStreamId S principal.principalId input.provider input.agentInstance
    let (stream, principal, ledger) := ledger.upsertStream principal streamId input.provider
      input.agentInstance input.providerSessionId
    let principal := enterSession input principal
    let ledger := { ledger with principals := ledger.principals.set principal.principalId principal }
    let runtime := collectRuntimeMetadata input.runtimeMetadata moment
    match canonicalJson (proofValue input.proof) with
    | .error e => (.error e, ledger)
    | .ok proof =>
      let (outcome, ledger) := ledger.appendBoth S principal stream .session_bound
        (bindingPayload input runtime principal.authorizationContext)
        { providerSessionId := some input.providerSessionId
          policyDigest := some input.policyDigest
          proofDigest := some (S.hex proof)
          binding := true } moment
      (outcome.map fun appended => {
        principalId := principal.principalId
        streamId
        provider := input.provider
        providerSessionId := input.providerSessionId
        agentInstanceId := input.agentInstance
        boundAt := appended.1.timestamp
        policyDigest := input.policyDigest
        authorizationContext := principal.authorizationContext
        runtime
        prevHash := appended.1.prevHash
        bindingHash := appended.1.chainHash
        checkpointHash := appended.2.checkpointHash }, ledger)

def mustPrincipal (ledger : MemoryPrincipalSessionLedger) (principalId : JsString) :
    Except PrincipalError PrincipalRecord := orThrow (ledger.principals.get? principalId) .unknownPrincipal

def appendStreamEvent (ledger : MemoryPrincipalSessionLedger) (principalId streamId : JsString)
    (eventType : PrincipalEventType) (payload : PayloadRecord) (moment : CaptureMoment) :
    Except PrincipalError PrincipalStreamEvent × MemoryPrincipalSessionLedger :=
  match ledger.mustPrincipal principalId with
  | .error e => (.error e, ledger)
  | .ok principal =>
    match ledger.streams.get? streamId with
    | none => (.error .unknownStream, ledger)
    | some stream =>
      if stream.principalId ≠ principalId then (.error .unknownStream, ledger)
      else
        let (outcome, ledger) := ledger.appendBoth S principal stream eventType payload {} moment
        (outcome.map (·.1), ledger)

def closeSession (ledger : MemoryPrincipalSessionLedger) (principalId streamId providerSessionId : JsString)
    (moment : CaptureMoment) : Except PrincipalError Unit × MemoryPrincipalSessionLedger :=
  match ledger.mustPrincipal principalId with
  | .error e => (.error e, ledger)
  | .ok principal =>
    let principal := { principal with
      activeSessionIds := principal.activeSessionIds.filter (· ≠ providerSessionId) }
    let ledger := { ledger with principals := ledger.principals.set principalId principal }
    let (outcome, ledger) := ledger.appendStreamEvent S principalId streamId .session_closed
      [(JsString.lit "providerSessionId", .str providerSessionId)] moment
    (outcome.map fun _ => (), ledger)

end MemoryPrincipalSessionLedger

section Verify

variable (S : Sha256)

def streamChain : HashChain PrincipalStreamEvent JsString PrincipalError where
  seq := (·.seq)
  prev := (·.prevHash)
  hash := (·.chainHash)
  recompute event := computeStreamEventHash S event.toPrincipalStreamEntry

def checkpointChain : HashChain PrincipalCheckpoint JsString PrincipalError where
  seq := (·.seq)
  prev := (·.prevHash)
  hash := (·.checkpointHash)
  recompute checkpoint := computeCheckpointHash S checkpoint.toPrincipalCheckpointEntry

/-- A verification that did not go through: a throw, or a result that is not valid. -/
abbrev VerifyFault := PrincipalError ⊕ (JsString × PrincipalBreak)

def streamFault (streamId : JsString) : ChainBreak PrincipalStreamEvent PrincipalError → VerifyFault
  | .nonContiguous event => .inr (streamId ++ JsString.lit ":" ++ JsString.ofInt event.seq,
      .non_contiguous_stream_seq)
  | .brokenLink event => .inr (streamId ++ JsString.lit ":" ++ JsString.ofInt event.seq,
      .broken_stream_link)
  | .hashMismatch event => .inr (streamId ++ JsString.lit ":" ++ JsString.ofInt event.seq,
      .stream_entry_hash_mismatch)
  | .thrown e => .inl e

def checkpointFault : ChainBreak PrincipalCheckpoint PrincipalError → VerifyFault
  | .nonContiguous checkpoint => .inr (JsString.lit "checkpoint:" ++ JsString.ofInt checkpoint.seq,
      .non_contiguous_checkpoint_seq)
  | .brokenLink checkpoint => .inr (JsString.lit "checkpoint:" ++ JsString.ofInt checkpoint.seq,
      .broken_checkpoint_link)
  | .hashMismatch checkpoint => .inr (JsString.lit "checkpoint:" ++ JsString.ofInt checkpoint.seq,
      .checkpoint_hash_mismatch)
  | .thrown e => .inl e

namespace MemoryPrincipalSessionLedger

/-- The chains of the listed streams, and their heads. -/
def verifyStreams (ledger : MemoryPrincipalSessionLedger) (heads : StreamHeads) :
    List JsString → Except VerifyFault StreamHeads
  | [] => .ok heads
  | streamId :: rest => do
    let stream ← orThrow (ledger.streams.get? streamId) (.inr (streamId, .stream_missing))
    let entries := ledger.eventsOf streamId
    let headHash ← ((streamChain S).verifyFrom 0 PRINCIPAL_GENESIS_HASH entries).mapError
      (streamFault streamId)
    require (stream.seq = entries.length ∧ stream.headHash = headHash)
      (.inr (streamId, .stream_head_mismatch))
    ledger.verifyStreams (heads.assign streamId ⟨stream.seq, stream.headHash⟩) rest

def verifyChains (ledger : MemoryPrincipalSessionLedger) (principal : PrincipalRecord)
    (principalId : JsString) : Except VerifyFault Unit := do
  let currentHeads ← ledger.verifyStreams S ∅ principal.streamIds
  let checkpoints := ledger.checkpointsOf principalId
  let _ ← ((checkpointChain S).verifyFrom 0 PRINCIPAL_GENESIS_HASH checkpoints).mapError checkpointFault
  let latest ← orThrow checkpoints.getLast?
    (.inr (JsString.lit "checkpoint:head", .principal_checkpoint_head_mismatch))
  require (latest.checkpointHash = principal.checkpointHead ∧ latest.seq = principal.checkpointSeq)
    (.inr (JsString.lit "checkpoint:head", .principal_checkpoint_head_mismatch))
  let recorded ← (canonicalJson (headsValue latest.streamHeads)).mapError .inl
  let current ← (canonicalJson (headsValue currentHeads)).mapError .inl
  require (recorded = current)
    (.inr (JsString.lit "checkpoint:latest", .checkpoint_stream_heads_mismatch))

def verifyPrincipalContinuity (ledger : MemoryPrincipalSessionLedger) (principalId : JsString) :
    Except PrincipalError PrincipalChainVerifyResult :=
  match ledger.principals.get? principalId with
  | none => .ok { valid := false, principalId, reason := some .principal_not_found }
  | some principal =>
    match ledger.verifyChains S principal principalId with
    | .ok () => .ok { valid := true, principalId }
    | .error (.inl e) => .error e
    | .error (.inr (brokenAt, reason)) =>
      .ok { valid := false, principalId, brokenAt := some brokenAt, reason := some reason }

end MemoryPrincipalSessionLedger

end Verify

end TskProtocol
