import TskProtocol.Core.Validate
import TskProtocol.Server.Store

namespace TskProtocol

namespace TSK_HEADERS

def CLIENT_ID : JsString := JsString.lit "x-tsk-client-id"
def KEY : JsString := JsString.lit "x-tsk-key"
def VERSION : JsString := JsString.lit "x-tsk-version"

end TSK_HEADERS

def TSK_PROTOCOL_VERSION : JsString := JsString.lit "1"

def TSK_MAX_KEY_HEADER_BYTES : Nat := 1024

inductive HeaderValue
  | single (value : JsString)
  | multiple (values : List JsString)
  deriving DecidableEq, Repr

structure TSKRequestData where
  headers : OrderedMap JsString HeaderValue

inductive TSKVerifyError
  | headersMissing | versionMissing | versionUnsupported | keyTooLarge | clientNotFound
  | keyRevoked | keyExpired | keyUsageCapExceeded | validationFailed
  | validation (e : TSKError)
  | commit (e : CommitError)
  deriving DecidableEq, Repr

structure TSKVerifyResult where
  ok : Bool
  clientId : Option JsString := none
  error : Option TSKVerifyError := none
  rotationRequired : Option Bool := none
  requestsRemaining : Option Int := none
  hotpCountersRemaining : Option Int := none
  deriving DecidableEq, Repr

def TSKVerifyResult.fail (e : TSKVerifyError) (clientId : Option JsString := none) :
    TSKVerifyResult where
  ok := false
  error := some e
  clientId := clientId

/-- Several wire values under one name count as no value. -/
def getHeader (req : TSKRequestData) (name : JsString) : Option JsString :=
  match req.headers.get? name with
  | some (.single value) => some value
  | some (.multiple [value]) => some value
  | _ => none

/-- An absent header and an empty one are both falsy. -/
def truthyHeader (req : TSKRequestData) (name : JsString) : Option JsString :=
  (getHeader req name).filter (fun value => value ≠ [])

/-- The checks made before the store is asked. -/
def checkHeaders (req : TSKRequestData) : Except TSKVerifyError (JsString × JsString) :=
  match truthyHeader req TSK_HEADERS.CLIENT_ID, truthyHeader req TSK_HEADERS.KEY with
  | some clientId, some key =>
    match truthyHeader req TSK_HEADERS.VERSION with
    | none => throw .versionMissing
    | some version =>
      if version ≠ TSK_PROTOCOL_VERSION then throw .versionUnsupported
      else if TSK_MAX_KEY_HEADER_BYTES < key.length then throw .keyTooLarge
      else pure (clientId, key)
  | _, _ => throw .headersMissing

/-- The readings of `Date.now()` once the map has arrived. -/
structure VerifyClock where
  lifecycleAt : Int
  validatedAt : Int
  usedAt : Int
  deriving DecidableEq, Repr

/-- What the handler does with the map it was given: it answers, writes the map back as
expired, or asks the store to commit. -/
inductive VerifyAction
  | reply (result : TSKVerifyResult)
  | expire (updated : TumblerMap) (result : TSKVerifyResult)
  | commit (input : ValidationCommitInput) (clientId : Option JsString)
  deriving DecidableEq, Repr

def decideVerify (H : HmacSha256) (config : TSKConfig) (clientId key : JsString)
    (map : TumblerMap) (clock : VerifyClock) : Except CoreError VerifyAction :=
  if map.status = some .revoked then return .reply (.fail .keyRevoked clientId)
  else if map.status = some .expired then return .reply (.fail .keyExpired clientId)
  else if map.expiresAt.any (· < clock.lifecycleAt) then
    return .expire map.expire (.fail .keyExpired clientId)
  else if map.usageCap.any (fun cap => cap ≤ (map.currentCount : Int)) then
    return .expire map.expire (.fail .keyUsageCapExceeded clientId)
  else do
    let result ← validateTSKKey H key map clock.validatedAt config
    if result.ok = false then
      return .reply (.fail (result.error.elim .validationFailed .validation) clientId)
    else
      let counterMatches :=
        (result.counterUpdates.getD ∅).entries.map (fun e => (e.1, e.2.matchedCounter))
      return .commit ⟨counterMatches, clock.usedAt⟩ result.clientId

def VerifyAction.perform (store : MemoryTumblerStore) (clientId : JsString) :
    VerifyAction → Except StoreError TSKVerifyResult × MemoryTumblerStore
  | .reply result => (.ok result, store)
  | .expire updated result =>
    let (outcome, stored) := store.set clientId updated
    (outcome.map (fun _ => result), stored)
  | .commit input mapClientId =>
    let (outcome, stored) := store.commitValidation clientId input
    ((outcome.mapError .core).map (fun committed =>
      if committed.ok = false then
        { ok := false, error := committed.error.map .commit, clientId := clientId }
      else
        { ok := true, clientId := mapClientId,
          rotationRequired := committed.rotationRequired,
          requestsRemaining := committed.requestsRemaining,
          hotpCountersRemaining := committed.hotpCountersRemaining }), stored)

/-- The handler from the arrival of the map on. -/
def resumeVerify (H : HmacSha256) (config : TSKConfig) (store : MemoryTumblerStore)
    (clientId key : JsString) (map : TumblerMap) (clock : VerifyClock) :
    Except StoreError TSKVerifyResult × MemoryTumblerStore :=
  match decideVerify H config clientId key map clock with
  | .error e => (.error (.core e), store)
  | .ok action => action.perform store clientId

/-- The handler run without interruption. -/
def verifyTSKRequest (H : HmacSha256) (config : TSKConfig) (store : MemoryTumblerStore)
    (req : TSKRequestData) (readAt : Int) (clock : VerifyClock) :
    Except StoreError TSKVerifyResult × MemoryTumblerStore :=
  match checkHeaders req with
  | .error e => (.ok (.fail e), store)
  | .ok (clientId, key) =>
    match store.get clientId readAt with
    | (none, stored) => (.ok (.fail .clientNotFound), stored)
    | (some map, stored) => resumeVerify H config stored clientId key map clock

end TskProtocol
