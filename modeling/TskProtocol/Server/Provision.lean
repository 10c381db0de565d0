import TskProtocol.Core.Generate
import TskProtocol.Server.FileStoreLaws
import TskProtocol.Server.Provisioner

namespace TskProtocol

/-- The texts of `validateProvisionOptions`. -/
inductive ProvisionOptionError
  | keyLength | minTumblers | maxTumblers | tumblerRange | allowedWindows | windowSec (w : Option Int)
  deriving DecidableEq, Repr

def validateProvisionWindows : List (Option Int) → Option ProvisionOptionError
  | [] => none
  | w :: rest =>
    if w.any (fun n => (MIN_WINDOW_SEC : Int) ≤ n && n ≤ MAX_WINDOW_SEC) then validateProvisionWindows rest
    else some (.windowSec w)

def validateProvisionOptions (options : TumblerMapOptions) : Option ProvisionOptionError :=
  if options.keyLength.any (fun n => !n.any fun n => (MIN_KEY_LENGTH : Int) ≤ n && n ≤ MAX_KEY_LENGTH) then some .keyLength
  else if options.minTumblers.any (fun n => !n.any fun n => (MIN_TUMBLERS : Int) ≤ n) then some .minTumblers
  else if options.maxTumblers.any (fun n => !n.any fun n => n ≤ (MAX_TUMBLERS : Int)) then some .maxTumblers
  else if options.minTumblers.join.any (fun low => options.maxTumblers.join.any (· < low)) then some .tumblerRange
  else match options.allowedWindows with
    | none => none
    | some windows => if windows.val = [] then some .allowedWindows else validateProvisionWindows windows.val

inductive AuditEvent
  | provision (clientId : JsString) (requestorId : Option JsString)
  | rateLimitExceeded (requestorId : JsString)
  | update (clientId requestorId reason : JsString)
  | replacement (oldClientId newClientId requestorId reason : JsString)
  deriving DecidableEq, Repr

/-- What a callback does. -/
inductive Callback
  | answers (allowed : Bool)
  | throws
  deriving DecidableEq, Repr

structure ReplacementAuthorizationRequest where
  oldClientId : JsString
  requestorId : JsString
  reason : JsString
  deriving DecidableEq, Repr

inductive LifecycleAction
  | revoke | update
  deriving DecidableEq, Repr

structure LifecycleAuthorizationRequest where
  clientId : JsString
  requestorId : JsString
  reason : JsString
  action : LifecycleAction
  deriving DecidableEq, Repr

/-- The collaborators of a provisioner as they behave in one call.  The audit logger throws at the events it
is true of; a method that it lacks is one that does not throw. -/
structure ProvisionerOptions where
  rateLimiter : Option (JsString → Callback) := none
  auditLogger : AuditEvent → Bool := fun _ => false
  maxClients : Option Int := none
  replacementAuthorizer : Option (ReplacementAuthorizationRequest → Callback) := none
  lifecycleAuthorizer : Option (LifecycleAuthorizationRequest → Callback) := none

/-- Why an operation fails, or throws.  The text of an error that is caught is that of the failure. -/
inductive ProvisionError (ε : Type)
  | rateLimitExceeded | clientLimitReached
  | invalidOptions (e : ProvisionOptionError)
  | invalidRotationWarningRequests | invalidHotpRotationWarningCounters
  | replacementNotAuthorized | replacementNotAvailable | replacementCommitFailed
  | generate (e : GenerateError)
  | store (e : ε)
  | rateLimiter | authorizer | auditLogger
  deriving DecidableEq, Repr

/-- `ok` with the full map, or not. -/
inductive ProvisionResult (ε : Type)
  | ok (tumblerMap : TumblerMap)
  | failed (error : ProvisionError ε)
  deriving DecidableEq, Repr

/-- The tumbler map store of a provisioner: it holds maps, drops one that has outlived its age when it is
read, and has changed nothing where `set` or `replaceCredential` fails. -/
structure TumblerMapStore (σ ε : Type) where
  maps : σ → OrderedMap JsString TumblerMap
  maxAgeMs : σ → Int
  list : σ → Int → Except ε (List JsString) × σ
  get : σ → JsString → Int → Except ε (Option TumblerMap) × σ
  set : σ → JsString → TumblerMap → Int → Except ε Unit × σ
  replaceCredential : σ → JsString → TumblerMap → Int → Except ε Bool × σ
  list_maps (s : σ) (now : Int) : maps (list s now).2 = maps s
  get_maps (s : σ) (clientId : JsString) (now : Int) : maps (get s clientId now).2 = maps s ∨
    (∃ map, (maps s).get? clientId = some map ∧ 0 < maxAgeMs s ∧ maxAgeMs s < now - map.createdAt) ∧
      (get s clientId now).1 = .ok none ∧ maps (get s clientId now).2 = (maps s).erase clientId
  set_throws (s : σ) (clientId : JsString) (map : TumblerMap) (now : Int) (e : ε)
    (h : (set s clientId map now).1 = .error e) : maps (set s clientId map now).2 = maps s
  replace_fails (s : σ) (oldClientId : JsString) (replacement : TumblerMap) (now : Int)
    (h : (replaceCredential s oldClientId replacement now).1 ≠ .ok true) :
    maps (replaceCredential s oldClientId replacement now).2 = maps s

namespace TSKProvisioner

variable {σ ε : Type}

/-- The rate limit is per requestor; a request that names none is not limited. -/
def checkRateLimit (p : ProvisionerOptions) (requestorId : Option JsString) :
    Except (ProvisionError ε) (Option (ProvisionError ε)) :=
  match p.rateLimiter, requestorId.filter (· ≠ []) with
  | some allow, some requestorId =>
    match allow requestorId with
    | .throws => .error .rateLimiter
    | .answers true => .ok none
    | .answers false =>
      if p.auditLogger (.rateLimitExceeded requestorId) then .error .auditLogger
      else .ok (some .rateLimitExceeded)
  | _, _ => .ok none

/-- What is checked before a client is made: the number of clients is read off the store. -/
def admitRequest (S : TumblerMapStore σ ε) (p : ProvisionerOptions) (s : σ) (requestorId : Option JsString) (listedAt : Int) :
    Except (ProvisionError ε) (Option (ProvisionError ε)) × σ :=
  match checkRateLimit p requestorId, p.maxClients with
  | .ok none, some maxClients =>
    match S.list s listedAt with
    | (.error e, s) => (.error (.store e), s)
    | (.ok existing, s) => (.ok (if maxClients ≤ existing.length then some .clientLimitReached else none), s)
  | checked, _ => (checked, s)

/-- The lifecycle metadata that is given. -/
def applyLifecycle (lifecycle : ReplacementLifecycle) (map : TumblerMap) : Except (ProvisionError ε) TumblerMap := do
  let maxRequests := (lifecycle.maxRequests.filter (0 < ·)).or map.maxRequests
  require (lifecycle.rotationWarningRequests.all fun warning => 1 ≤ warning && !maxRequests.any (· < warning))
    .invalidRotationWarningRequests
  require (lifecycle.hotpRotationWarningCounters.all isValidHOTPWarning) .invalidHotpRotationWarningCounters
  return { map with
    label := lifecycle.label.or map.label
    expiresAt := lifecycle.expiresAt.or map.expiresAt
    maxRequests := maxRequests
    rotationWarningRequests := lifecycle.rotationWarningRequests.or map.rotationWarningRequests
    hotpRotationWarningCounters := lifecycle.hotpRotationWarningCounters.or map.hotpRotationWarningCounters }

/-- The map of a new client, from the random bytes that are drawn for it. -/
def draft (options : TumblerMapOptions) (lifecycle : Option ReplacementLifecycle) (now : Int) (tape : List UInt8) :
    Except (ProvisionError ε) TumblerMap := do
  let (generated, _) ← (generateTumblerMap options now tape).mapError .generate
  let map ← match lifecycle with
    | none => .ok generated
    | some lifecycle => applyLifecycle lifecycle generated
  return { map with status := some .active, requestCount := some 0, lastUsedAt := some none }

/-- What follows the checks. -/
def insert (S : TumblerMapStore σ ε) (p : ProvisionerOptions) (s : σ) (options : TumblerMapOptions)
    (requestorId : Option JsString) (lifecycle : Option ReplacementLifecycle) (now : Int) (tape : List UInt8) :
    ProvisionResult ε × σ :=
  match validateProvisionOptions options with
  | some e => (.failed (.invalidOptions e), s)
  | none =>
    match draft options lifecycle now tape with
    | .error e => (.failed e, s)
    | .ok map =>
      match S.set s map.clientId map now with
      | (.error e, s) => (.failed (.store e), s)
      | (.ok (), s) =>
        if p.auditLogger (.provision map.clientId requestorId) then (.failed .auditLogger, s) else (.ok map, s)

def provision (S : TumblerMapStore σ ε) (p : ProvisionerOptions) (s : σ) (options : TumblerMapOptions)
    (requestorId : Option JsString) (lifecycle : Option ReplacementLifecycle) (listedAt now : Int)
    (tape : List UInt8) : Except (ProvisionError ε) (ProvisionResult ε) × σ :=
  match admitRequest S p s requestorId listedAt with
  | (.error e, s) => (.error e, s)
  | (.ok (some e), s) => (.ok (.failed e), s)
  | (.ok none, s) =>
    let (result, s) := insert S p s options requestorId lifecycle now tape
    (.ok result, s)

/-- Which of the checks of `ReplacementLifecycle.apply` fails. -/
def lifecycleError (lifecycle : ReplacementLifecycle) (generated : TumblerMap) : ProvisionError ε :=
  let maxRequests := (lifecycle.maxRequests.filter (0 < ·)).or generated.maxRequests
  if lifecycle.rotationWarningRequests.any (fun warning => warning < 1 || maxRequests.any (· < warning)) then
    .invalidRotationWarningRequests
  else .invalidHotpRotationWarningCounters

def draftReplacement (options : TumblerMapOptions) (lifecycle : ReplacementLifecycle) (now : Int)
    (tape : List UInt8) : Except (ProvisionError ε) TumblerMap := do
  let (generated, _) ← (generateTumblerMap options now tape).mapError .generate
  orThrow (lifecycle.apply generated) (lifecycleError lifecycle generated)

/-- What follows the reading of an old map that may be replaced. -/
def commitReplacement (S : TumblerMapStore σ ε) (p : ProvisionerOptions) (s : σ) (oldClientId : JsString)
    (options : TumblerMapOptions) (lifecycle : ReplacementLifecycle) (requestorId reason : JsString) (now : Int)
    (tape : List UInt8) : ProvisionResult ε × σ :=
  match validateProvisionOptions options with
  | some e => (.failed (.invalidOptions e), s)
  | none =>
    match draftReplacement options lifecycle now tape with
    | .error e => (.failed e, s)
    | .ok replacement =>
      match S.replaceCredential s oldClientId replacement now with
      | (.error e, s) => (.failed (.store e), s)
      | (.ok false, s) => (.failed .replacementCommitFailed, s)
      | (.ok true, s) =>
        if p.auditLogger (.replacement oldClientId replacement.clientId requestorId reason) then
          (.failed .auditLogger, s)
        else (.ok replacement, s)

def replaceKey (S : TumblerMapStore σ ε) (p : ProvisionerOptions) (s : σ) (oldClientId : JsString)
    (options : TumblerMapOptions) (lifecycle : ReplacementLifecycle) (requestorId reason : JsString)
    (readAt now : Int) (tape : List UInt8) : Except (ProvisionError ε) (ProvisionResult ε) × σ :=
  match p.replacementAuthorizer.filter (fun _ => requestorId ≠ [] && reason ≠ []) with
  | none => (.ok (.failed .replacementNotAuthorized), s)
  | some authorize =>
    match authorize ⟨oldClientId, requestorId, reason⟩ with
    | .throws => (.error .authorizer, s)
    | .answers false => (.ok (.failed .replacementNotAuthorized), s)
    | .answers true =>
      match S.get s oldClientId readAt with
      | (.error e, s) => (.error (.store e), s)
      | (.ok none, s) => (.ok (.failed .replacementNotAvailable), s)
      | (.ok (some old), s) =>
        if replaceable old = false then (.ok (.failed .replacementNotAvailable), s)
        else
          let (result, s) := commitReplacement S p s oldClientId options lifecycle requestorId reason now tape
          (.ok result, s)

/-- What follows the reading of a map that is to be updated. -/
def commitUpdate (S : TumblerMapStore σ ε) (p : ProvisionerOptions) (s : σ) (clientId : JsString)
    (existing : TumblerMap) (updates : KeyUpdates) (requestorId reason : JsString) (now : Int) :
    Except (ProvisionError ε) Bool × σ :=
  match updates.apply existing with
  | none => (.ok false, s)
  | some updated =>
    match S.set s clientId updated now with
    | (.error e, s) => (.error (.store e), s)
    | (.ok (), s) =>
      if p.auditLogger (.update clientId requestorId reason) then (.error .auditLogger, s) else (.ok true, s)

def updateKey (S : TumblerMapStore σ ε) (p : ProvisionerOptions) (s : σ) (clientId : JsString)
    (updates : KeyUpdates) (requestorId reason : JsString) (readAt now : Int) :
    Except (ProvisionError ε) Bool × σ :=
  match p.lifecycleAuthorizer.filter (fun _ => requestorId ≠ [] && reason ≠ []) with
  | none => (.ok false, s)
  | some authorize =>
    match authorize ⟨clientId, requestorId, reason, .update⟩ with
    | .throws => (.error .authorizer, s)
    | .answers false => (.ok false, s)
    | .answers true =>
      match S.get s clientId readAt with
      | (.error e, s) => (.error (.store e), s)
      | (.ok none, s) => (.ok false, s)
      | (.ok (some existing), s) => commitUpdate S p s clientId existing updates requestorId reason now

end TSKProvisioner

end TskProtocol
