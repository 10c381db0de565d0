import TskProtocol.Bridge.UltraVerify

namespace TskProtocol

namespace TSK_RESPONSE_HEADERS

def AUTHENTICATED : JsString := JsString.lit "x-tsk-authenticated"
def ROTATION_REQUIRED : JsString := JsString.lit "x-tsk-rotation-required"
def REQUESTS_REMAINING : JsString := JsString.lit "x-tsk-requests-remaining"
def HOTP_COUNTERS_REMAINING : JsString := JsString.lit "x-tsk-hotp-counters-remaining"

def names : List JsString :=
  [AUTHENTICATED, ROTATION_REQUIRED, REQUESTS_REMAINING, HOTP_COUNTERS_REMAINING]

end TSK_RESPONSE_HEADERS

def buildTSKResponseHeaders (result : TSKVerifyResult) : List (JsString × JsString) :=
  if result.ok = false then []
  else
    [(TSK_RESPONSE_HEADERS.AUTHENTICATED, JsString.lit "1")] ++
    (if result.rotationRequired = some true then
      [(TSK_RESPONSE_HEADERS.ROTATION_REQUIRED, JsString.lit "1")] else []) ++
    (result.requestsRemaining.map
      fun n => (TSK_RESPONSE_HEADERS.REQUESTS_REMAINING, JsString.ofInt n)).toList ++
    (result.hotpCountersRemaining.map
      fun n => (TSK_RESPONSE_HEADERS.HOTP_COUNTERS_REMAINING, JsString.ofInt n)).toList

/-- `{ error: { code, message }, meta: { requestId, retryable } }`. -/
structure ErrorBody where
  code : JsString
  message : JsString
  requestId : JsString
  retryable : Option Bool := none
  deriving DecidableEq, Repr

/-- A response as far as the adapters write it. -/
structure ServerResponse where
  headers : OrderedMap JsString JsString := ∅
  sent : Option (Nat × ErrorBody) := none

namespace ServerResponse

/-- Node keeps the headers under their names in lower case. -/
def setHeader (response : ServerResponse) (name value : JsString) : ServerResponse :=
  { response with headers := response.headers.set (name.map toLowerAscii) value }

def setHeaders (response : ServerResponse) (headers : List (JsString × JsString)) : ServerResponse :=
  headers.foldl (fun r header => r.setHeader header.1 header.2) response

def writeJson (response : ServerResponse) (status : Nat) (body : ErrorBody) : ServerResponse :=
  if response.sent.isSome then response
  else
    { response.setHeaders
        [(JsString.lit "content-type", JsString.lit "application/json; charset=utf-8"),
          (JsString.lit "cache-control", JsString.lit "no-store")] with
      sent := some (status, body) }

def tskHeaders (response : ServerResponse) : List (Option JsString) :=
  TSK_RESPONSE_HEADERS.names.map response.headers.get?

variable {response : ServerResponse} {name value : JsString}

theorem get?_setHeader (response : ServerResponse) (name value k : JsString) :
    (response.setHeader name value).headers.get? k =
      if name.map toLowerAscii = k then some value else response.headers.get? k := by
  rw [setHeader, OrderedMap.get?_set]

theorem tskHeaders_setHeader (h : name.map toLowerAscii ∉ TSK_RESPONSE_HEADERS.names) :
    (response.setHeader name value).tskHeaders = response.tskHeaders := by
  apply List.map_congr_left
  intro k hk
  rw [get?_setHeader, if_neg]
  rintro rfl
  exact h hk

theorem setHeaders_append (response : ServerResponse) (l l' : List (JsString × JsString)) :
    response.setHeaders (l ++ l') = (response.setHeaders l).setHeaders l' :=
  List.foldl_append

theorem tskHeaders_writeJson (response : ServerResponse) (status : Nat) (body : ErrorBody) :
    (response.writeJson status body).tskHeaders = response.tskHeaders := by
  simp only [writeJson]
  split
  · rfl
  · change ((response.setHeader _ _).setHeader _ _).tskHeaders = _
    rw [tskHeaders_setHeader (by decide), tskHeaders_setHeader (by decide)]

end ServerResponse

structure TSKAuthentication where
  clientId : JsString
  requestId : JsString
  rotationRequired : Bool
  requestsRemaining : Option Int := none
  deriving DecidableEq, Repr

structure BpcTskAuthentication extends TSKAuthentication where
  pairId : JsString
  scope : JsString
  deriving DecidableEq, Repr

/-- `value?.toString() || randomUUID()` of the header `x-request-id`. -/
def requestIdOf (request : TSKRequestData) (randomUUID : JsString) : JsString :=
  match request.headers.get? (JsString.lit "x-request-id") with
  | some (.single value) => if value = [] then randomUUID else value
  | some (.multiple values) =>
    let joined := List.intercalate (JsString.lit ",") values
    if joined = [] then randomUUID else joined
  | none => randomUUID

/-- An adapter's promise, with what it leaves behind; the promise is rejected with what the store
or the verifier throws. -/
structure AdapterOutcome (α : Type) where
  returned : Except StoreError (Option α)
  response : ServerResponse
  store : MemoryTumblerStore

/-- The client id of an accepting result, unless it is empty. -/
def TSKVerifyResult.authenticated (result : TSKVerifyResult) : Option JsString :=
  if result.ok = false then none else result.clientId.filter (fun clientId => clientId ≠ [])

/-- The address of the client is left out: it goes to the anomaly engine only. -/
def authenticateTSKHttpRequest (H : HmacSha256) (config : TSKConfig) (store : MemoryTumblerStore)
    (request : TSKRequestData) (response : ServerResponse) (randomUUID : JsString) (readAt : Int)
    (clock : VerifyClock) : AdapterOutcome TSKAuthentication :=
  let requestId := requestIdOf request randomUUID
  let response := response.setHeader (JsString.lit "X-Request-ID") requestId
  match verifyTSKRequest H config store request readAt clock with
  | (.error e, stored) => { returned := .error e, response, store := stored }
  | (.ok result, stored) =>
    match result.authenticated with
    | none =>
      { returned := .ok none
        response := response.writeJson 401
          { code := JsString.lit "TSK_AUTHENTICATION_FAILED"
            message := JsString.lit "Authentication failed"
            requestId }
        store := stored }
    | some clientId =>
      { returned := .ok (some
          { clientId
            requestId
            rotationRequired := result.rotationRequired = some true
            requestsRemaining := result.requestsRemaining })
        response := response.setHeaders (buildTSKResponseHeaders result)
        store := stored }

/-- What an allowed request is bound to, unless one of the ids is empty. -/
def UltraVerifyResult.authenticated (result : UltraVerifyResult) :
    Option (JsString × JsString × JsString) :=
  if result.ok = false then none
  else do
    let clientId ← result.clientId.filter (fun clientId => clientId ≠ [])
    let pairId ← result.pairId.filter (fun pairId => pairId ≠ [])
    let scope ← result.scope
    return (clientId, pairId, scope)

/-- What the adapter is given beside the store. -/
structure BpcTskHttpAuthenticatorOptions where
  config : TSKConfig := {}
  /-- It is given the headers of the request; `none` when it throws. -/
  bpcVerify : TSKRequestData → Option UntrustedValue
  resolve : JsString → Option (Option JsString)

/-- The options for the bridge: the age of a snapshot is left at its default, and `nowMs` is the
reading of `Date.now()`. -/
def BpcTskHttpAuthenticatorOptions.bridge (options : BpcTskHttpAuthenticatorOptions) (nowMs : Int) :
    UltraVerifyOptions where
  tskConfig := options.config
  now := some nowMs
  resolve := options.resolve

theorem BpcTskHttpAuthenticatorOptions.bridge_tskConfig (options : BpcTskHttpAuthenticatorOptions)
    (nowMs : Int) : (options.bridge nowMs).tskConfig = options.config := rfl

def authenticateBpcTskHttpRequest (H : HmacSha256) (options : BpcTskHttpAuthenticatorOptions)
    (store : MemoryTumblerStore) (request : TSKRequestData) (response : ServerResponse)
    (randomUUID : JsString) (nowMs readAt : Int) (clock : VerifyClock) :
    AdapterOutcome BpcTskAuthentication :=
  let requestId := requestIdOf request randomUUID
  let response := response.setHeader (JsString.lit "X-Request-ID") requestId
  let (result, stored) :=
    verifyUltraRequest H store options.bpcVerify (options.bridge nowMs) (some request) readAt clock
  match result.authenticated with
  | none =>
    if result.outcomeUnknown then
      { returned := .ok none
        response := response.writeJson 409
          { code := JsString.lit "BPC_TSK_OUTCOME_UNKNOWN"
            message := JsString.lit "Authentication outcome is unknown"
            requestId
            retryable := some false }
        store := stored }
    else
      { returned := .ok none
        response := response.writeJson 401
          { code := JsString.lit "BPC_TSK_AUTHENTICATION_FAILED"
            message := JsString.lit "Authentication failed"
            requestId }
        store := stored }
  | some (clientId, pairId, scope) =>
    { returned := .ok (some { clientId, pairId, scope, requestId, rotationRequired := false })
      response := response.setHeader (JsString.lit "x-tsk-authenticated") (JsString.lit "1")
      store := stored }

namespace AdapterOutcome

variable {α β : Type}

/-- Whether the request is allowed; none when the promise is rejected. -/
def decision (outcome : AdapterOutcome α) : Option Bool :=
  match outcome.returned with
  | .error _ => none
  | .ok authentication => some authentication.isSome

/-- The same TSK headers are sent, and the same is decided. -/
def SameAnswer (outcome : AdapterOutcome α) (outcome' : AdapterOutcome β) : Prop :=
  outcome.response.tskHeaders = outcome'.response.tskHeaders ∧ outcome.decision = outcome'.decision

end AdapterOutcome

variable {H : HmacSha256} {config : TSKConfig} {options : BpcTskHttpAuthenticatorOptions}
  {store store' : MemoryTumblerStore} {request : TSKRequestData} {randomUUID : JsString}
  {nowMs readAt : Int} {clock : VerifyClock}

/-- A commit is accepted with the counters that remain, whether they run out or not. -/
theorem applyCommit_remaining {map : TumblerMap} {input : ValidationCommitInput}
    {result : ValidationCommitResult} (h : (applyCommit map input).1 = .ok result)
    (hok : result.ok = true) : ∃ n, result.hotpCountersRemaining = some n := by
  simp only [applyCommit] at h
  split at h
  · cases h
  · obtain rfl := Except.ok.inj h
    cases hok
  · next remaining _ =>
    refine ⟨remaining, ?_⟩
    split at h
    · obtain rfl := Except.ok.inj h
      rfl
    · obtain rfl := Except.ok.inj h
      rfl

theorem commitValidationToMap_remaining {map : TumblerMap} {input : ValidationCommitInput}
    {result : ValidationCommitResult} (h : (commitValidationToMap map input).1 = .ok result)
    (hok : result.ok = true) : ∃ n, result.hotpCountersRemaining = some n := by
  simp only [commitValidationToMap] at h
  repeat' split at h
  all_goals first
    | exact applyCommit_remaining h hok
    | obtain rfl := Except.ok.inj h
      cases hok

theorem verifyTSKRequest_remaining {result : TSKVerifyResult}
    (h : (verifyTSKRequest H config store request readAt clock).1 = .ok result)
    (hok : result.ok = true) : ∃ n, result.hotpCountersRemaining = some n := by
  simp only [verifyTSKRequest] at h
  split at h
  · obtain rfl := Except.ok.inj h
    cases hok
  split at h
  · obtain rfl := Except.ok.inj h
    cases hok
  simp only [resumeVerify] at h
  split at h
  · cases h
  next action hdecide =>
  cases decideVerify_spec hdecide with
  | reply hdenied =>
    obtain rfl := Except.ok.inj h
    rw [hok] at hdenied
    cases hdenied
  | expire _ hdenied =>
    obtain ⟨_, -, rfl⟩ := map_eq_ok.mp h
    rw [hok] at hdenied
    cases hdenied
  | commit _ _ =>
    obtain ⟨committed, hcommit, rfl⟩ := map_eq_ok.mp h
    split at hok
    · cases hok
    next hcommitted =>
    rw [if_neg hcommitted]
    simp only [mapError_eq_ok] at hcommit
    split at hcommit
    · obtain rfl := Except.ok.inj hcommit
      exact absurd rfl hcommitted
    · exact commitValidationToMap_remaining hcommit (by simpa using hcommitted)

theorem TSKVerifyResult.authenticated_eq_some {result : TSKVerifyResult} {clientId : JsString} :
    result.authenticated = some clientId ↔
      result.ok = true ∧ result.clientId = some clientId ∧ clientId ≠ [] := by
  cases hok : result.ok <;> simp [TSKVerifyResult.authenticated, hok, Option.filter_eq_some_iff]

theorem UltraVerifyResult.authenticated_ok {result : UltraVerifyResult}
    {ids : JsString × JsString × JsString} (h : result.authenticated = some ids) :
    result.ok = true := by
  by_contra hok
  rw [UltraVerifyResult.authenticated, if_pos (by simpa using hok)] at h
  cases h

theorem preflight_clientId {bpcVerify : TSKRequestData → Option UntrustedValue}
    {options : UltraVerifyOptions} {req : Option TSKRequestData} {p : UltraPreflight}
    (h : preflight bpcVerify options req = .ok (request, p)) : p.expectedClientId ≠ [] := by
  simp only [preflight, bind_eq_ok, orThrow_eq_ok, pure_eq_ok, Except.ok.injEq, Prod.mk.injEq] at h
  obtain ⟨_, -, result, -, ⟨pairId, scope⟩, -, clientId, hbinding, -, rfl⟩ := h
  simp only [checkIdentityBinding, bind_eq_ok, orThrow_eq_ok, require_eq_ok, pure_eq_ok,
    Except.ok.injEq] at hbinding
  obtain ⟨resolved, -, _, hexpected, -, -, -, -, rfl⟩ := hbinding
  obtain ⟨-, hsafe⟩ := Option.filter_eq_some_iff.mp hexpected
  rintro rfl
  cases hsafe

/-- What the bridge lets through has been authenticated by the TSK verifier, from the same state. -/
theorem ultra_authenticated {bpcVerify : TSKRequestData → Option UntrustedValue}
    {options : UltraVerifyOptions} (h : (verifyUltraRequest H store bpcVerify options (some request)
      readAt clock).1.ok = true) :
    ∃ result clientId,
      (verifyTSKRequest H options.tskConfig store request readAt clock).1 = .ok result ∧
      result.authenticated = some clientId := by
  simp only [verifyUltraRequest] at h
  cases hpre : preflight bpcVerify options (some request) with
  | error denied =>
    rw [hpre] at h
    have hdenied : denied.isPreflightDenial = true := denies_preflight denied hpre
    rw [UltraVerifyResult.isPreflightDenial, h] at hdenied
    cases hdenied
  | ok passed =>
    obtain ⟨request', p⟩ := passed
    obtain ⟨hreq, -⟩ := preflight_ok hpre
    obtain rfl := Option.some.inj hreq
    simp only [hpre] at h
    cases houtcome : (verifyTSKRequest H options.tskConfig store request readAt clock).1 with
    | error e =>
      rw [houtcome] at h
      cases h
    | ok result =>
      simp only [houtcome, concludeUltra] at h
      split at h
      · cases h
      next hok =>
      split at h
      · cases h
      next hclient =>
      refine ⟨result, p.expectedClientId, rfl, TSKVerifyResult.authenticated_eq_some.mpr
        ⟨by simpa using hok, by simpa using hclient, preflight_clientId hpre⟩⟩

/-- A response before an adapter has written to it. -/
abbrev ServerResponse.fresh : ServerResponse := {}

/-- What the combined adapter signals: never more than that the request is authenticated. -/
theorem combined_answer (H : HmacSha256) (options : BpcTskHttpAuthenticatorOptions)
    (store : MemoryTumblerStore) (request : TSKRequestData) (randomUUID : JsString)
    (nowMs readAt : Int) (clock : VerifyClock) :
    let outcome := authenticateBpcTskHttpRequest H options store request .fresh randomUUID nowMs readAt clock
    (outcome.decision = some false ∧ outcome.response.tskHeaders = [none, none, none, none]) ∨
    (outcome.decision = some true ∧
      outcome.response.tskHeaders = [some (JsString.lit "1"), none, none, none] ∧
      ∃ result clientId,
        (verifyTSKRequest H options.config store request readAt clock).1 = .ok result ∧
        result.authenticated = some clientId) := by
  simp only [authenticateBpcTskHttpRequest]
  cases hauth : (verifyUltraRequest H store options.bpcVerify (options.bridge nowMs) (some request)
    readAt clock).1.authenticated with
  | none =>
    simp only
    refine .inl ?_
    split
    · refine ⟨rfl, ?_⟩
      rw [ServerResponse.tskHeaders_writeJson, ServerResponse.tskHeaders_setHeader (by decide)]
      rfl
    · refine ⟨rfl, ?_⟩
      rw [ServerResponse.tskHeaders_writeJson, ServerResponse.tskHeaders_setHeader (by decide)]
      rfl
  | some ids =>
    simp only
    have hverified := ultra_authenticated (UltraVerifyResult.authenticated_ok hauth)
    rw [options.bridge_tskConfig] at hverified
    refine .inr ⟨rfl, ?_, hverified⟩
    simp only [ServerResponse.tskHeaders]
    rfl

/-- Every signal of an accepting result has a header. -/
theorem tskHeaders_buildTSKResponseHeaders {response : ServerResponse} {result : TSKVerifyResult}
    (hnone : response.tskHeaders = [none, none, none, none]) (hok : result.ok = true) :
    (response.setHeaders (buildTSKResponseHeaders result)).tskHeaders =
      [some (JsString.lit "1"),
        if result.rotationRequired = some true then some (JsString.lit "1") else none,
        result.requestsRemaining.map JsString.ofInt,
        result.hotpCountersRemaining.map JsString.ofInt] := by
  simp only [ServerResponse.tskHeaders, TSK_RESPONSE_HEADERS.names, List.map_cons, List.map_nil,
    List.cons.injEq, and_true] at hnone
  obtain ⟨_, hrotation, hrequests, hcounters⟩ := hnone
  obtain ⟨ok, clientId, error, rotationRequired, requestsRemaining, hotpCountersRemaining⟩ := result
  obtain rfl : ok = true := hok
  simp only [buildTSKResponseHeaders, Bool.true_eq_false, if_false]
  by_cases hdue : rotationRequired = some true
  all_goals
    cases requestsRemaining <;> cases hotpCountersRemaining <;>
      simp +decide [hdue, ServerResponse.setHeaders, ServerResponse.tskHeaders,
        TSK_RESPONSE_HEADERS.names, ServerResponse.get?_setHeader, hrotation, hrequests, hcounters]

section TskOnly

variable {result : TSKVerifyResult}
  (h : (verifyTSKRequest H config store request readAt clock).1 = .ok result)
include h

theorem tskOnly_denied (randomUUID : JsString) (hdenied : result.authenticated = none) :
    let outcome := authenticateTSKHttpRequest H config store request .fresh randomUUID readAt clock
    outcome.decision = some false ∧ outcome.response.tskHeaders = [none, none, none, none] := by
  rcases hverify : verifyTSKRequest H config store request readAt clock with ⟨verified, stored⟩
  rw [hverify] at h
  obtain rfl : verified = .ok result := h
  simp only [authenticateTSKHttpRequest, hverify, hdenied]
  refine ⟨rfl, ?_⟩
  rw [ServerResponse.tskHeaders_writeJson, ServerResponse.tskHeaders_setHeader (by decide)]
  rfl

theorem tskOnly_allowed (randomUUID : JsString) {clientId : JsString} (hallowed : result.authenticated = some clientId) :
    let outcome := authenticateTSKHttpRequest H config store request .fresh randomUUID readAt clock
    outcome.decision = some true ∧ outcome.response.tskHeaders =
      [some (JsString.lit "1"),
        if result.rotationRequired = some true then some (JsString.lit "1") else none,
        result.requestsRemaining.map JsString.ofInt,
        result.hotpCountersRemaining.map JsString.ofInt] := by
  rcases hverify : verifyTSKRequest H config store request readAt clock with ⟨verified, stored⟩
  rw [hverify] at h
  obtain rfl : verified = .ok result := h
  simp only [authenticateTSKHttpRequest, hverify, hallowed]
  refine ⟨rfl, tskHeaders_buildTSKResponseHeaders ?_ (TSKVerifyResult.authenticated_eq_some.mp hallowed).1⟩
  rw [ServerResponse.tskHeaders_setHeader (by decide)]
  rfl

end TskOnly

/-- An exception of the verifier is the combined adapter's to answer; the other one passes it on. -/
theorem tskOnly_throws {e : StoreError}
    (h : (verifyTSKRequest H config store request readAt clock).1 = .error e) :
    (authenticateTSKHttpRequest H config store request .fresh randomUUID readAt clock).decision =
      none := by
  rcases hverify : verifyTSKRequest H config store request readAt clock with ⟨verified, stored⟩
  rw [hverify] at h
  obtain rfl : verified = .error e := h
  simp only [authenticateTSKHttpRequest, hverify]
  rfl

/-- The BPC layer of the bridge has passed the request. -/
def BpcPasses (options : BpcTskHttpAuthenticatorOptions) (nowMs : Int) (request : TSKRequestData) :
    Prop :=
  ∃ result identity, options.bpcVerify request = some result ∧
    checkBpcResult (options.bridge nowMs) result = .ok identity

/-- The two adapters answer alike just where the TSK verifier denies: what it accepts always comes
with the HOTP counters that remain, and those the combined adapter drops. -/
theorem adapters_agree_iff (H : HmacSha256) (options : BpcTskHttpAuthenticatorOptions)
    (store : MemoryTumblerStore) (request : TSKRequestData) (randomUUID : JsString)
    (nowMs readAt : Int) (clock : VerifyClock) :
    (authenticateTSKHttpRequest H options.config store request .fresh randomUUID readAt clock).SameAnswer
        (authenticateBpcTskHttpRequest H options store request .fresh randomUUID nowMs readAt clock) ↔
      ∃ result, (verifyTSKRequest H options.config store request readAt clock).1 = .ok result ∧
        result.authenticated = none := by
  have hcombined := combined_answer H options store request randomUUID nowMs readAt clock
  dsimp only at hcombined
  constructor
  · rintro ⟨hheaders, hdecision⟩
    cases hverify : (verifyTSKRequest H options.config store request readAt clock).1 with
    | error e =>
      rw [tskOnly_throws hverify] at hdecision
      rcases hcombined with ⟨hdenied, -⟩ | ⟨hallowed, -⟩
      · rw [hdenied] at hdecision
        cases hdecision
      · rw [hallowed] at hdecision
        cases hdecision
    | ok result =>
      refine ⟨result, rfl, ?_⟩
      cases hauth : result.authenticated with
      | none => rfl
      | some clientId =>
        obtain ⟨-, hsent⟩ := tskOnly_allowed hverify randomUUID hauth
        obtain ⟨n, hremaining⟩ :=
          verifyTSKRequest_remaining hverify (TSKVerifyResult.authenticated_eq_some.mp hauth).1
        rw [hsent, hremaining] at hheaders
        rcases hcombined with ⟨-, hdropped⟩ | ⟨-, hdropped, -⟩
        · rw [hdropped] at hheaders
          simp at hheaders
        · rw [hdropped] at hheaders
          simp at hheaders
  · rintro ⟨result, hverify, hdenied⟩
    obtain ⟨hdecision, hheaders⟩ := tskOnly_denied hverify randomUUID hdenied
    rcases hcombined with ⟨hdecision', hheaders'⟩ | ⟨-, -, accepted, clientId, hverify', haccepted⟩
    · exact ⟨hheaders.trans hheaders'.symm, hdecision.trans hdecision'.symm⟩
    · obtain rfl := Except.ok.inj (hverify.symm.trans hverify')
      rw [hdenied] at haccepted
      cases haccepted

section Sample

def sampleHttpOptions : BpcTskHttpAuthenticatorOptions where
  bpcVerify _ := some sampleBpcResult
  resolve _ := some (some (JsString.lit "tsk_a"))

/-- One of two uses is spent: the rotation is due, and one use remains. -/
theorem combined_drops_rotation :
    let tskOnly := authenticateTSKHttpRequest mirrorHmac {} sampleStore
      (sampleClaim (JsString.lit "tsk_a")) .fresh [] 0 ⟨0, 0, 0⟩
    let combined := authenticateBpcTskHttpRequest mirrorHmac sampleHttpOptions sampleStore
      (sampleClaim (JsString.lit "tsk_a")) .fresh [] 5 0 ⟨0, 0, 0⟩
    BpcPasses sampleHttpOptions 5 (sampleClaim (JsString.lit "tsk_a")) ∧
      tskOnly.decision = some true ∧ combined.decision = some true ∧
      tskOnly.response.tskHeaders = [some (JsString.lit "1"), some (JsString.lit "1"),
        some (JsString.lit "1"), some (JsString.lit "2147483645")] ∧
      combined.response.tskHeaders = [some (JsString.lit "1"), none, none, none] ∧
      ¬ tskOnly.SameAnswer combined := by
  have hpasses : BpcPasses sampleHttpOptions 5 (sampleClaim (JsString.lit "tsk_a")) :=
    ⟨sampleBpcResult, (JsString.lit "p", JsString.lit "read"), rfl, rfl⟩
  have htskOnly : (authenticateTSKHttpRequest mirrorHmac {} sampleStore
      (sampleClaim (JsString.lit "tsk_a")) .fresh [] 0 ⟨0, 0, 0⟩).response.tskHeaders =
      [some (JsString.lit "1"), some (JsString.lit "1"), some (JsString.lit "1"),
        some (JsString.lit "2147483645")] := by decide +kernel
  have hcombined : (authenticateBpcTskHttpRequest mirrorHmac sampleHttpOptions sampleStore
      (sampleClaim (JsString.lit "tsk_a")) .fresh [] 5 0 ⟨0, 0, 0⟩).response.tskHeaders =
      [some (JsString.lit "1"), none, none, none] := by decide +kernel
  refine ⟨hpasses, by decide +kernel, by decide +kernel, htskOnly, hcombined, ?_⟩
  rintro ⟨hheaders, -⟩
  rw [htskOnly, hcombined] at hheaders
  simp at hheaders

end Sample

end TskProtocol
