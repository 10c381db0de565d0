import TskProtocol.Server.OneTime

namespace TskProtocol

/-- A value handed over by code that is not trusted. -/
inductive UntrustedValue
  | undefined
  | bool (b : Bool)
  | integer (n : Int)
  | string (s : JsString)
  /-- Any other value that is not an object, `null` among them. -/
  | other
  /-- How an object answers its inspection; `none` where a trap of it throws.  `plain` is about
  its prototype, and `own` reads the values of its own data properties. -/
  | object (frozen plain : Option Bool) (has : JsString → Option Bool)
      (own : JsString → Option UntrustedValue)

namespace UntrustedValue

def isTrue : UntrustedValue → Bool
  | bool b => b
  | _ => false

def isUndefined : UntrustedValue → Bool
  | undefined => true
  | _ => false

def text? : UntrustedValue → Option JsString
  | string s => some s
  | _ => none

def integer? : UntrustedValue → Option Int
  | integer n => some n
  | _ => none

theorem text?_eq_some {v : UntrustedValue} {s : JsString} : v.text? = some s ↔ v = .string s := by
  cases v <;> simp [text?]

theorem integer?_eq_some {v : UntrustedValue} {n : Int} : v.integer? = some n ↔ v = .integer n := by
  cases v <;> simp [integer?]

theorem isTrue_iff {v : UntrustedValue} : v.isTrue = true ↔ v = .bool true := by
  cases v <;> simp [isTrue]

end UntrustedValue

def BPC_SCOPES : List JsString :=
  [JsString.lit "read", JsString.lit "read-write", JsString.lit "admin"]
def BPC_MODES : List JsString := [JsString.lit "development", JsString.lit "production"]
def DEFAULT_BPC_SNAPSHOT_MAX_AGE_MS : Int := 60000
def MAX_BPC_SNAPSHOT_MAX_AGE_MS : Int := 300000

/-- `SAFE_ERROR_CODE`. -/
def isSafeErrorCode (s : JsString) : Bool :=
  1 ≤ s.length && s.length ≤ 64 &&
    s.all (fun c => (97 ≤ c && c ≤ 122) || (48 ≤ c && c ≤ 57) || c = 95)

/-- `SAFE_PAIR_ID`. -/
def isSafePairId (s : JsString) : Bool := 1 ≤ s.length && s.length ≤ 64 && s.all isBase64Url

/-- `SAFE_CLIENT_ID`. -/
def isSafeClientId (s : JsString) : Bool := 1 ≤ s.length && s.length ≤ 128 && s.all isBase64Url

inductive UltraLayer
  | bpc | tsk
  deriving DecidableEq, Repr

inductive UltraError
  | requestInvalid | callbackException
  /-- The code that the verifier gives, or `VERIFICATION_FAILED`. -/
  | verificationFailed (code : Option JsString)
  | shadowDenied | legacyMutableResult | invalidPairId | invalidSnapshotMaxAge
  | invalidAuthSnapshot | invalidResultObject
  | resolverException | bindingNotFound | clientIdMissingOrAmbiguous | bindingMismatch
  | verifierException
  | tsk (e : Option TSKVerifyError)
  | bindingPostcheckMismatch
  deriving DecidableEq, Repr

structure UltraVerifyResult where
  ok : Bool
  pairId : Option JsString := none
  clientId : Option JsString := none
  layers : List UltraLayer
  error : Option UltraError := none
  outcomeUnknown : Bool := false
  scope : Option JsString := none
  deriving DecidableEq, Repr

def UltraVerifyResult.deny (e : UltraError) : UltraVerifyResult where
  ok := false
  layers := []
  error := some e

structure UltraVerifyOptions where
  tskConfig : TSKConfig := {}
  bpcSnapshotMaxAgeMs : Option Int := none
  /-- The clock, unless it throws. -/
  now : Option Int
  /-- `identityBinding.resolve`: it may throw, or return something that is not a string. -/
  resolve : JsString → Option (Option JsString)

def UltraVerifyOptions.maxAgeMs (options : UltraVerifyOptions) : Int :=
  options.bpcSnapshotMaxAgeMs.getD DEFAULT_BPC_SNAPSHOT_MAX_AGE_MS

/-- A conjunction whose later members are not looked at behind a false one. -/
def allHold : List (Option Bool) → Option Bool
  | [] => some true
  | check :: rest => check.bind (fun holds => if holds then allHold rest else some false)

theorem allHold_eq_true {checks : List (Option Bool)} :
    allHold checks = some true ↔ ∀ check ∈ checks, check = some true := by
  induction checks with
  | nil => simp [allHold]
  | cons check rest ih =>
    rcases check with _ | _ | _
    · simp [allHold]
    · simp [allHold]
    · simp [allHold, ih]

def freshAt (now maxAgeMs : Int) (verifiedAt : UntrustedValue) : Bool :=
  verifiedAt.integer?.any (fun t => isSafeInteger t && (now - t).natAbs ≤ maxAgeMs)

def validSnapshot (value : UntrustedValue) (pairId : JsString) (now maxAgeMs : Int) : Option Bool :=
  match value with
  | .object frozen plain _ own => allHold [frozen, plain,
      (own (JsString.lit "pairId")).map (fun v => v.text? = some pairId),
      (own (JsString.lit "scope")).map (fun v => v.text?.any (· ∈ BPC_SCOPES)),
      (own (JsString.lit "mode")).map (fun v => v.text?.any (· ∈ BPC_MODES)),
      (own (JsString.lit "kind")).map (fun v => v.text? = some (JsString.lit "legitimate")),
      (own (JsString.lit "canaryClass")).map (·.isUndefined),
      (own (JsString.lit "verifiedAt")).map (freshAt now maxAgeMs)]
  | _ => some false

/-- The scope in a snapshot that has been found valid. -/
def snapshotScope : UntrustedValue → Option JsString
  | .object _ _ _ own => (own (JsString.lit "scope")).bind (·.text?)
  | _ => none

def safeBpcError (value : UntrustedValue) : Option JsString := value.text?.filter isSafeErrorCode

/-- The check of `ok`, and the error that goes with a failure. -/
def checkBpcOk (own : JsString → Option UntrustedValue) : Except UltraVerifyResult Unit := do
  let ok ← orThrow (own (JsString.lit "ok")) (.deny .invalidResultObject)
  if ok.isTrue then return ()
  else
    let error ← orThrow (own (JsString.lit "error")) (.deny .invalidResultObject)
    throw (.deny (.verificationFailed (safeBpcError error)))

/-- The pair and the scope that a verifier's result vouches for. -/
def checkBpcResult (options : UltraVerifyOptions) :
    UntrustedValue → Except UltraVerifyResult (JsString × JsString)
  | .object _ _ has own => do
    checkBpcOk own
    let shadow ← orThrow (own (JsString.lit "shadow")) (.deny .invalidResultObject)
    require (¬ shadow.isTrue) (.deny .shadowDenied)
    let hasPair ← orThrow (has (JsString.lit "pair")) (.deny .invalidResultObject)
    require (¬ hasPair) (.deny .legacyMutableResult)
    let hasScope ← orThrow (has (JsString.lit "scope")) (.deny .invalidResultObject)
    require (¬ hasScope) (.deny .legacyMutableResult)
    let resultPairId ← orThrow (own (JsString.lit "pairId")) (.deny .invalidResultObject)
    let pairId ← orThrow (resultPairId.text?.filter isSafePairId) (.deny .invalidPairId)
    require (isSafeInteger options.maxAgeMs ∧ 1 ≤ options.maxAgeMs ∧
      options.maxAgeMs ≤ MAX_BPC_SNAPSHOT_MAX_AGE_MS)
      { ok := false, pairId, error := some .invalidSnapshotMaxAge, layers := [] }
    let snapshot ← orThrow (own (JsString.lit "snapshot")) (.deny .invalidResultObject)
    let nowMs ← orThrow options.now (.deny .invalidResultObject)
    let valid ← orThrow (validSnapshot snapshot pairId nowMs options.maxAgeMs)
      (.deny .invalidResultObject)
    require (valid) { ok := false, pairId, error := some .invalidAuthSnapshot, layers := [] }
    let scope ← orThrow (snapshotScope snapshot) (.deny .invalidResultObject)
    return (pairId, scope)
  | _ => throw (.deny (.verificationFailed none))

/-- What the request has been authorized for before the store is touched. -/
structure UltraPreflight where
  pairId : JsString
  scope : JsString
  expectedClientId : JsString
  deriving DecidableEq, Repr

/-- The client that a pair is bound to, and the claim of the request. -/
def checkIdentityBinding (options : UltraVerifyOptions) (request : TSKRequestData)
    (pairId : JsString) : Except UltraVerifyResult JsString := do
  let resolved ← orThrow (options.resolve pairId)
    { ok := false, pairId, error := some .resolverException, outcomeUnknown := true, layers := [.bpc] }
  let expectedClientId ← orThrow (resolved.filter isSafeClientId)
    { ok := false, pairId, error := some .bindingNotFound, layers := [.bpc] }
  let claimedClientId ← orThrow ((getHeader request TSK_HEADERS.CLIENT_ID).filter isSafeClientId)
    { ok := false, pairId, error := some .clientIdMissingOrAmbiguous, layers := [.bpc] }
  require (claimedClientId = expectedClientId)
    { ok := false, pairId, clientId := claimedClientId, error := some .bindingMismatch,
      layers := [.bpc] }
  return expectedClientId

/-- Everything up to the call of the TSK verifier.  A request is `none` when it cannot be copied,
and the verifier's result is `none` when it throws. -/
def preflight (bpcVerify : TSKRequestData → Option UntrustedValue) (options : UltraVerifyOptions)
    (req : Option TSKRequestData) : Except UltraVerifyResult (TSKRequestData × UltraPreflight) := do
  let request ← orThrow req (.deny .requestInvalid)
  let untrustedResult ← orThrow (bpcVerify request)
    { ok := false, error := some .callbackException, outcomeUnknown := true, layers := [] }
  let (pairId, scope) ← checkBpcResult options untrustedResult
  let expectedClientId ← checkIdentityBinding options request pairId
  return (request, { pairId, scope, expectedClientId })

/-- The answer to what the TSK verifier has found. -/
def concludeUltra (p : UltraPreflight) : Except StoreError TSKVerifyResult → UltraVerifyResult
  | .error _ => { ok := false, pairId := p.pairId, error := some .verifierException,
                  outcomeUnknown := true, layers := [.bpc] }
  | .ok tskResult =>
    if tskResult.ok = false then
      { ok := false, pairId := p.pairId, error := some (.tsk tskResult.error), layers := [.bpc] }
    else if tskResult.clientId ≠ some p.expectedClientId then
      { ok := false, pairId := p.pairId, clientId := tskResult.clientId,
        error := some .bindingPostcheckMismatch, outcomeUnknown := true, layers := [.bpc, .tsk] }
    else
      { ok := true, pairId := p.pairId, clientId := tskResult.clientId, layers := [.bpc, .tsk],
        scope := p.scope }

def verifyUltraRequest (H : HmacSha256) (store : MemoryTumblerStore)
    (bpcVerify : TSKRequestData → Option UntrustedValue) (options : UltraVerifyOptions)
    (req : Option TSKRequestData) (readAt : Int) (clock : VerifyClock) :
    UltraVerifyResult × MemoryTumblerStore :=
  match preflight bpcVerify options req with
  | .error denied => (denied, store)
  | .ok (request, p) =>
    let (tskResult, stored) := verifyTSKRequest H options.tskConfig store request readAt clock
    (concludeUltra p tskResult, stored)

/-- The denials that are made before the TSK verifier is called. -/
def UltraError.beforeTsk : UltraError → Bool
  | verifierException | tsk _ | bindingPostcheckMismatch => false
  | _ => true

/-- A snapshot for a pair that is fresh at `now`. -/
structure FreshSnapshot (snapshot : UntrustedValue) (pairId scope : JsString) (now maxAgeMs : Int) :
    Prop where
  object : ∃ has own verifiedAt, snapshot = .object (some true) (some true) has own ∧
    own (JsString.lit "pairId") = some (.string pairId) ∧
    own (JsString.lit "scope") = some (.string scope) ∧
    own (JsString.lit "kind") = some (.string (JsString.lit "legitimate")) ∧
    own (JsString.lit "verifiedAt") = some (.integer verifiedAt) ∧
    (now - verifiedAt).natAbs ≤ maxAgeMs
  scope : scope ∈ BPC_SCOPES

/-- A verifier's result that vouches for a pair. -/
structure VouchedFor (options : UltraVerifyOptions) (result : UntrustedValue)
    (pairId scope : JsString) : Prop where
  object : ∃ frozen plain has own snapshot now, result = .object frozen plain has own ∧
    own (JsString.lit "ok") = some (.bool true) ∧
    own (JsString.lit "pairId") = some (.string pairId) ∧
    own (JsString.lit "snapshot") = some snapshot ∧ options.now = some now ∧
    FreshSnapshot snapshot pairId scope now options.maxAgeMs
  safe : isSafePairId pairId = true

/-- What a request has shown before the store is touched. -/
structure Preflighted (bpcVerify : TSKRequestData → Option UntrustedValue)
    (options : UltraVerifyOptions) (request : TSKRequestData) (p : UltraPreflight) : Prop where
  vouched : ∃ result, bpcVerify request = some result ∧ VouchedFor options result p.pairId p.scope
  resolved : options.resolve p.pairId = some (some p.expectedClientId)
  claimed : getHeader request TSK_HEADERS.CLIENT_ID = some p.expectedClientId

/-- One validation of a client has been committed, and nothing else has changed. -/
structure OneCommit (H : HmacSha256) (config : TSKConfig) (request : TSKRequestData)
    (clientId : JsString) (store store' : MemoryTumblerStore) (map : TumblerMap) : Prop where
  stored : store.maps.get? clientId = some map
  accepted : ∃ key counterMatches map', truthyHeader request TSK_HEADERS.KEY = some key ∧
    KeyAccepted H key map config.resolve.hotpLookahead counterMatches ∧
    Committed map counterMatches map' ∧
    store' = { store with maps := store.maps.set clientId map' }

variable {H : HmacSha256} {config : TSKConfig} {store store' : MemoryTumblerStore}
  {bpcVerify : TSKRequestData → Option UntrustedValue} {options : UltraVerifyOptions}
  {req : Option TSKRequestData} {request : TSKRequestData} {p : UltraPreflight} {readAt : Int}
  {clock : VerifyClock}

theorem validSnapshot_fresh {snapshot : UntrustedValue} {pairId scope : JsString} {now maxAgeMs : Int}
    (h : validSnapshot snapshot pairId now maxAgeMs = some true)
    (hscope : snapshotScope snapshot = some scope) :
    FreshSnapshot snapshot pairId scope now maxAgeMs := by
  cases snapshot with
  | object frozen plain has own =>
    simp only [validSnapshot, allHold_eq_true, List.forall_mem_cons, Option.map_eq_some_iff,
      decide_eq_true_eq, List.not_mem_nil, false_imp_iff, implies_true, and_true] at h
    obtain ⟨rfl, rfl, ⟨pair, hpair, hpairText⟩, ⟨s, hs, hmem⟩, -, ⟨kind, hkind, hkindText⟩, -,
      ⟨verified, hverified, hfresh⟩⟩ := h
    obtain rfl := UntrustedValue.text?_eq_some.mp hpairText
    obtain rfl := UntrustedValue.text?_eq_some.mp hkindText
    simp only [snapshotScope, hs, Option.bind_some] at hscope
    obtain rfl := UntrustedValue.text?_eq_some.mp hscope
    obtain ⟨t, ht, hage⟩ := Option.any_eq_true _ _ |>.mp hfresh
    obtain rfl := UntrustedValue.integer?_eq_some.mp ht
    simp only [Bool.and_eq_true, decide_eq_true_eq] at hage
    refine ⟨⟨has, own, t, rfl, hpair, hs, hkind, hverified, hage.2⟩, ?_⟩
    simpa [UntrustedValue.text?] using hmem
  | _ => cases h

theorem checkBpcResult_ok {result : UntrustedValue} {pairId scope : JsString}
    (h : checkBpcResult options result = .ok (pairId, scope)) :
    VouchedFor options result pairId scope := by
  cases result with
  | object frozen plain has own =>
    simp only [checkBpcResult, bind_eq_ok, orThrow_eq_ok, require_eq_ok, pure_eq_ok,
      Except.ok.injEq, Prod.mk.injEq] at h
    obtain ⟨_, hok, _, -, _, -, _, -, _, -, _, -, _, -, pair, hpair, _, hsafe, _, -, snapshot, hsnapshot,
      now, hnow, valid, hvalid, _, rfl, _, hscope, rfl, rfl⟩ := h
    obtain ⟨htext, hid⟩ := Option.filter_eq_some_iff.mp hsafe
    obtain rfl := UntrustedValue.text?_eq_some.mp htext
    simp only [checkBpcOk, bind_eq_ok, orThrow_eq_ok] at hok
    obtain ⟨ok, hown, hok⟩ := hok
    split at hok
    · next htrue =>
      obtain rfl := UntrustedValue.isTrue_iff.mp htrue
      exact ⟨⟨frozen, plain, has, own, snapshot, now, rfl, hown, hpair, hsnapshot, hnow,
        validSnapshot_fresh hvalid hscope⟩, hid⟩
    · simp only [bind_eq_ok] at hok
      obtain ⟨_, -, hthrow⟩ := hok
      cases hthrow
  | _ => cases h

theorem preflight_ok (h : preflight bpcVerify options req = .ok (request, p)) :
    req = some request ∧ Preflighted bpcVerify options request p := by
  simp only [preflight, bind_eq_ok, orThrow_eq_ok, pure_eq_ok, Except.ok.injEq, Prod.mk.injEq] at h
  obtain ⟨_, hreq, result, hresult, ⟨pairId, scope⟩, hchecked, clientId, hbinding, rfl, rfl⟩ := h
  simp only [checkIdentityBinding, bind_eq_ok, orThrow_eq_ok, require_eq_ok, pure_eq_ok,
    Except.ok.injEq] at hbinding
  obtain ⟨resolved, hresolve, _, hexpected, claimed, hclaimed, _, rfl, rfl⟩ := hbinding
  obtain ⟨rfl, -⟩ := Option.filter_eq_some_iff.mp hexpected
  exact ⟨hreq, ⟨result, hresult, checkBpcResult_ok hchecked⟩, hresolve,
    (Option.filter_eq_some_iff.mp hclaimed).1⟩

/-- A denial that is made before the TSK verifier is called. -/
def UltraVerifyResult.isPreflightDenial (r : UltraVerifyResult) : Bool :=
  !r.ok && r.error.any UltraError.beforeTsk

/-- A check that only throws denials of the preflight. -/
abbrev Denies {α : Type} (x : Except UltraVerifyResult α) : Prop :=
  ThrowsOnly (fun r => r.isPreflightDenial = true) x

theorem denies_checkBpcOk (own : JsString → Option UntrustedValue) : Denies (checkBpcOk own) := by
  refine .bind (.ofOption rfl) fun ok => ?_
  split
  · exact .returns _
  · exact .bind (.ofOption rfl) fun error => .throws rfl

theorem denies_checkBpcResult (result : UntrustedValue) : Denies (checkBpcResult options result) := by
  cases result with
  | object frozen plain has own =>
    refine .bind (denies_checkBpcOk own) fun _ => .bind (.ofOption rfl) fun _ => .bind (.check rfl) fun _ =>
      .bind (.ofOption rfl) fun _ => .bind (.check rfl) fun _ => .bind (.ofOption rfl) fun _ =>
      .bind (.check rfl) fun _ => .bind (.ofOption rfl) fun _ => .bind (.ofOption rfl) fun _ =>
      .bind (.check rfl) fun _ => .bind (.ofOption rfl) fun _ => .bind (.ofOption rfl) fun _ =>
      .bind (.ofOption rfl) fun _ => .bind (.check rfl) fun _ => .bind (.ofOption rfl) fun _ =>
      .returns _
  | _ => exact .throws rfl

theorem denies_preflight : Denies (preflight bpcVerify options req) := by
  refine .bind (.ofOption rfl) fun request => .bind (.ofOption rfl) fun result =>
    .bind (denies_checkBpcResult result) fun identity => .bind ?_ fun _ => .returns _
  exact .bind (.ofOption rfl) fun _ => .bind (.ofOption rfl) fun _ => .bind (.ofOption rfl) fun _ =>
    .bind (.check rfl) fun _ => .returns _

/-- A commit speaks for the client that the map names. -/
theorem decideVerify_commit {clientId key : JsString} {map : TumblerMap}
    {input : ValidationCommitInput} {mapClientId : Option JsString}
    (h : decideVerify H config clientId key map clock = .ok (.commit input mapClientId)) :
    mapClientId = some map.clientId := by
  simp only [decideVerify] at h
  split at h
  · cases h
  split at h
  · cases h
  split at h
  · cases h
  split at h
  · cases h
  obtain ⟨result, hresult, h⟩ := bind_eq_ok.mp h
  split at h
  · cases h
  · next hok =>
    obtain ⟨-, rfl⟩ := VerifyAction.commit.inj (Except.ok.inj h)
    exact (validateTSKKey_accepted hresult (by simpa using hok)).1

theorem checkHeaders_ok {clientId key : JsString} (h : checkHeaders request = .ok (clientId, key)) :
    getHeader request TSK_HEADERS.CLIENT_ID = some clientId ∧
      truthyHeader request TSK_HEADERS.KEY = some key := by
  simp only [checkHeaders] at h
  split at h
  · next client k hclient hkey =>
    split at h
    · cases h
    split at h
    · cases h
    split at h
    · cases h
    obtain ⟨rfl, rfl⟩ := Prod.mk.inj (Except.ok.inj h)
    exact ⟨(Option.filter_eq_some_iff.mp hclient).1, hkey⟩
  · cases h

theorem get_some {clientId : JsString} {map : TumblerMap} {now : Int}
    (h : store.get clientId now = (some map, store')) :
    store' = store ∧ store.maps.get? clientId = some map := by
  simp only [MemoryTumblerStore.get] at h
  cases hget : store.maps.get? clientId with
  | none =>
    rw [hget] at h
    cases h
  | some stored =>
    simp only [hget] at h
    split at h
    · cases h
    · obtain ⟨hmap, rfl⟩ := Prod.mk.inj h
      exact ⟨rfl, hmap⟩

theorem resumeVerify_clientId {clientId key : JsString} {map : TumblerMap} {result : TSKVerifyResult}
    (h : (resumeVerify H config store clientId key map clock).1 = .ok result) (hok : result.ok = true) :
    result.clientId = some map.clientId := by
  simp only [resumeVerify] at h
  cases hdecide : decideVerify H config clientId key map clock with
  | error e =>
    rw [hdecide] at h
    cases h
  | ok action =>
    rw [hdecide] at h
    cases decideVerify_spec hdecide with
    | reply hdenied =>
      obtain rfl := Except.ok.inj h
      rw [hok] at hdenied
      cases hdenied
    | expire _ hdenied =>
      rcases set_eq_ok_or_unchanged store clientId map.expire with ⟨_, hset⟩ | ⟨_, hset⟩
      · simp only [VerifyAction.perform, hset, Except.map, Except.ok.injEq] at h
        rw [h, hok] at hdenied
        cases hdenied
      · simp only [VerifyAction.perform, hset, Except.map] at h
        cases h
    | @commit input mapClientId _ _ =>
      obtain rfl := decideVerify_commit hdecide
      simp only [VerifyAction.perform] at h
      cases hcommit : (store.commitValidation clientId input).1 with
      | error e =>
        rw [hcommit] at h
        cases h
      | ok committed =>
        rw [hcommit] at h
        obtain rfl := Except.ok.inj h
        dsimp only at hok ⊢
        by_cases hdenied : committed.ok = false
        · rw [if_pos hdenied] at hok
          cases hok
        · rw [if_neg hdenied]

/-- What an accepting TSK verifier has done. -/
theorem verified_accepts {result : TSKVerifyResult} {clientId : JsString}
    (h : verifyTSKRequest H config store request readAt clock = (.ok result, store'))
    (hok : result.ok = true) (hclaimed : getHeader request TSK_HEADERS.CLIENT_ID = some clientId) :
    ∃ map, result.clientId = some map.clientId ∧
      OneCommit H config request clientId store store' map := by
  simp only [verifyTSKRequest] at h
  cases hheaders : checkHeaders request with
  | error e =>
    rw [hheaders] at h
    obtain ⟨hresult, -⟩ := Prod.mk.inj h
    obtain rfl := Except.ok.inj hresult
    cases hok
  | ok ids =>
    obtain ⟨claimed, key⟩ := ids
    obtain ⟨hclient, hkey⟩ := checkHeaders_ok hheaders
    obtain rfl : claimed = clientId := Option.some.inj (hclient.symm.trans hclaimed)
    simp only [hheaders] at h
    rcases hget : store.get claimed readAt with ⟨found, stored⟩
    rw [hget] at h
    cases found with
    | none =>
      obtain ⟨hresult, -⟩ := Prod.mk.inj h
      obtain rfl := Except.ok.inj hresult
      cases hok
    | some map =>
      obtain ⟨rfl, hmap⟩ := get_some hget
      have hresult := congrArg Prod.fst h
      have hstored := congrArg Prod.snd h
      refine ⟨map, resumeVerify_clientId hresult hok, hmap, ?_⟩
      rcases resumeVerify_spec H config claimed key map clock stored with
        ⟨_, counterMatches, -, -, heffect⟩ | ⟨hdenied, -⟩
      · dsimp only at hstored
        rw [hstored] at heffect
        cases heffect with
        | @accepted current current' _ hcurrent haccepted hcommit =>
          obtain rfl := Option.some.inj (hcurrent.symm.trans hmap)
          exact ⟨key, counterMatches, current', hkey, haccepted, hcommit, rfl⟩
      · rw [hdenied result hresult] at hok
        cases hok

/-- A denial before the TSK verifier leaves the store alone, an identity that is found to differ
only behind it is reported as such, and what is allowed has been vouched for, by a fresh snapshot
of a pair that is bound to the client, with one commit for that client. -/
theorem verifyUltraRequest_outcome (H : HmacSha256) (store : MemoryTumblerStore)
    (bpcVerify : TSKRequestData → Option UntrustedValue) (options : UltraVerifyOptions)
    (req : Option TSKRequestData) (readAt : Int) (clock : VerifyClock) {r : UltraVerifyResult}
    {store' : MemoryTumblerStore}
    (h : verifyUltraRequest H store bpcVerify options req readAt clock = (r, store')) :
    ((∃ e, r.error = some e ∧ e.beforeTsk = true) → r.ok = false ∧ store' = store) ∧
    (r.error = some .bindingPostcheckMismatch → r.ok = false ∧ r.outcomeUnknown = true ∧
      ∃ request p map, req = some request ∧ Preflighted bpcVerify options request p ∧
        OneCommit H options.tskConfig request p.expectedClientId store store' map ∧
        map.clientId ≠ p.expectedClientId) ∧
    (r.ok = true → ∃ request p map, req = some request ∧ Preflighted bpcVerify options request p ∧
      OneCommit H options.tskConfig request p.expectedClientId store store' map ∧
      map.clientId = p.expectedClientId ∧ r.clientId = some p.expectedClientId ∧
      r.pairId = some p.pairId ∧ r.scope = some p.scope) := by
  simp only [verifyUltraRequest] at h
  cases hpre : preflight bpcVerify options req with
  | error denied =>
    rw [hpre] at h
    obtain ⟨rfl, rfl⟩ := Prod.mk.inj h
    have hdenied := denies_preflight denied hpre
    simp only [UltraVerifyResult.isPreflightDenial, Bool.and_eq_true, Bool.not_eq_true'] at hdenied
    obtain ⟨hok, herror⟩ := hdenied
    refine ⟨fun _ => ⟨hok, rfl⟩, fun hpost => ?_, fun hallowed => ?_⟩
    · rw [hpost] at herror
      cases herror
    · rw [hok] at hallowed
      cases hallowed
  | ok passed =>
    obtain ⟨request, p⟩ := passed
    obtain ⟨rfl, hpassed⟩ := preflight_ok hpre
    simp only [hpre] at h
    rcases hverify : verifyTSKRequest H options.tskConfig store request readAt clock with ⟨outcome, stored⟩
    rw [hverify] at h
    obtain ⟨rfl, rfl⟩ := Prod.mk.inj h
    cases outcome with
    | error e =>
      refine ⟨?_, fun hpost => (by cases hpost), fun hok => (by cases hok)⟩
      rintro ⟨_, herror, hbefore⟩
      obtain rfl := Option.some.inj herror
      cases hbefore
    | ok tskResult =>
      simp only [concludeUltra]
      split
      · refine ⟨?_, fun hpost => (by cases hpost), fun hok => (by cases hok)⟩
        rintro ⟨_, herror, hbefore⟩
        obtain rfl := Option.some.inj herror
        cases hbefore
      next hok =>
      obtain ⟨map, hclient, hcommit⟩ :=
        verified_accepts hverify (by simpa using hok) hpassed.claimed
      split
      · next hdiffers =>
        refine ⟨?_, fun _ => ⟨rfl, rfl, request, p, map, rfl, hpassed, hcommit, ?_⟩,
          fun hok => (by cases hok)⟩
        · rintro ⟨_, herror, hbefore⟩
          obtain rfl := Option.some.inj herror
          cases hbefore
        · rintro hsame
          rw [hclient, hsame] at hdiffers
          exact hdiffers rfl
      · next hsame =>
        have hsame : tskResult.clientId = some p.expectedClientId := by simpa using hsame
        refine ⟨by simp, fun hpost => (by cases hpost), fun _ => ⟨request, p, map, rfl, hpassed, hcommit,
          ?_, hsame, rfl, rfl⟩⟩
        exact Option.some.inj (hclient.symm.trans hsame)

section Sample

def sampleSnapshot : UntrustedValue :=
  .object (some true) (some true) (fun _ => some false) (fun key => some <|
    if key = JsString.lit "pairId" then .string (JsString.lit "p")
    else if key = JsString.lit "scope" then .string (JsString.lit "read")
    else if key = JsString.lit "mode" then .string (JsString.lit "production")
    else if key = JsString.lit "kind" then .string (JsString.lit "legitimate")
    else if key = JsString.lit "verifiedAt" then .integer 0
    else .undefined)

def sampleBpcResult : UntrustedValue :=
  .object (some false) (some true) (fun _ => some false) (fun key => some <|
    if key = JsString.lit "ok" then .bool true
    else if key = JsString.lit "pairId" then .string (JsString.lit "p")
    else if key = JsString.lit "snapshot" then sampleSnapshot
    else .undefined)

/-- The pair is bound to the client that the request claims. -/
def sampleUltraOptions (clientId : JsString) : UltraVerifyOptions where
  now := some 5
  resolve _ := some (some clientId)

def sampleClaim (clientId : JsString) : TSKRequestData where
  headers := (sampleRequest 1).headers.set TSK_HEADERS.CLIENT_ID (.single clientId)

/-- The map of one client, stored under the id of another. -/
def sampleAliased : MemoryTumblerStore :=
  { sampleStore with maps := (∅ : OrderedMap JsString TumblerMap).set (JsString.lit "b") sampleMap }

def sampleUltra (store : MemoryTumblerStore) (clientId : JsString) :
    UltraVerifyResult × MemoryTumblerStore :=
  verifyUltraRequest mirrorHmac store (fun _ => some sampleBpcResult) (sampleUltraOptions clientId)
    (some (sampleClaim clientId)) 0 ⟨0, 0, 0⟩

end Sample

/-- The denial comes behind the commit. -/
theorem postcheck_denial_commits :
    (sampleUltra sampleAliased (JsString.lit "b")).1.ok = false ∧
    (sampleUltra sampleAliased (JsString.lit "b")).1.error = some .bindingPostcheckMismatch ∧
    (sampleAliased.maps.get? (JsString.lit "b")).map (·.requestCount) = some (some 0) ∧
    ((sampleUltra sampleAliased (JsString.lit "b")).2.maps.get? (JsString.lit "b")).map
      (·.requestCount) = some (some 1) := by
  decide +kernel

theorem verifyUltraRequest_outcome_sample :
    (sampleUltra sampleStore (JsString.lit "tsk_a")).1.ok = true ∧
    ∃ clientId map, OneCommit mirrorHmac {} (sampleClaim (JsString.lit "tsk_a")) clientId sampleStore
      (sampleUltra sampleStore (JsString.lit "tsk_a")).2 map ∧ map.clientId = clientId := by
  have hok : (sampleUltra sampleStore (JsString.lit "tsk_a")).1.ok = true := by decide +kernel
  obtain ⟨request, p, map, hreq, -, hcommit, hclient, -⟩ := (verifyUltraRequest_outcome mirrorHmac sampleStore
    (fun _ => some sampleBpcResult) (sampleUltraOptions (JsString.lit "tsk_a"))
    (some (sampleClaim (JsString.lit "tsk_a"))) 0 ⟨0, 0, 0⟩ rfl).2.2 hok
  obtain rfl := Option.some.inj hreq
  exact ⟨hok, p.expectedClientId, map, hcommit, hclient⟩

end TskProtocol
