import TskProtocol.Core.ValidateLaws
import TskProtocol.Server.Calls
import TskProtocol.Server.StoreLaws

namespace TskProtocol

variable {H : HmacSha256} {config : TSKConfig} {clientId key : JsString} {map : TumblerMap}
  {clock : VerifyClock}

/-- A verification is decided towards an effect only from a live map, and towards a commit
only with a key that the map accepts. -/
inductive DecidedWith (H : HmacSha256) (config : TSKConfig) (key : JsString) (map : TumblerMap) :
    VerifyAction → Prop
  | reply {result} : result.ok = false → DecidedWith H config key map (.reply result)
  | expire {result} : isTerminal map.status = false → result.ok = false →
      DecidedWith H config key map (.expire map.expire result)
  | commit {input mapClientId} : isTerminal map.status = false →
      KeyAccepted H key map config.resolve.hotpLookahead input.counterMatches →
      DecidedWith H config key map (.commit input mapClientId)

theorem decideVerify_spec {action : VerifyAction}
    (h : decideVerify H config clientId key map clock = .ok action) :
    DecidedWith H config key map action := by
  simp only [decideVerify] at h
  split at h
  · obtain rfl := Except.ok.inj h; exact .reply rfl
  next hrevoked =>
  split at h
  · obtain rfl := Except.ok.inj h; exact .reply rfl
  next hexpired =>
  have hlive := not_terminal_of hrevoked hexpired
  split at h
  · obtain rfl := Except.ok.inj h; exact .expire hlive rfl
  split at h
  · obtain rfl := Except.ok.inj h; exact .expire hlive rfl
  obtain ⟨result, hresult, h⟩ := bind_eq_ok.mp h
  split at h
  · obtain rfl := Except.ok.inj h; exact .reply rfl
  next hok =>
  obtain rfl := Except.ok.inj h
  exact .commit hlive (validateTSKKey_accepted hresult (by simpa using hok)).2

/-- What a resumed verification does to the store and adds to the log. -/
inductive VerifyEffect (H : HmacSha256) (config : TSKConfig) (store : MemoryTumblerStore)
    (clientId key : JsString) (map : TumblerMap) (clock : VerifyClock) :
    MemoryTumblerStore → List Acceptance → Prop
  | unchanged : VerifyEffect H config store clientId key map clock store []
  | expired {store' result} :
      decideVerify H config clientId key map clock = .ok (.expire map.expire result) →
      store.set clientId map.expire = (.ok (), store') →
      VerifyEffect H config store clientId key map clock store' []
  | refused {current current'} : store.maps.get? clientId = some current →
      current' = current ∨ isTerminal current.status = false ∧ current' = current.expire →
      VerifyEffect H config store clientId key map clock
        { store with maps := store.maps.set clientId current' } []
  | accepted {current current' counterMatches} : store.maps.get? clientId = some current →
      KeyAccepted H key map config.resolve.hotpLookahead counterMatches →
      Committed current counterMatches current' →
      VerifyEffect H config store clientId key map clock
        { store with maps := store.maps.set clientId current' } [⟨clientId, key, counterMatches⟩]

theorem set_eq_ok_or_unchanged (store : MemoryTumblerStore) (clientId : JsString)
    (map : TumblerMap) :
    (∃ store', store.set clientId map = (.ok (), store')) ∨
      ∃ e, store.set clientId map = (.error e, store) := by
  simp only [MemoryTumblerStore.set]
  split
  · exact .inr ⟨_, rfl⟩
  cases assertTumblerMapCounterState map with
  | ok => exact .inl ⟨_, rfl⟩
  | error e => exact .inr ⟨e, rfl⟩

theorem resumeVerify_effect (H : HmacSha256) (config : TSKConfig) (clientId key : JsString)
    (map : TumblerMap) (clock : VerifyClock) (s : ServerState) :
    ∃ store' log, s.resumeVerify H config clientId key map clock =
        { s with store := store', accepted := s.accepted ++ log } ∧
      VerifyEffect H config s.store clientId key map clock store' log := by
  simp only [ServerState.resumeVerify]
  cases hdecide : decideVerify H config clientId key map clock with
  | error e => exact ⟨s.store, [], by simp, .unchanged⟩
  | ok action =>
    cases decideVerify_spec hdecide with
    | reply hok => exact ⟨s.store, [], by simp [VerifyAction.perform, hok], .unchanged⟩
    | expire hlive hok =>
      rcases set_eq_ok_or_unchanged s.store clientId map.expire with ⟨store', hset⟩ | ⟨e, hset⟩
      · refine ⟨store', [], ?_, .expired hdecide hset⟩
        simp [VerifyAction.perform, hset, Except.map, hok]
      · exact ⟨s.store, [], by simp [VerifyAction.perform, hset, Except.map], .unchanged⟩
    | @commit input mapClientId hlive hkey =>
      cases hget : s.store.maps.get? clientId with
      | none =>
        refine ⟨s.store, [], ?_, .unchanged⟩
        simp [VerifyAction.perform, MemoryTumblerStore.commitValidation, hget, Except.map,
          Except.mapError, ValidationCommitResult.fail]
      | some current =>
        obtain ⟨res, hres, houtcome⟩ := commitValidationToMap_spec current input
        rcases hpair : commitValidationToMap current input with ⟨outcome, written⟩
        rw [hpair] at hres houtcome
        obtain rfl : outcome = .ok res := hres
        have hperform : VerifyAction.perform s.store clientId (.commit input mapClientId) =
            (.ok (if res.ok = false then
                { ok := false, error := res.error.map .commit, clientId := clientId }
              else
                { ok := true, clientId := mapClientId,
                  rotationRequired := res.rotationRequired,
                  requestsRemaining := res.requestsRemaining,
                  hotpCountersRemaining := res.hotpCountersRemaining }),
              { s.store with maps := s.store.maps.set clientId written }) := by
          simp [VerifyAction.perform, MemoryTumblerStore.commitValidation, hget, hpair, Except.map,
            Except.mapError]
        simp only [hperform]
        cases houtcome with
        | refused hok => exact ⟨_, [], by simp [hok], .refused hget (.inl rfl)⟩
        | expired hok hcur =>
          exact ⟨_, [], by simp [hok, TumblerMap.expire], .refused hget (.inr ⟨hcur, rfl⟩)⟩
        | accepted hok hcommit =>
          refine ⟨_, [⟨clientId, key, input.counterMatches⟩], ?_, .accepted hget hkey hcommit⟩
          simp [hok, VerifyAction.counterMatches]

/-- The same for the handler on its own. -/
theorem resumeVerify_spec (H : HmacSha256) (config : TSKConfig) (clientId key : JsString)
    (map : TumblerMap) (clock : VerifyClock) (store : MemoryTumblerStore) :
    (∃ result counterMatches, (resumeVerify H config store clientId key map clock).1 = .ok result ∧
      result.ok = true ∧ VerifyEffect H config store clientId key map clock
        (resumeVerify H config store clientId key map clock).2 [⟨clientId, key, counterMatches⟩]) ∨
    ((∀ result, (resumeVerify H config store clientId key map clock).1 = .ok result →
      result.ok = false) ∧ VerifyEffect H config store clientId key map clock
        (resumeVerify H config store clientId key map clock).2 []) := by
  obtain ⟨store', log, heq, heffect⟩ := resumeVerify_effect H config clientId key map clock
    (ServerState.start store)
  simp only [ServerState.resumeVerify, resumeVerify, ServerState.start] at heq heffect ⊢
  cases hdecide : decideVerify H config clientId key map clock with
  | error e =>
    simp only [hdecide, ServerState.mk.injEq, List.nil_append] at heq
    obtain ⟨rfl, -, rfl, -⟩ := heq
    exact .inr ⟨by simp, heffect⟩
  | ok action =>
    simp only [hdecide] at heq ⊢
    rcases hperform : action.perform store clientId with ⟨outcome, stored⟩
    rw [hperform] at heq
    cases outcome with
    | error e =>
      simp only [ServerState.mk.injEq, List.nil_append] at heq
      obtain ⟨rfl, -, rfl, -⟩ := heq
      exact .inr ⟨by simp, heffect⟩
    | ok result =>
      simp only [ServerState.mk.injEq, List.nil_append] at heq
      obtain ⟨rfl, -, hlog, -⟩ := heq
      cases hok : result.ok with
      | true =>
        obtain rfl : [⟨clientId, key, action.counterMatches⟩] = log := by simpa [hok] using hlog
        exact .inl ⟨result, action.counterMatches, rfl, hok, heffect⟩
      | false =>
        obtain rfl : [] = log := by simpa [hok] using hlog
        exact .inr ⟨fun r hr => Except.ok.inj hr ▸ hok, heffect⟩

/-- Reading a map may drop an entry that outlived its age. -/
inductive ReadEffect (s : ServerState) (clientId : JsString) (call : TumblerMap → PendingCall) :
    ServerState → Prop
  | missing : ReadEffect s clientId call s
  | aged : ReadEffect s clientId call { s with store := s.store.delete clientId }
  | found {stored} : s.store.maps.get? clientId = some stored →
      ReadEffect s clientId call { s with pending := s.pending ++ [call stored] }

theorem read_effect (s : ServerState) (clientId : JsString) (readAt : Int)
    (call : TumblerMap → PendingCall) :
    ReadEffect s clientId call (s.read clientId readAt call) := by
  simp only [ServerState.read, MemoryTumblerStore.get]
  cases hget : s.store.maps.get? clientId with
  | none => exact .missing
  | some map =>
    simp only
    split
    · next h => split at h <;> cases h; exact .aged
    · next h =>
      split at h
      · cases h
      · obtain ⟨hmap, rfl⟩ := Prod.mk.inj h
        obtain rfl := Option.some.inj hmap
        exact .found hget

theorem ReadEffect.accepted {s t : ServerState} {call : TumblerMap → PendingCall}
    (h : ReadEffect s clientId call t) : t.accepted = s.accepted := by
  cases h <;> rfl

end TskProtocol
