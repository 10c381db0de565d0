import TskProtocol.Core.MirrorHmac
import TskProtocol.Principal.Continuity

namespace TskProtocol

inductive PrincipalCall
  | bindSession (input : BindSessionInput)
  | appendStreamEvent (principalId streamId : JsString) (eventType : PrincipalEventType)
      (payload : PayloadRecord)
  | closeSession (principalId streamId providerSessionId : JsString)

namespace MemoryPrincipalSessionLedger

section Calls

variable (S : Sha256) (H : HmacSha256)

def call (ledger : MemoryPrincipalSessionLedger) (moment : CaptureMoment) :
    PrincipalCall → Except PrincipalError Unit × MemoryPrincipalSessionLedger
  | .bindSession input =>
    let (outcome, ledger) := ledger.bindSession S H input moment
    (outcome.map fun _ => (), ledger)
  | .appendStreamEvent principalId streamId eventType payload =>
    let (outcome, ledger) := ledger.appendStreamEvent S principalId streamId eventType payload moment
    (outcome.map fun _ => (), ledger)
  | .closeSession principalId streamId providerSessionId =>
    ledger.closeSession S principalId streamId providerSessionId moment

/-- A session is bound with metadata that JSON can hold, under a stream id that no other principal
has, and a session that is active is closed on a stream of its principal. -/
def Admits (ledger : MemoryPrincipalSessionLedger) : PrincipalCall → Prop
  | .bindSession input =>
    PayloadValue.membersHaveJson (PayloadValue.sanitizeMembers input.runtimeMetadata.entries) = true ∧
    ∀ digest, principalDigestFromSecret S input.principalSecret = .ok digest → ∀ stream,
      ledger.streams.get? (makeStreamId S (principalIdFromDigest S digest) input.provider
        input.agentInstance) = some stream → stream.principalId = principalIdFromDigest S digest
  | .appendStreamEvent _ _ _ _ => True
  | .closeSession principalId streamId providerSessionId =>
    ∀ principal, ledger.principals.get? principalId = some principal →
      providerSessionId ∈ principal.activeSessionIds →
      ∃ stream, ledger.streams.get? streamId = some stream ∧ stream.principalId = principalId

end Calls

end MemoryPrincipalSessionLedger

/-- Calls in any order, whether they go through or throw. -/
def principalLedgers (S : Sha256) (H : HmacSha256) :
    Machine MemoryPrincipalSessionLedger (PrincipalCall × CaptureMoment) where
  step ledger l := some (ledger.call S H l.2 l.1).2

namespace PayloadValue

theorem sanitizeMembers_haveJson_iff {members : PayloadRecord} :
    membersHaveJson (sanitizeMembers members) = true ↔
      ∀ m ∈ members, m.1 = PROTO ∨ isSensitiveField m.1 = true ∨ m.2.sanitize.hasJson = true := by
  induction members with
  | nil => simp [sanitizeMembers, membersHaveJson]
  | cons m members ih =>
    obtain ⟨key, value⟩ := m
    rw [sanitizeMembers, List.forall_mem_cons]
    by_cases hkey : key = PROTO
    · simp [hkey, ih]
    · by_cases hsensitive : isSensitiveField key = true
      · simp [hkey, hsensitive, ih, membersHaveJson, hasJson]
      · simp [hkey, hsensitive, ih, membersHaveJson]

end PayloadValue

/-- What is collected about the runtime has JSON when what the caller tells has. -/
theorem hasJson_collectRuntimeMetadata {overrides : OrderedMap JsString PayloadValue}
    (h : PayloadValue.membersHaveJson (PayloadValue.sanitizeMembers overrides.entries) = true)
    (moment : CaptureMoment) : (collectRuntimeMetadata overrides moment).hasJson = true := by
  rw [PayloadValue.sanitizeMembers_haveJson_iff] at h
  apply PayloadValue.sanitizeMembers_haveJson_iff.mpr
  intro m hm
  rcases OrderedMap.mem_entries_set hm with rfl | hm
  · exact .inr (.inr rfl)
  rcases OrderedMap.mem_entries_set hm with rfl | hm
  · split
    · exact .inr (.inr rfl)
    · exact .inr (.inr rfl)
    · exact .inr (.inr rfl)
    · next value _ _ hget => exact h _ (OrderedMap.get?_eq_some.mp hget)
  rcases OrderedMap.mem_entries_insertAll hm with hm | hm
  · rcases OrderedMap.mem_entries_insertAll hm with hm | hm
    · cases hm
    · rcases List.mem_cons.mp hm with rfl | hm
      · exact .inr (.inr rfl)
      rcases List.mem_cons.mp hm with rfl | hm
      · exact .inr (.inr rfl)
      obtain ⟨e, -, rfl⟩ := List.mem_map.mp hm
      refine .inr (.inr ?_)
      simp only
      split <;> rfl
  · exact h m hm

namespace MemoryPrincipalSessionLedger

variable {S : Sha256} {H : HmacSha256} {ledger : MemoryPrincipalSessionLedger} {moment : CaptureMoment}

theorem sameLinks_enterSession (input : BindSessionInput) (principal : PrincipalRecord) :
    SameLinks principal (enterSession input principal) := ⟨rfl, rfl, rfl, rfl⟩

theorem haveJson_bindingPayload (input : BindSessionInput) {runtime : PayloadValue}
    (h : runtime.hasJson = true) (context : AuthorizationContext) :
    PayloadValue.membersHaveJson
      (PayloadValue.sanitizeMembers (bindingPayload input runtime context)) = true := by
  apply PayloadValue.sanitizeMembers_haveJson_iff.mpr
  have hcontext : isSensitiveField (JsString.lit "authorizationContext") = true := by decide
  simp only [bindingPayload, List.forall_mem_cons, List.not_mem_nil, false_imp_iff, implies_true, and_true]
  exact ⟨.inr (.inr rfl), .inr (.inr rfl), .inr (.inr rfl), .inr (.inr rfl),
    .inr (.inr (PayloadValue.hasJson_sanitize _ h)), .inr (.inl hcontext)⟩

/-- A call throws and leaves the ledger alone, or returns a sound one. -/
inductive CallOutcome (S : Sha256) (ledger : MemoryPrincipalSessionLedger) {α : Type} :
    Except PrincipalError α × MemoryPrincipalSessionLedger → Prop
  | throws (e : PrincipalError) : CallOutcome S ledger (.error e, ledger)
  | returns (a : α) {ledger' : MemoryPrincipalSessionLedger} : Sound S ledger' →
      CallOutcome S ledger (.ok a, ledger')

theorem CallOutcome.map {α β : Type} {r : Except PrincipalError α × MemoryPrincipalSessionLedger}
    (h : CallOutcome S ledger r) (f : α → β) : CallOutcome S ledger (r.1.map f, r.2) := by
  cases h with
  | throws e => exact .throws e
  | returns a hsound => exact .returns (f a) hsound

theorem Sound.bindSession (h : Sound S ledger) {input : BindSessionInput}
    (hadmits : ledger.Admits S (.bindSession input)) :
    CallOutcome S ledger (ledger.bindSession S H input moment) := by
  obtain ⟨hruntime, hown⟩ := hadmits
  simp only [MemoryPrincipalSessionLedger.bindSession]
  cases hcheck : checkBinding S H input moment.verifiedAt with
  | error e => exact .throws e
  | ok digest =>
    have hdigest : principalDigestFromSecret S input.principalSecret = .ok digest := by
      simp only [checkBinding, bind_eq_ok, pure_eq_ok, Except.ok.injEq] at hcheck
      obtain ⟨-, -, -, -, digest', hdigest, -, -, rfl⟩ := hcheck
      exact hdigest
    have hown := hown digest hdigest
    obtain ⟨hsound, hget, hstreams⟩ :=
      SoundBut.upsertPrincipal h digest input.authorizationContext moment.createdAt
    simp only
    generalize ledger.upsertPrincipal S digest input.authorizationContext moment.createdAt = r
      at hsound hget hstreams ⊢
    obtain ⟨principal, ledger₁⟩ := r
    simp only at hsound hget hstreams ⊢
    have hid := hsound.keyed _ principal hget
    rw [hid]
    obtain ⟨stream, principal', ledger₂, hupsert, hsound₂, hget₂, hstream, howner, hname⟩ :=
      hsound.upsertStream hget (by rw [hstreams]; exact hown) input.provider input.agentInstance
        input.providerSessionId
    have hid₂ := hsound₂.keyed _ principal' hget₂
    simp only [hupsert]
    clear hupsert hdigest hown hstreams hsound hget hid
    generalize principalIdFromDigest S digest = id at *
    subst hid₂
    have hid₃ : (enterSession input principal').principalId = principal'.principalId := rfl
    have hsound₃ := hsound₂.putPrincipal hget₂ (sameLinks_enterSession input principal')
    obtain ⟨proof, hproof⟩ := canonicalJson_ok
      [(JsString.lit "challengeNonce", .str input.proof.challengeNonce),
        (JsString.lit "signedAt", .num input.proof.signedAt),
        (JsString.lit "signature", .str input.proof.signature)] rfl
    have hpayload := haveJson_bindingPayload input
      (hasJson_collectRuntimeMetadata hruntime moment) (enterSession input principal').authorizationContext
    simp only [proofValue, hproof, hid₃]
    rcases hsound₃.appendBoth (OrderedMap.get?_set_self _ _ _) (hname ▸ hstream) howner .session_bound
      (bindingPayload input (collectRuntimeMetadata input.runtimeMetadata moment) (enterSession input principal').authorizationContext)
      { providerSessionId := some input.providerSessionId, policyDigest := some input.policyDigest,
        proofDigest := some (S.hex proof), binding := true } moment with
      ⟨e, -, hfails⟩ | ⟨appended, ledger', hboth, hstored⟩
    · rw [hpayload] at hfails
      cases hfails
    · rw [hboth]
      exact .returns _ hstored

theorem Sound.appendStreamEvent (h : Sound S ledger) (principalId streamId : JsString)
    (eventType : PrincipalEventType) (payload : PayloadRecord) :
    CallOutcome S ledger (ledger.appendStreamEvent S principalId streamId eventType payload moment) := by
  simp only [MemoryPrincipalSessionLedger.appendStreamEvent, mustPrincipal]
  cases hget : ledger.principals.get? principalId with
  | none => exact .throws _
  | some principal =>
    simp only [orThrow]
    cases hstream : ledger.streams.get? streamId with
    | none => exact .throws _
    | some stream =>
      simp only
      split
      · exact .throws _
      next howner =>
      rw [ne_eq, not_not] at howner
      have hname := h.named streamId stream hstream
      rcases (h.but principalId).appendBoth hget (hname ▸ hstream) howner eventType payload {} moment with
        ⟨e, hboth, -⟩ | ⟨appended, ledger', hboth, hsound⟩
      · rw [hboth]
        exact .throws e
      · rw [hboth]
        exact .returns _ hsound

/-- On a stream of its principal, a session's end is recorded. -/
theorem Sound.appendStreamEvent_returns (h : Sound S ledger) {principalId streamId : JsString}
    {principal : PrincipalRecord} {stream : PrincipalStreamRecord}
    (hget : ledger.principals.get? principalId = some principal)
    (hstream : ledger.streams.get? streamId = some stream) (howner : stream.principalId = principalId)
    (eventType : PrincipalEventType) {payload : PayloadRecord}
    (hpayload : PayloadValue.membersHaveJson (PayloadValue.sanitizeMembers payload) = true)
    (moment : CaptureMoment) : ∃ event ledger',
      ledger.appendStreamEvent S principalId streamId eventType payload moment = (.ok event, ledger') ∧
        Sound S ledger' := by
  have hname := h.named streamId stream hstream
  simp only [MemoryPrincipalSessionLedger.appendStreamEvent, mustPrincipal, hget, orThrow, hstream, howner,
    ne_eq, not_true_eq_false, if_false]
  rcases (h.but principalId).appendBoth hget (hname ▸ hstream) howner eventType payload {} moment with
    ⟨e, -, hfails⟩ | ⟨appended, ledger', hboth, hsound⟩
  · rw [hpayload] at hfails
    cases hfails
  · exact ⟨appended.1, ledger', by rw [hboth]; rfl, hsound⟩

theorem Sound.putPrincipal (h : Sound S ledger) {id : JsString} {principal principal' : PrincipalRecord}
    (hget : ledger.principals.get? id = some principal) (hsame : SameLinks principal principal') :
    Sound S { ledger with principals := ledger.principals.set id principal' } := by
  refine ⟨((h.but id).putPrincipal hget hsame).toLinked, fun other => ?_⟩
  by_cases hid : id = other
  · subst hid
    intro record hrecord
    rw [OrderedMap.get?_set_self, Option.some.injEq] at hrecord
    obtain ⟨latest, hlatest, hheads⟩ := h.current id principal hget
    refine ⟨latest, hlatest, hheads.trans (Eq.symm ?_)⟩
    rw [← hrecord, hsame.streamIds]
    apply headsOf_congr
    exact fun _ _ => rfl
  · exact (h.current other).frame (OrderedMap.get?_set_ne _ _ hid) rfl fun _ _ _ _ => rfl

theorem Sound.closeSession (h : Sound S ledger) {principalId streamId providerSessionId : JsString}
    (hadmits : ledger.Admits S (.closeSession principalId streamId providerSessionId)) :
    CallOutcome S ledger (ledger.closeSession S principalId streamId providerSessionId moment) := by
  simp only [MemoryPrincipalSessionLedger.closeSession, mustPrincipal]
  cases hget : ledger.principals.get? principalId with
  | none => exact .throws _
  | some principal =>
    simp only [orThrow]
    by_cases hactive : providerSessionId ∈ principal.activeSessionIds
    · obtain ⟨stream, hstream, howner⟩ := hadmits principal hget hactive
      set closed : PrincipalRecord := { principal with
        activeSessionIds := principal.activeSessionIds.filter (· ≠ providerSessionId) }
      have hsame : SameLinks principal closed := ⟨rfl, rfl, rfl, rfl⟩
      have hsound := h.putPrincipal hget hsame
      have hpayload : PayloadValue.membersHaveJson (PayloadValue.sanitizeMembers
          [(JsString.lit "providerSessionId", .str providerSessionId)]) = true := by
        apply PayloadValue.sanitizeMembers_haveJson_iff.mpr
        intro m hm
        rw [List.mem_singleton.mp hm]
        exact .inr (.inr rfl)
      obtain ⟨event, ledger', hreturns, hsound'⟩ := hsound.appendStreamEvent_returns
        (OrderedMap.get?_set_self _ _ _) hstream howner .session_closed hpayload moment
      rw [hreturns]
      exact .returns _ hsound'
    · have hfilter : principal.activeSessionIds.filter (· ≠ providerSessionId) =
          principal.activeSessionIds := by
        apply List.filter_eq_self.mpr
        intro id hid
        rw [decide_eq_true_eq]
        rintro rfl
        exact hactive hid
      rw [hfilter, OrderedMap.set_of_get? hget]
      exact (h.appendStreamEvent principalId streamId .session_closed _).map fun _ => ()

/-- One admitted call. -/
theorem Sound.call (h : Sound S ledger) {call : PrincipalCall} (hadmits : ledger.Admits S call)
    (H : HmacSha256) (moment : CaptureMoment) : CallOutcome S ledger (ledger.call S H moment call) := by
  cases call with
  | bindSession input => exact (h.bindSession hadmits).map fun _ => ()
  | appendStreamEvent principalId streamId eventType payload =>
    exact (h.appendStreamEvent principalId streamId eventType payload).map fun _ => ()
  | closeSession principalId streamId providerSessionId => exact h.closeSession hadmits

theorem Sound.start : Sound S {} :=
  ⟨⟨fun _ _ h => (by cases h), fun _ _ h => (by cases h), fun _ _ h => (by cases h),
    fun _ _ h => (by cases h), fun _ _ h => (by cases h)⟩, fun _ _ h => (by cases h)⟩

theorem Sound.of_runs {calls : List (PrincipalCall × CaptureMoment)}
    (hrun : (principalLedgers S H).Runs (fun ledger l => ledger.Admits S l.1) {} calls ledger) :
    Sound S ledger := by
  apply hrun.invariant _ Sound.start
  intro before l after hsound hadmits hstep
  obtain rfl := Option.some.inj hstep
  have houtcome := hsound.call hadmits H l.2
  generalize before.call S H l.2 l.1 = r at houtcome
  cases houtcome with
  | throws e => exact hsound
  | returns a hafter => exact hafter

end MemoryPrincipalSessionLedger

instance (S : Sha256) (ledger : MemoryPrincipalSessionLedger) (call : PrincipalCall) :
    Decidable (ledger.Admits S call) :=
  match call with
  | .bindSession input =>
    let admitted := ∀ digest ∈ (principalDigestFromSecret S input.principalSecret).toOption,
      ∀ stream ∈ ledger.streams.get? (makeStreamId S (principalIdFromDigest S digest) input.provider
        input.agentInstance), stream.principalId = principalIdFromDigest S digest
    decidable_of_iff
      (PayloadValue.membersHaveJson (PayloadValue.sanitizeMembers input.runtimeMetadata.entries) = true ∧
        admitted) (and_congr_right fun _ => by simp only [admitted, Option.mem_def, toOption_eq_some])
  | .appendStreamEvent _ _ _ _ => inferInstanceAs (Decidable True)
  | .closeSession principalId streamId providerSessionId => inferInstanceAs (Decidable
      (∀ principal ∈ ledger.principals.get? principalId, providerSessionId ∈ principal.activeSessionIds →
        ∃ stream ∈ ledger.streams.get? streamId, stream.principalId = principalId))

/-- Every principal verifies whatever calls were made, its streams are its own, and a call that
throws has changed nothing. -/
theorem principal_ledger_consistent {S : Sha256} {H : HmacSha256} {ledger : MemoryPrincipalSessionLedger}
    {calls : List (PrincipalCall × CaptureMoment)}
    (hrun : (principalLedgers S H).Runs (fun ledger l => ledger.Admits S l.1) {} calls ledger) :
    (∀ id principal, ledger.principals.get? id = some principal →
      ledger.verifyPrincipalContinuity S id = .ok { valid := true, principalId := id } ∧
      ∀ streamId ∈ principal.streamIds, ∃ stream, ledger.streams.get? streamId = some stream ∧
        stream.principalId = id) ∧
    ∀ call moment, ledger.Admits S call → ∀ e, (ledger.call S H moment call).1 = .error e →
      (ledger.call S H moment call).2 = ledger := by
  have hsound := MemoryPrincipalSessionLedger.Sound.of_runs hrun
  refine ⟨fun id principal hget => ⟨hsound.verify hget, hsound.listed id principal hget⟩, ?_⟩
  intro call moment hadmits e herror
  have houtcome := hsound.call hadmits H moment
  generalize ledger.call S H moment call = r at houtcome herror
  cases houtcome with
  | throws e => rfl
  | returns a hafter => cases herror

section Sample

def samplePrincipalSecret : JsString := List.replicate 64 97

def sampleMoment : CaptureMoment where
  verifiedAt := 5
  createdAt := 5
  recordedAt := 5
  checkpointedAt := 5
  capturedAt := JsString.lit "1970-01-01T00:00:00.005Z"
  env := []

def sampleProof : PrincipalSessionProof where
  challengeNonce := JsString.lit "nonce-nonce-nonce"
  signedAt := 0
  signature := []

def unsignedBinding : BindSessionInput where
  principalSecret := samplePrincipalSecret
  proof := sampleProof
  provider := JsString.lit "cli"
  providerSessionId := JsString.lit "session-1"
  policyDigest := JsString.lit "policy"

def samplePrincipalDigest : JsString :=
  mirrorSha256.hex (JsString.lit "tsk-principal-v1:" ++ samplePrincipalSecret)

def samplePrincipalId : JsString := principalIdFromDigest mirrorSha256 samplePrincipalDigest

def sampleBinding : BindSessionInput := { unsignedBinding with
  proof := { sampleProof with
    signature := ((signPrincipalSessionProof mirrorHmac samplePrincipalSecret
      (buildPrincipalSessionProofPayload unsignedBinding samplePrincipalDigest)).toOption).getD [] } }

def sampleStreamId : JsString :=
  makeStreamId mirrorSha256 samplePrincipalId sampleBinding.provider sampleBinding.agentInstance

end Sample

/-- A session is bound, used and closed. -/
theorem principal_ledger_consistent_sample : ∃ ledger principal,
    (principalLedgers mirrorSha256 mirrorHmac).Runs (fun ledger l => ledger.Admits mirrorSha256 l.1) {}
      [(.bindSession sampleBinding, sampleMoment),
        (.appendStreamEvent samplePrincipalId sampleStreamId .session_event
          [(JsString.lit "token", .unserializable)], sampleMoment),
        (.closeSession samplePrincipalId sampleStreamId (JsString.lit "session-1"), sampleMoment)] ledger ∧
    ledger.principals.get? samplePrincipalId = some principal ∧ principal.checkpointSeq = 3 ∧
    principal.activeSessionIds = [] ∧ ledger.verifyPrincipalContinuity mirrorSha256 samplePrincipalId =
      .ok { valid := true, principalId := samplePrincipalId } := by
  obtain ⟨ledger, hrun, hobserved⟩ := Machine.Runs.of_observed
    (M := principalLedgers mirrorSha256 mirrorHmac) (C := fun ledger l => ledger.Admits mirrorSha256 l.1) {}
    [(.bindSession sampleBinding, sampleMoment),
      (.appendStreamEvent samplePrincipalId sampleStreamId .session_event
        [(JsString.lit "token", .unserializable)], sampleMoment),
      (.closeSession samplePrincipalId sampleStreamId (JsString.lit "session-1"), sampleMoment)]
    (fun ledger => (ledger.principals.get? samplePrincipalId).map
      fun principal => (principal.checkpointSeq, principal.activeSessionIds))
    (b := some (3, [])) (by decide +kernel)
  obtain ⟨principal, hget, hprincipal⟩ := Option.map_eq_some_iff.mp hobserved
  rw [Prod.mk.injEq] at hprincipal
  exact ⟨ledger, principal, hrun, hget, hprincipal.1, hprincipal.2,
    ((principal_ledger_consistent hrun).1 samplePrincipalId principal hget).1⟩

/-- A session that is closed on an unknown stream is gone although the call throws.  A binding with
metadata that has no JSON throws behind its first writes, and the principal no longer verifies. -/
theorem principal_ledger_changed_by_throw :
    let bind := fun input => ({} : MemoryPrincipalSessionLedger).call mirrorSha256 mirrorHmac sampleMoment
      (.bindSession input)
    let bound := (bind sampleBinding).2
    let close := bound.call mirrorSha256 mirrorHmac sampleMoment
      (.closeSession samplePrincipalId (JsString.lit "stream_other") (JsString.lit "session-1"))
    let failed := bind { sampleBinding with
      runtimeMetadata := .ofEntries [(JsString.lit "raw", .unserializable)] }
    (bind sampleBinding).1 = .ok () ∧ close.1 = .error .unknownStream ∧
    (bound.principals.get? samplePrincipalId).map (·.activeSessionIds) = some [JsString.lit "session-1"] ∧
    (close.2.principals.get? samplePrincipalId).map (·.activeSessionIds) = some [] ∧
    failed.1 = .error .unserializable ∧ failed.2.principals.size = 1 ∧
    failed.2.verifyPrincipalContinuity mirrorSha256 samplePrincipalId = .ok {
      valid := false
      principalId := samplePrincipalId
      brokenAt := some (JsString.lit "checkpoint:head")
      reason := some .principal_checkpoint_head_mismatch } := by
  decide +kernel

end TskProtocol
