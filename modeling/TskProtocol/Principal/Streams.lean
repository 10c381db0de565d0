import TskProtocol.Outbox.Contract
import TskProtocol.Outbox.Utf8
import TskProtocol.Principal.Calls

namespace TskProtocol

/-- `sha256` of a text hashes its UTF-8 bytes. -/
def Sha256Bytes.ofText (D : Sha256Bytes) : Sha256 where
  hex s := D.hex s.utf8
  length_hex s := D.length_hex s.utf8
  lower_hex s := D.lower_hex s.utf8

/-- What a stream is named after. -/
structure StreamKey where
  principalId : JsString
  provider : JsString
  agentInstanceId : JsString
  deriving DecidableEq

namespace StreamKey

def text (key : StreamKey) : JsString :=
  key.principalId ++ JsString.lit ":" ++ key.provider ++ JsString.lit ":" ++ key.agentInstanceId

def streamId (S : Sha256) (key : StreamKey) : JsString := makeStreamId S key.principalId key.provider key.agentInstanceId

/-- The part of one provider that runs over a colon stands in the other's agent instance id. -/
def Overlaps (key other : StreamKey) : Prop :=
  ∃ shared, other.provider.points = key.provider.points ++ 58 :: shared ∧
    key.agentInstanceId.points = shared ++ 58 :: other.agentInstanceId.points

/-- The provider and the agent instance of one cannot be told from those of the other once they are joined.
Lone surrogates all have the same bytes. -/
def Merges (key other : StreamKey) : Prop :=
  (key.provider.points = other.provider.points ∧ key.agentInstanceId.points = other.agentInstanceId.points) ∨
    key.Overlaps other ∨ other.Overlaps key

end StreamKey

namespace JsString

/-- A colon pairs with no surrogate. -/
theorem points_append_colon (s t : JsString) : points (s ++ 58 :: t) = points s ++ 58 :: points t := by
  have hcolon (t : JsString) : points (58 :: t) = 58 :: points t :=
    WellFormed.points_unit (by decide) (by decide)
  induction s using points.induct with
  | case1 => exact hcolon t
  | case2 c =>
    have hlow : isLowSurrogate 58 = false := by decide
    have hunit : points (c :: 58 :: t) = unitPoint c :: points (58 :: t) := by
      rw [points, if_neg (by simp [hlow])]
    rw [List.singleton_append, hunit, hcolon]
    rfl
  | case3 c d rest h ih =>
    rw [List.cons_append, List.cons_append, points, if_pos h, points, if_pos h, ih, List.cons_append]
  | case4 c d rest h ih =>
    rw [List.cons_append, List.cons_append, points, if_neg h, points, if_neg h, List.cons_append]
    rw [List.cons_append] at ih
    rw [ih]

theorem utf8_eq_iff {s t : JsString} : utf8 s = utf8 t ↔ points s = points t := by
  constructor
  · intro h
    rw [utf8_eq, utf8_eq] at h
    exact flatMap_encodePoint_inj (points_lt s) (points_lt t) h
  · intro h
    rw [utf8_eq, utf8_eq, h]

end JsString

theorem append_cons_eq_iff {α : Type} {a : α} {xs ys xs' ys' : List α} : xs ++ a :: ys = xs' ++ a :: ys' ↔
    (xs = xs' ∧ ys = ys') ∨ (∃ w, xs' = xs ++ a :: w ∧ ys = w ++ a :: ys') ∨
      ∃ w, xs = xs' ++ a :: w ∧ ys' = w ++ a :: ys := by
  rw [List.append_eq_append_iff]
  constructor
  · rintro (⟨w, hxs, hys⟩ | ⟨w, hxs, hys⟩)
    · cases w with
      | nil => exact .inl ⟨by rw [hxs, List.append_nil], (List.cons.inj hys).2⟩
      | cons b w =>
        rw [List.cons_append, List.cons.injEq] at hys
        exact .inr (.inl ⟨w, hys.1 ▸ hxs, hys.2⟩)
    · cases w with
      | nil => exact .inl ⟨by rw [hxs, List.append_nil], (List.cons.inj hys).2.symm⟩
      | cons b w =>
        rw [List.cons_append, List.cons.injEq] at hys
        exact .inr (.inr ⟨w, hys.1 ▸ hxs, hys.2⟩)
  · rintro (⟨rfl, rfl⟩ | ⟨w, hxs, hys⟩ | ⟨w, hxs, hys⟩)
    · exact .inl ⟨[], (List.append_nil _).symm, rfl⟩
    · exact .inl ⟨a :: w, hxs, by rw [hys, List.cons_append]⟩
    · exact .inr ⟨a :: w, hxs, by rw [hys, List.cons_append]⟩

namespace StreamKey

theorem points_text (key : StreamKey) : key.text.points =
    key.principalId.points ++ 58 :: (key.provider.points ++ 58 :: key.agentInstanceId.points) := by
  have hcolon : JsString.lit ":" = [58] := by decide
  have htext : key.text = key.principalId ++ 58 :: (key.provider ++ 58 :: key.agentInstanceId) := by
    simp [text, hcolon]
  rw [htext, JsString.points_append_colon, JsString.points_append_colon]

/-- The texts of one principal. -/
theorem utf8_text_eq_iff {key other : StreamKey} (h : key.principalId = other.principalId) :
    key.text.utf8 = other.text.utf8 ↔ key.Merges other := by
  rw [JsString.utf8_eq_iff, points_text, points_text, h, List.append_cancel_left_eq, List.cons.injEq,
    append_cons_eq_iff]
  simp only [true_and]
  rfl

end StreamKey

namespace MemoryPrincipalSessionLedger

section Keys

variable (S : Sha256) (H : HmacSha256)

/-- The key of a binding whose checks pass. -/
def bindingKey (input : BindSessionInput) (now : Int) : Option StreamKey :=
  (checkBinding S H input now).toOption.map fun digest =>
    ⟨principalIdFromDigest S digest, input.provider, input.agentInstance⟩

/-- The keys of the bindings among some calls. -/
def bindingKeys (calls : List (PrincipalCall × CaptureMoment)) : List StreamKey :=
  calls.filterMap fun l =>
    match l.1 with
    | .bindSession input => bindingKey S H input l.2.verifiedAt
    | _ => none

end Keys

section Frame

variable {S : Sha256} {ledger ledger' : MemoryPrincipalSessionLedger}

/-- Nothing but one stream has changed. -/
structure Besides (streamId : JsString) (ledger ledger' : MemoryPrincipalSessionLedger) : Prop where
  streams : ∀ other, other ≠ streamId → ledger'.streams.get? other = ledger.streams.get? other
  events : ∀ other, other ≠ streamId → ledger'.eventsOf other = ledger.eventsOf other

theorem Besides.refl (streamId : JsString) (ledger : MemoryPrincipalSessionLedger) : Besides streamId ledger ledger :=
  ⟨fun _ _ => rfl, fun _ _ => rfl⟩

theorem Besides.trans {streamId : JsString} {ledger'' : MemoryPrincipalSessionLedger}
    (h : Besides streamId ledger ledger') (h' : Besides streamId ledger' ledger'') :
    Besides streamId ledger ledger'' :=
  ⟨fun other hne => (h'.streams other hne).trans (h.streams other hne),
    fun other hne => (h'.events other hne).trans (h.events other hne)⟩

theorem besides_appendBoth (ledger : MemoryPrincipalSessionLedger) (principal : PrincipalRecord)
    (stream : PrincipalStreamRecord) (eventType : PrincipalEventType) (payload : PayloadRecord)
    (options : EventOptions) (moment : CaptureMoment) : Besides stream.streamId ledger
      (ledger.appendBoth S principal stream eventType payload options moment).2 := by
  rw [MemoryPrincipalSessionLedger.appendBoth]
  cases hevent : ledger.appendEventToStream S stream eventType payload options moment.recordedAt with
  | error e => exact .refl _ _
  | ok r =>
    obtain ⟨event, appended⟩ := r
    obtain ⟨-, -, -, rfl⟩ := appendEventToStream_ok hevent
    have happended : Besides stream.streamId ledger { ledger with
        events := ledger.events.set stream.streamId (ledger.eventsOf stream.streamId ++ [event])
        streams := ledger.streams.set stream.streamId
          { stream with seq := stream.seq + 1, headHash := event.chainHash } } := by
      refine ⟨fun other hne => OrderedMap.get?_set_ne _ _ hne.symm, fun other hne => ?_⟩
      rw [eventsOf_set, if_neg hne.symm]
    obtain ⟨checkpoint, -, -, -, -, hcheckpoint⟩ := appendCheckpoint_ok (S := S) { ledger with
        events := ledger.events.set stream.streamId (ledger.eventsOf stream.streamId ++ [event])
        streams := ledger.streams.set stream.streamId
          { stream with seq := stream.seq + 1, headHash := event.chainHash } } principal moment.checkpointedAt
    simp only [hcheckpoint]
    exact happended.trans ⟨fun _ _ => rfl, fun _ _ => rfl⟩

theorem besides_upsertStream (ledger : MemoryPrincipalSessionLedger) (principal : PrincipalRecord)
    (streamId provider agentInstanceId providerSessionId : JsString) :
    Besides streamId ledger
      (ledger.upsertStream principal streamId provider agentInstanceId providerSessionId).2.2 := by
  rw [MemoryPrincipalSessionLedger.upsertStream]
  cases ledger.streams.get? streamId with
  | some existing => exact ⟨fun other hne => OrderedMap.get?_set_ne _ _ hne.symm, fun _ _ => rfl⟩
  | none =>
    refine ⟨fun other hne => OrderedMap.get?_set_ne _ _ hne.symm, fun other hne => ?_⟩
    rw [eventsOf_set, if_neg hne.symm]

theorem besides_upsertPrincipal (streamId : JsString) (ledger : MemoryPrincipalSessionLedger)
    (principalDigest : JsString) (context : Option AuthorizationContext) (now : Int) :
    Besides streamId ledger (ledger.upsertPrincipal S principalDigest context now).2 := by
  rw [MemoryPrincipalSessionLedger.upsertPrincipal]
  cases ledger.principals.get? (principalIdFromDigest S principalDigest) with
  | some existing => exact .refl _ _
  | none => exact ⟨fun _ _ => rfl, fun _ _ => rfl⟩

end Frame

def Keyed (principals : OrderedMap JsString PrincipalRecord) : Prop :=
  ∀ id principal, principals.get? id = some principal → principal.principalId = id

theorem Keyed.set {principals : OrderedMap JsString PrincipalRecord} (h : Keyed principals) {id : JsString}
    {principal : PrincipalRecord} (hid : principal.principalId = id) : Keyed (principals.set id principal) := by
  intro other record hrecord
  rw [OrderedMap.get?_set] at hrecord
  split at hrecord
  · next heq => rw [← Option.some.inj hrecord, hid, heq]
  · exact h other record hrecord

/-- Each stream is named after one of the keys, and its events say so. -/
structure Attributed (S : Sha256) (keys : List StreamKey) (ledger : MemoryPrincipalSessionLedger) : Prop where
  keyed : Keyed ledger.principals
  named : ∀ streamId stream, ledger.streams.get? streamId = some stream → stream.streamId = streamId ∧
    ∃ key ∈ keys, key.streamId S = streamId ∧
      key = ⟨stream.principalId, stream.provider, stream.agentInstanceId⟩
  events : ∀ streamId stream, ledger.streams.get? streamId = some stream → ∀ event ∈ ledger.eventsOf streamId,
    event.provider = stream.provider ∧ event.agentInstanceId = stream.agentInstanceId
  present : ∀ key ∈ keys, ∃ stream, ledger.streams.get? (key.streamId S) = some stream

namespace Attributed

variable {S : Sha256} {H : HmacSha256} {keys : List StreamKey} {ledger ledger' : MemoryPrincipalSessionLedger}

theorem congr (h : Attributed S keys ledger) (hstreams : ledger'.streams = ledger.streams)
    (hevents : ledger'.events = ledger.events) (hkeyed : Keyed ledger'.principals) : Attributed S keys ledger' := by
  have heventsOf (streamId : JsString) : ledger'.eventsOf streamId = ledger.eventsOf streamId := by
    rw [eventsOf, eventsOf, hevents]
  refine ⟨hkeyed, ?_, ?_, ?_⟩
  · rw [hstreams]
    exact h.named
  · simp only [hstreams, heventsOf]
    exact h.events
  · rw [hstreams]
    exact h.present

theorem appendEvent (h : Attributed S keys ledger) {stream : PrincipalStreamRecord}
    {eventType : PrincipalEventType} {payload : PayloadRecord} {options : EventOptions} {now : Int}
    {event : PrincipalStreamEvent} (hstream : ledger.streams.get? stream.streamId = some stream)
    (hevent : ledger.appendEventToStream S stream eventType payload options now = .ok (event, ledger')) :
    Attributed S keys ledger' := by
  simp only [appendEventToStream, bind_eq_ok, pure_eq_ok, Except.ok.injEq, Prod.mk.injEq] at hevent
  obtain ⟨text, -, chainHash, -, hevent, rfl⟩ := hevent
  have hsays : event.provider = stream.provider ∧ event.agentInstanceId = stream.agentInstanceId := by
    rw [← hevent]
    exact ⟨rfl, rfl⟩
  rw [hevent]
  refine ⟨h.keyed, ?_, ?_, ?_⟩
  · intro sid record hsid
    rw [OrderedMap.get?_set] at hsid
    split at hsid
    · next heq =>
      obtain rfl := Option.some.inj hsid
      exact heq ▸ h.named stream.streamId stream hstream
    · exact h.named sid record hsid
  · intro sid record hsid
    rw [OrderedMap.get?_set] at hsid
    rw [eventsOf_set]
    split at hsid
    · next heq =>
      obtain rfl := Option.some.inj hsid
      rw [if_pos heq]
      intro entry hentry
      rcases List.mem_append.mp hentry with hold | hnew
      · exact h.events stream.streamId stream hstream entry hold
      · obtain rfl := List.mem_singleton.mp hnew
        exact hsays
    · next hne =>
      rw [if_neg hne]
      exact h.events sid record hsid
  · intro key hkey
    rw [OrderedMap.get?_set]
    split
    · exact ⟨_, rfl⟩
    · exact h.present key hkey

theorem appendBoth (h : Attributed S keys ledger) (principal : PrincipalRecord) {stream : PrincipalStreamRecord}
    (hstream : ledger.streams.get? stream.streamId = some stream) (eventType : PrincipalEventType)
    (payload : PayloadRecord) (options : EventOptions) (moment : CaptureMoment) :
    Attributed S keys (ledger.appendBoth S principal stream eventType payload options moment).2 := by
  rw [MemoryPrincipalSessionLedger.appendBoth]
  cases hevent : ledger.appendEventToStream S stream eventType payload options moment.recordedAt with
  | error e => exact h
  | ok r =>
    obtain ⟨event, appended⟩ := r
    have hafterEvent := h.appendEvent hstream hevent
    obtain ⟨checkpoint, -, -, -, -, hcheckpoint⟩ :=
      appendCheckpoint_ok (S := S) appended principal moment.checkpointedAt
    simp only [hcheckpoint]
    exact hafterEvent.congr rfl rfl (hafterEvent.keyed.set rfl)

theorem upsertStream (h : Attributed S keys ledger) (principal : PrincipalRecord)
    (provider agentInstanceId providerSessionId : JsString)
    {r : PrincipalStreamRecord × PrincipalRecord × MemoryPrincipalSessionLedger}
    (hr : ledger.upsertStream principal (makeStreamId S principal.principalId provider agentInstanceId) provider
      agentInstanceId providerSessionId = r) :
    Attributed S (keys ++ [⟨principal.principalId, provider, agentInstanceId⟩]) r.2.2 ∧
      r.1.streamId = makeStreamId S principal.principalId provider agentInstanceId ∧
      r.2.2.streams.get? r.1.streamId = some r.1 := by
  subst hr
  rw [MemoryPrincipalSessionLedger.upsertStream]
  set key : StreamKey := ⟨principal.principalId, provider, agentInstanceId⟩
  have hid : makeStreamId S principal.principalId provider agentInstanceId = key.streamId S := rfl
  rw [hid]
  cases hget : ledger.streams.get? (key.streamId S) with
  | some existing =>
    obtain ⟨hname, found, hfound, hid, hkey⟩ := h.named _ existing hget
    refine ⟨⟨h.keyed, ?_, ?_, ?_⟩, hname, ?_⟩
    · intro sid record hsid
      rw [OrderedMap.get?_set] at hsid
      split at hsid
      · next heq =>
        obtain rfl := Option.some.inj hsid
        exact ⟨hname.trans heq, found, List.mem_append_left _ hfound, hid.trans heq, hkey⟩
      · obtain ⟨hname, found, hfound, hid, hkey⟩ := h.named sid record hsid
        exact ⟨hname, found, List.mem_append_left _ hfound, hid, hkey⟩
    · intro sid record hsid
      rw [OrderedMap.get?_set] at hsid
      split at hsid
      · next heq =>
        obtain rfl := Option.some.inj hsid
        exact heq ▸ h.events _ existing hget
      · exact h.events sid record hsid
    · intro key' hkey'
      rw [OrderedMap.get?_set]
      split
      · exact ⟨_, rfl⟩
      · next hne =>
        rcases List.mem_append.mp hkey' with hold | hnew
        · exact h.present key' hold
        · exact (hne (by rw [List.mem_singleton.mp hnew])).elim
    · simp only [hname, OrderedMap.get?_set_self]
  | none =>
    refine ⟨⟨h.keyed.set rfl, ?_, ?_, ?_⟩, rfl, ?_⟩
    · intro sid record hsid
      rw [OrderedMap.get?_set] at hsid
      split at hsid
      · next heq =>
        obtain rfl := Option.some.inj hsid
        exact ⟨heq, key, List.mem_append_right _ (List.mem_singleton.mpr rfl), heq, rfl⟩
      · obtain ⟨hname, found, hfound, hid, hkey⟩ := h.named sid record hsid
        exact ⟨hname, found, List.mem_append_left _ hfound, hid, hkey⟩
    · intro sid record hsid
      rw [OrderedMap.get?_set] at hsid
      rw [eventsOf_set]
      split at hsid
      · next heq =>
        rw [if_pos heq]
        exact fun _ hevent => by cases hevent
      · next hne =>
        rw [if_neg hne]
        exact h.events sid record hsid
    · intro key' hkey'
      rw [OrderedMap.get?_set]
      split
      · exact ⟨_, rfl⟩
      · next hne =>
        rcases List.mem_append.mp hkey' with hold | hnew
        · exact h.present key' hold
        · exact (hne (by rw [List.mem_singleton.mp hnew])).elim
    · simp only [OrderedMap.get?_set_self]

theorem upsertPrincipal (h : Attributed S keys ledger) (principalDigest : JsString)
    (context : Option AuthorizationContext) (now : Int) :
    (ledger.upsertPrincipal S principalDigest context now).1.principalId = principalIdFromDigest S principalDigest ∧
      Attributed S keys (ledger.upsertPrincipal S principalDigest context now).2 := by
  rw [MemoryPrincipalSessionLedger.upsertPrincipal]
  cases hget : ledger.principals.get? (principalIdFromDigest S principalDigest) with
  | some existing => exact ⟨h.keyed _ existing hget, h⟩
  | none => exact ⟨rfl, h.congr rfl rfl (h.keyed.set rfl)⟩

/-- A binding opens or extends the stream of its key, and touches no other. -/
theorem bindSession (h : Attributed S keys ledger) (input : BindSessionInput) (moment : CaptureMoment) :
    Attributed S (keys ++ (bindingKey S H input moment.verifiedAt).toList) (ledger.bindSession S H input moment).2 ∧
      ∀ key, bindingKey S H input moment.verifiedAt = some key →
        Besides (key.streamId S) ledger (ledger.bindSession S H input moment).2 := by
  rw [bindingKey]
  simp only [MemoryPrincipalSessionLedger.bindSession]
  cases checkBinding S H input moment.verifiedAt with
  | error e =>
    rw [show (Except.error e : Except PrincipalError JsString).toOption = none from rfl, Option.map_none,
      Option.toList_none, List.append_nil]
    exact ⟨h, fun _ hkey => by cases hkey⟩
  | ok digest =>
    obtain ⟨hid, hentered⟩ := h.upsertPrincipal digest input.authorizationContext moment.createdAt
    have hbesides (streamId : JsString) :=
      besides_upsertPrincipal (S := S) streamId ledger digest input.authorizationContext moment.createdAt
    simp only
    generalize MemoryPrincipalSessionLedger.upsertPrincipal S ledger digest input.authorizationContext
      moment.createdAt = r at hid hentered hbesides ⊢
    obtain ⟨principal, ledger₁⟩ := r
    simp only at hid hentered hbesides ⊢
    rw [show (Except.ok digest : Except PrincipalError JsString).toOption = some digest from rfl, Option.map_some,
      Option.toList_some, ← hid]
    have hopens := besides_upsertStream ledger₁ principal
      (makeStreamId S principal.principalId input.provider input.agentInstance) input.provider input.agentInstance
      input.providerSessionId
    generalize hr : ledger₁.upsertStream principal
      (makeStreamId S principal.principalId input.provider input.agentInstance) input.provider input.agentInstance
      input.providerSessionId = r at hopens
    obtain ⟨hopened, hname, hstream⟩ := hentered.upsertStream principal input.provider input.agentInstance
      input.providerSessionId hr
    obtain ⟨stream, principal', ledger₂⟩ := r
    simp only at hopened hname hstream hopens ⊢
    have hstored : Attributed S (keys ++ [⟨principal.principalId, input.provider, input.agentInstance⟩])
        { ledger₂ with
          principals := (ledger₂.principals.set (enterSession input principal').principalId
            (enterSession input principal')) } := hopened.congr rfl rfl (hopened.keyed.set rfl)
    have hputs : Besides (makeStreamId S principal.principalId input.provider input.agentInstance) ledger
        { ledger₂ with
          principals := (ledger₂.principals.set (enterSession input principal').principalId
            (enterSession input principal')) } :=
      ((hbesides _).trans hopens).trans ⟨fun _ _ => rfl, fun _ _ => rfl⟩
    cases canonicalJson (proofValue input.proof) with
    | error e =>
      refine ⟨hstored, ?_⟩
      rintro key ⟨⟩
      exact hputs
    | ok proof =>
      refine ⟨hstored.appendBoth _ hstream _ _ _ moment, ?_⟩
      rintro key ⟨⟩
      exact hputs.trans (hname ▸ besides_appendBoth _ _ stream _ _ _ moment)

theorem appendStreamEvent (h : Attributed S keys ledger) (principalId streamId : JsString)
    (eventType : PrincipalEventType) (payload : PayloadRecord) (moment : CaptureMoment) :
    Attributed S keys (ledger.appendStreamEvent S principalId streamId eventType payload moment).2 := by
  rw [MemoryPrincipalSessionLedger.appendStreamEvent]
  cases ledger.mustPrincipal principalId with
  | error e => exact h
  | ok principal =>
    cases hstream : ledger.streams.get? streamId with
    | none => exact h
    | some stream =>
      simp only
      split
      · exact h
      · have hname := (h.named streamId stream hstream).1
        exact h.appendBoth principal (hname ▸ hstream) eventType payload {} moment

theorem closeSession (h : Attributed S keys ledger) (principalId streamId providerSessionId : JsString)
    (moment : CaptureMoment) :
    Attributed S keys (ledger.closeSession S principalId streamId providerSessionId moment).2 := by
  rw [MemoryPrincipalSessionLedger.closeSession, mustPrincipal]
  cases hget : ledger.principals.get? principalId with
  | none => exact h
  | some principal =>
    have hclosed : Attributed S keys { ledger with principals := ledger.principals.set principalId { principal with
        activeSessionIds := principal.activeSessionIds.filter (· ≠ providerSessionId) } } :=
      h.congr rfl rfl (h.keyed.set (h.keyed principalId principal hget))
    exact hclosed.appendStreamEvent principalId streamId .session_closed
      [(JsString.lit "providerSessionId", .str providerSessionId)] moment

theorem call (h : Attributed S keys ledger) (l : PrincipalCall × CaptureMoment) :
    Attributed S (keys ++ bindingKeys S H [l]) (ledger.call S H l.2 l.1).2 := by
  obtain ⟨call, moment⟩ := l
  cases call with
  | bindSession input =>
    have hkeys : bindingKeys S H [(.bindSession input, moment)] =
        (bindingKey S H input moment.verifiedAt).toList := by
      cases hkey : bindingKey S H input moment.verifiedAt <;> simp [bindingKeys, hkey]
    rw [hkeys]
    exact (h.bindSession input moment).1
  | appendStreamEvent principalId streamId eventType payload =>
    rw [show bindingKeys S H [(.appendStreamEvent principalId streamId eventType payload, moment)] = [] from rfl,
      List.append_nil]
    exact h.appendStreamEvent principalId streamId eventType payload moment
  | closeSession principalId streamId providerSessionId =>
    rw [show bindingKeys S H [(.closeSession principalId streamId providerSessionId, moment)] = [] from rfl,
      List.append_nil]
    exact h.closeSession principalId streamId providerSessionId moment

theorem of_runs {calls : List (PrincipalCall × CaptureMoment)}
    (hrun : (principalLedgers S H).Reaches {} calls ledger) : Attributed S (bindingKeys S H calls) ledger := by
  generalize hstart : ({} : MemoryPrincipalSessionLedger) = start at hrun
  induction hrun with
  | nil =>
    subst hstart
    exact ⟨fun _ _ h => (by cases h), fun _ _ h => (by cases h), fun _ _ h => (by cases h), fun _ h => (by cases h)⟩
  | @snoc t u ls l hrun hC hstep ih =>
    obtain rfl := Option.some.inj hstep
    have hkeys : bindingKeys S H (ls ++ [l]) = bindingKeys S H ls ++ bindingKeys S H [l] := List.filterMap_append
    rw [hkeys]
    exact ih.call l

theorem principalId_upsertStream (ledger : MemoryPrincipalSessionLedger) (principal : PrincipalRecord)
    (streamId provider agentInstanceId providerSessionId : JsString) :
    (ledger.upsertStream principal streamId provider agentInstanceId providerSessionId).2.1.principalId =
      principal.principalId := by
  rw [MemoryPrincipalSessionLedger.upsertStream]
  cases ledger.streams.get? streamId <;> rfl

/-- A binding that is accepted is of its key's stream. -/
theorem accepted (h : Attributed S keys ledger) {input : BindSessionInput} {moment : CaptureMoment}
    {binding : SessionBinding} (haccepted : (ledger.bindSession S H input moment).1 = .ok binding) :
    bindingKey S H input moment.verifiedAt =
        some ⟨binding.principalId, binding.provider, binding.agentInstanceId⟩ ∧
      binding.streamId = StreamKey.streamId S ⟨binding.principalId, binding.provider, binding.agentInstanceId⟩ := by
  rw [bindingKey]
  simp only [MemoryPrincipalSessionLedger.bindSession] at haccepted
  cases hcheck : checkBinding S H input moment.verifiedAt with
  | error e =>
    rw [hcheck] at haccepted
    cases haccepted
  | ok digest =>
    obtain ⟨hid, -⟩ := h.upsertPrincipal digest input.authorizationContext moment.createdAt
    rw [hcheck] at haccepted
    simp only at haccepted
    generalize MemoryPrincipalSessionLedger.upsertPrincipal S ledger digest input.authorizationContext
      moment.createdAt = r at hid haccepted
    obtain ⟨principal, ledger₁⟩ := r
    simp only at hid haccepted
    have hsame := principalId_upsertStream ledger₁ principal
      (makeStreamId S principal.principalId input.provider input.agentInstance) input.provider input.agentInstance
      input.providerSessionId
    generalize ledger₁.upsertStream principal
      (makeStreamId S principal.principalId input.provider input.agentInstance) input.provider input.agentInstance
      input.providerSessionId = r at hsame haccepted
    obtain ⟨stream, principal', ledger₂⟩ := r
    simp only at hsame haccepted
    cases hproof : canonicalJson (proofValue input.proof) with
    | error e =>
      rw [hproof] at haccepted
      cases haccepted
    | ok proof =>
      rw [hproof] at haccepted
      obtain ⟨appended, -, rfl⟩ := map_eq_ok.mp haccepted
      have hbound : (enterSession input principal').principalId = principal.principalId := hsame
      simp only [hbound]
      exact ⟨by rw [hid]; rfl, rfl⟩

end Attributed

end MemoryPrincipalSessionLedger

section Separation

open MemoryPrincipalSessionLedger

variable {S : Sha256} {D : Sha256Bytes} {H : HmacSha256}

theorem ascii_principalId (S : Sha256) (digest : JsString) :
    ∀ c ∈ principalIdFromDigest S digest, JsString.isAscii c = true := by
  intro c hc
  rcases List.mem_append.mp hc with hprefix | hhex
  · have hall : (JsString.lit "principal_").all JsString.isAscii = true := by decide
    exact List.all_eq_true.mp hall c hprefix
  · have hlower := S.lower_hex _ c (List.mem_of_mem_take hhex)
    simp only [isLowerHexDigit, Bool.or_eq_true, Bool.and_eq_true, decide_eq_true_eq,
      UInt16.le_iff_toNat_le, UInt16.reduceToNat] at hlower
    simp only [JsString.isAscii, decide_eq_true_eq, UInt16.lt_iff_toNat_lt, UInt16.reduceToNat]
    omega

theorem length_principalId (S : Sha256) (digest : JsString) : (principalIdFromDigest S digest).length = 34 := by
  have hprefix : (JsString.lit "principal_").length = 10 := by decide
  rw [principalIdFromDigest, List.length_append, List.length_take, S.length_hex, hprefix]
  rfl

theorem points_ascii {s : JsString} (h : ∀ c ∈ s, JsString.isAscii c = true) :
    s.points = s.map UInt16.toNat := by
  have hs := JsString.WellFormed.of_ascii h
  induction hs with
  | nil => rfl
  | unit hhigh hlow _ ih =>
    rw [List.forall_mem_cons] at h
    rw [JsString.WellFormed.points_unit hhigh hlow, ih h.2, List.map_cons]
  | pair hhigh _ _ _ =>
    rw [List.forall_mem_cons] at h
    cases (JsString.not_high_of_ascii h.1).symm.trans hhigh

theorem mem_bindingKeys {calls : List (PrincipalCall × CaptureMoment)} {key : StreamKey}
    (h : key ∈ bindingKeys S H calls) : ∃ digest, key.principalId = principalIdFromDigest S digest := by
  obtain ⟨⟨call, moment⟩, -, hkey⟩ := List.mem_filterMap.mp h
  cases call with
  | bindSession input =>
    obtain ⟨digest, -, rfl⟩ := Option.map_eq_some_iff.mp hkey
    exact ⟨digest, rfl⟩
  | appendStreamEvent => cases hkey
  | closeSession => cases hkey

/-- Principal ids have one length, so that a text shows its principal. -/
theorem principalId_of_text {calls : List (PrincipalCall × CaptureMoment)} {key other : StreamKey}
    (hkey : key ∈ bindingKeys S H calls) (hother : other ∈ bindingKeys S H calls)
    (h : key.text.utf8 = other.text.utf8) : key.principalId = other.principalId := by
  obtain ⟨digest, hdigest⟩ := mem_bindingKeys hkey
  obtain ⟨digest', hdigest'⟩ := mem_bindingKeys hother
  have hascii := hdigest ▸ ascii_principalId S digest
  have hascii' := hdigest' ▸ ascii_principalId S digest'
  rw [JsString.utf8_eq_iff, StreamKey.points_text, StreamKey.points_text] at h
  have hlength : key.principalId.points.length = other.principalId.points.length := by
    rw [points_ascii hascii, points_ascii hascii', List.length_map, List.length_map, hdigest, hdigest',
      length_principalId, length_principalId]
  exact JsString.WellFormed.points_inj (.of_ascii hascii) (.of_ascii hascii') (List.append_inj h hlength).1

/-- The truncated hash tells the texts that streams are named after apart. -/
def StreamKeysApart (D : Sha256Bytes) (keys : List StreamKey) : Prop :=
  ∀ key ∈ keys, ∀ other ∈ keys,
    (D.hex key.text.utf8).take 24 = (D.hex other.text.utf8).take 24 → key.text.utf8 = other.text.utf8

theorem streamId_eq_iff {keys : List StreamKey} (h : StreamKeysApart D keys) {key other : StreamKey}
    (hkey : key ∈ keys) (hother : other ∈ keys) :
    key.streamId D.ofText = other.streamId D.ofText ↔ key.text.utf8 = other.text.utf8 := by
  have hid (key : StreamKey) :
      key.streamId D.ofText = JsString.lit "stream_" ++ (D.hex key.text.utf8).take 24 := rfl
  rw [hid, hid, List.append_cancel_left_eq]
  constructor
  · exact h key hkey other hother
  · intro heq
    rw [heq]

/-- Two bindings of a principal share a stream exactly if their joined texts do, and without such bindings every
stream has the events of one agent instance only. -/
theorem streams_of_instances {calls : List (PrincipalCall × CaptureMoment)} {ledger : MemoryPrincipalSessionLedger}
    (hrun : (principalLedgers D.ofText H).Reaches {} calls ledger)
    (hapart : StreamKeysApart D (bindingKeys D.ofText H calls)) :
    (∀ key ∈ bindingKeys D.ofText H calls, ∀ other ∈ bindingKeys D.ofText H calls,
      key.principalId = other.principalId →
        (key.streamId D.ofText = other.streamId D.ofText ↔ key.Merges other)) ∧
    ((∀ key ∈ bindingKeys D.ofText H calls, ∀ other ∈ bindingKeys D.ofText H calls,
        key.principalId = other.principalId → key.Merges other → key = other) →
      ∀ key ∈ bindingKeys D.ofText H calls, ∃ stream, ledger.streams.get? (key.streamId D.ofText) = some stream ∧
        key = ⟨stream.principalId, stream.provider, stream.agentInstanceId⟩ ∧
        ∀ event ∈ ledger.eventsOf (key.streamId D.ofText),
          event.provider = key.provider ∧ event.agentInstanceId = key.agentInstanceId) ∧
    (∀ input moment key, bindingKey D.ofText H input moment.verifiedAt = some key →
      Besides (key.streamId D.ofText) ledger (ledger.bindSession D.ofText H input moment).2) ∧
    ∀ input moment binding, (ledger.bindSession D.ofText H input moment).1 = .ok binding →
      bindingKey D.ofText H input moment.verifiedAt =
          some ⟨binding.principalId, binding.provider, binding.agentInstanceId⟩ ∧
        binding.streamId =
          StreamKey.streamId D.ofText ⟨binding.principalId, binding.provider, binding.agentInstanceId⟩ := by
  have hattributed := Attributed.of_runs hrun
  refine ⟨fun key hkey other hother hprincipal => ?_, fun hmerges key hkey => ?_, fun input moment key hkey => ?_,
    fun _ _ _ => hattributed.accepted⟩
  · rw [streamId_eq_iff hapart hkey hother, StreamKey.utf8_text_eq_iff hprincipal]
  · obtain ⟨stream, hstream⟩ := hattributed.present key hkey
    obtain ⟨-, found, hfound, hid, hnamed⟩ := hattributed.named _ stream hstream
    have htext := (streamId_eq_iff hapart hfound hkey).mp hid
    have hprincipal := principalId_of_text hfound hkey htext
    obtain rfl := hmerges found hfound key hkey hprincipal ((StreamKey.utf8_text_eq_iff hprincipal).mp htext)
    refine ⟨stream, hstream, hnamed, fun event hevent => ?_⟩
    rw [hnamed]
    exact hattributed.events _ stream hstream event hevent
  · exact (hattributed.bindSession input moment).2 key hkey

end Separation

section Sample

open MemoryPrincipalSessionLedger

instance (D : Sha256Bytes) (keys : List StreamKey) : Decidable (StreamKeysApart D keys) :=
  inferInstanceAs (Decidable (∀ key ∈ keys, ∀ other ∈ keys,
    (D.hex key.text.utf8).take 24 = (D.hex other.text.utf8).take 24 → key.text.utf8 = other.text.utf8))

def rollingPrincipalDigest : JsString :=
  rollingSha256.ofText.hex (JsString.lit "tsk-principal-v1:" ++ samplePrincipalSecret)

/-- A binding of an agent instance, signed. -/
def instanceBinding (provider agentInstanceId : String) : BindSessionInput :=
  let unsigned := { unsignedBinding with
    provider := JsString.lit provider
    agentInstanceId := some (JsString.lit agentInstanceId) }
  { unsigned with
    proof := { sampleProof with
      signature := ((signPrincipalSessionProof mirrorHmac samplePrincipalSecret
        (buildPrincipalSessionProofPayload unsigned rollingPrincipalDigest)).toOption).getD [] } }

def instanceKey (provider agentInstanceId : String) : StreamKey :=
  ⟨principalIdFromDigest rollingSha256.ofText rollingPrincipalDigest, JsString.lit provider,
    JsString.lit agentInstanceId⟩

def instanceCalls (provider agentInstanceId provider' agentInstanceId' : String) :
    List (PrincipalCall × CaptureMoment) :=
  [(.bindSession (instanceBinding provider agentInstanceId), sampleMoment),
    (.bindSession (instanceBinding provider' agentInstanceId'), sampleMoment)]

theorem streams_of_instances_sample : ∃ ledger stream, (principalLedgers rollingSha256.ofText mirrorHmac).Reaches {}
      (instanceCalls "codex" "agent:1" "claude" "agent:1") ledger ∧
    ledger.streams.get? ((instanceKey "claude" "agent:1").streamId rollingSha256.ofText) = some stream ∧
    stream.provider = JsString.lit "claude" := by
  obtain ⟨ledger, hrun, -⟩ := Machine.Runs.of_observed
    (M := principalLedgers rollingSha256.ofText mirrorHmac) (C := fun _ _ => True) {}
    (instanceCalls "codex" "agent:1" "claude" "agent:1") (fun _ => ()) (b := ()) (by decide +kernel)
  have hkeys : bindingKeys rollingSha256.ofText mirrorHmac (instanceCalls "codex" "agent:1" "claude" "agent:1") =
      [instanceKey "codex" "agent:1", instanceKey "claude" "agent:1"] := by decide +kernel
  have hmerges : ∀ key ∈ [instanceKey "codex" "agent:1", instanceKey "claude" "agent:1"],
      ∀ other ∈ [instanceKey "codex" "agent:1", instanceKey "claude" "agent:1"],
      key.text.utf8 = other.text.utf8 → key = other := by decide +kernel
  have hstreams := (streams_of_instances hrun (by decide +kernel)).2.1
  rw [hkeys] at hstreams
  obtain ⟨stream, hstream, hkey, -⟩ := hstreams
    (fun key hkey other hother hprincipal h =>
      hmerges key hkey other hother ((StreamKey.utf8_text_eq_iff hprincipal).mpr h))
    (instanceKey "claude" "agent:1") (List.mem_cons_of_mem _ (List.mem_singleton.mpr rfl))
  exact ⟨ledger, stream, hrun, hstream, (congrArg StreamKey.provider hkey).symm⟩

/-- The colon of a provider moves over to the agent instance: two instances share a stream, and the events of the
second are recorded as those of the first. -/
theorem streams_merge : ∃ ledger, (principalLedgers rollingSha256.ofText mirrorHmac).Reaches {}
      (instanceCalls "a" "b:c" "a:b" "c") ledger ∧
    StreamKeysApart rollingSha256 (bindingKeys rollingSha256.ofText mirrorHmac (instanceCalls "a" "b:c" "a:b" "c")) ∧
    bindingKeys rollingSha256.ofText mirrorHmac (instanceCalls "a" "b:c" "a:b" "c") =
      [instanceKey "a" "b:c", instanceKey "a:b" "c"] ∧
    (instanceKey "a" "b:c").streamId rollingSha256.ofText = (instanceKey "a:b" "c").streamId rollingSha256.ofText ∧
    (ledger.eventsOf ((instanceKey "a:b" "c").streamId rollingSha256.ofText)).map
      (fun event => (event.provider, event.agentInstanceId)) =
        [(JsString.lit "a", JsString.lit "b:c"), (JsString.lit "a", JsString.lit "b:c")] := by
  obtain ⟨ledger, hrun, hevents⟩ := Machine.Runs.of_observed
    (M := principalLedgers rollingSha256.ofText mirrorHmac) (C := fun _ _ => True) {}
    (instanceCalls "a" "b:c" "a:b" "c")
    (fun ledger => (ledger.eventsOf ((instanceKey "a:b" "c").streamId rollingSha256.ofText)).map
      (fun event => (event.provider, event.agentInstanceId)))
    (b := [(JsString.lit "a", JsString.lit "b:c"), (JsString.lit "a", JsString.lit "b:c")]) (by decide +kernel)
  exact ⟨ledger, hrun, by decide +kernel, by decide +kernel, by decide +kernel, hevents⟩

end Sample

end TskProtocol
