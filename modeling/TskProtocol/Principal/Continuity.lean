import TskProtocol.Lib.Machine
import TskProtocol.Principal.Ledger

namespace TskProtocol

namespace PayloadValue

mutual

/-- Nothing in it makes `JSON.stringify` throw. -/
def hasJson : PayloadValue → Bool
  | .unserializable => false
  | .arr items => itemsHaveJson items
  | .obj members => membersHaveJson members
  | _ => true

def itemsHaveJson : List PayloadValue → Bool
  | [] => true
  | item :: rest => item.hasJson && itemsHaveJson rest

def membersHaveJson : PayloadRecord → Bool
  | [] => true
  | (_, value) :: rest => value.hasJson && membersHaveJson rest

end

theorem membersHaveJson_iff {members : PayloadRecord} :
    membersHaveJson members = true ↔ ∀ m ∈ members, m.2.hasJson = true := by
  induction members with
  | nil => simp [membersHaveJson]
  | cons m members ih =>
    obtain ⟨key, value⟩ := m
    simp [membersHaveJson, ih]

mutual

theorem toJson_ok (v : PayloadValue) (h : v.hasJson = true) : ∃ j, v.toJson = .ok j := by
  match v with
  | .undefined => exact ⟨_, rfl⟩
  | .null => exact ⟨_, rfl⟩
  | .bool b => exact ⟨_, rfl⟩
  | .num n => exact ⟨_, rfl⟩
  | .str s => exact ⟨_, rfl⟩
  | .unserializable => cases h
  | .arr items =>
    obtain ⟨js, hjs⟩ := itemsToJson_ok items h
    exact ⟨_, by rw [toJson, hjs]; rfl⟩
  | .obj members =>
    obtain ⟨ms, hms⟩ := membersToJson_ok members h
    exact ⟨_, by rw [toJson, hms]; rfl⟩

theorem itemsToJson_ok (items : List PayloadValue) (h : itemsHaveJson items = true) :
    ∃ js, itemsToJson items = .ok js := by
  match items with
  | [] => exact ⟨_, rfl⟩
  | item :: rest =>
    rw [itemsHaveJson, Bool.and_eq_true] at h
    obtain ⟨j, hj⟩ := toJson_ok item h.1
    obtain ⟨js, hjs⟩ := itemsToJson_ok rest h.2
    exact ⟨_, by rw [itemsToJson, hj, bind_ok, hjs]; rfl⟩

theorem membersToJson_ok (members : PayloadRecord) (h : membersHaveJson members = true) :
    ∃ ms, membersToJson members = .ok ms := by
  match members with
  | [] => exact ⟨_, rfl⟩
  | (key, value) :: rest =>
    rw [membersHaveJson, Bool.and_eq_true] at h
    obtain ⟨j, hj⟩ := toJson_ok value h.1
    obtain ⟨ms, hms⟩ := membersToJson_ok rest h.2
    by_cases hkey : key = PROTO
    · exact ⟨ms, by rw [membersToJson, if_pos hkey, hms]⟩
    · exact ⟨_, by rw [membersToJson, if_neg hkey, hj, bind_ok, hms]; rfl⟩

end

mutual

theorem hasJson_sanitize (v : PayloadValue) (h : v.hasJson = true) : v.sanitize.hasJson = true := by
  match v with
  | .undefined | .null | .bool _ | .num _ | .str _ => exact h
  | .unserializable => cases h
  | .arr items => exact itemsHaveJson_sanitize items h
  | .obj members => exact membersHaveJson_sanitize members h

theorem itemsHaveJson_sanitize (items : List PayloadValue) (h : itemsHaveJson items = true) :
    itemsHaveJson (sanitizeItems items) = true := by
  match items with
  | [] => rfl
  | item :: rest =>
    rw [itemsHaveJson, Bool.and_eq_true] at h
    rw [sanitizeItems, itemsHaveJson, Bool.and_eq_true]
    exact ⟨hasJson_sanitize item h.1, itemsHaveJson_sanitize rest h.2⟩

theorem membersHaveJson_sanitize (members : PayloadRecord) (h : membersHaveJson members = true) :
    membersHaveJson (sanitizeMembers members) = true := by
  match members with
  | [] => rfl
  | (key, value) :: rest =>
    rw [membersHaveJson, Bool.and_eq_true] at h
    have hrest := membersHaveJson_sanitize rest h.2
    by_cases hkey : key = PROTO
    · rw [sanitizeMembers, if_pos hkey]
      exact hrest
    · rw [sanitizeMembers, if_neg hkey, membersHaveJson, hrest, Bool.and_true]
      split
      · rfl
      · exact hasJson_sanitize value h.1

end

end PayloadValue

section Hashes

variable {S : Sha256}

theorem canonicalJson_ok (members : PayloadRecord) (h : PayloadValue.membersHaveJson members = true) :
    ∃ text, canonicalJson (.obj members) = .ok text := by
  obtain ⟨ms, hms⟩ := PayloadValue.membersToJson_ok members h
  exact ⟨_, by rw [canonicalJson, PayloadValue.toJson, hms]; rfl⟩

theorem canonicalJson_arr_ok (items : List PayloadValue) (h : PayloadValue.itemsHaveJson items = true) :
    ∃ text, canonicalJson (.arr items) = .ok text := by
  obtain ⟨js, hjs⟩ := PayloadValue.itemsToJson_ok items h
  exact ⟨_, by rw [canonicalJson, PayloadValue.toJson, hjs]; rfl⟩

theorem hasJson_headsValue (heads : StreamHeads) : (headsValue heads).hasJson = true := by
  apply PayloadValue.membersHaveJson_iff.mpr
  intro m hm
  obtain ⟨e, -, rfl⟩ := List.mem_map.mp hm
  rfl

theorem canonicalJson_heads_ok (heads : StreamHeads) : ∃ text, canonicalJson (headsValue heads) = .ok text :=
  canonicalJson_ok _ (hasJson_headsValue heads)

theorem hasJson_optionalStr (s : Option JsString) : (optionalStr s).hasJson = true := by
  cases s <;> rfl

theorem computeStreamEventHash_ok (event : PrincipalStreamEntry)
    (h : PayloadValue.membersHaveJson (event.payload.getD []) = true) :
    ∃ hash, computeStreamEventHash S event = .ok hash := by
  obtain ⟨text, htext⟩ := canonicalJson_arr_ok (event.fields ++ [.obj (event.payload.getD [])])
    (by simp [PrincipalStreamEntry.fields, PayloadValue.itemsHaveJson, PayloadValue.hasJson,
      hasJson_optionalStr, h])
  exact ⟨S.hex text, by rw [computeStreamEventHash, PrincipalStreamEntry.text, htext]; rfl⟩

theorem computeCheckpointHash_ok (checkpoint : PrincipalCheckpointEntry) :
    ∃ hash, computeCheckpointHash S checkpoint = .ok hash := by
  obtain ⟨text, htext⟩ := canonicalJson_arr_ok
    (checkpoint.fields ++ [headsValue checkpoint.streamHeads])
    (by simp [PrincipalCheckpointEntry.fields, PayloadValue.itemsHaveJson, PayloadValue.hasJson,
      hasJson_headsValue])
  exact ⟨S.hex text, by rw [computeCheckpointHash, PrincipalCheckpointEntry.text, htext]; rfl⟩

end Hashes

namespace MemoryPrincipalSessionLedger

variable {S : Sha256} {H : HmacSha256} {ledger ledger' : MemoryPrincipalSessionLedger}
  {id streamId : JsString} {principal principal' : PrincipalRecord} {stream stream' : PrincipalStreamRecord}

/-- The record of a stream goes with its events. -/
structure StreamLinked (S : Sha256) (stream : PrincipalStreamRecord) (events : List PrincipalStreamEvent) :
    Prop where
  verified : (streamChain S).verifyFrom 0 PRINCIPAL_GENESIS_HASH events = .ok stream.headHash
  counted : stream.seq = events.length

/-- The record of a principal goes with its checkpoints, whose last one need not be up to date. -/
structure PrincipalLinked (S : Sha256) (principal : PrincipalRecord)
    (checkpoints : List PrincipalCheckpoint) : Prop where
  verified : (checkpointChain S).verifyFrom 0 PRINCIPAL_GENESIS_HASH checkpoints =
    .ok principal.checkpointHead
  counted : principal.checkpointSeq = checkpoints.length

/-- What holds between any two writes. -/
structure Linked (S : Sha256) (ledger : MemoryPrincipalSessionLedger) : Prop where
  keyed : ∀ id principal, ledger.principals.get? id = some principal → principal.principalId = id
  named : ∀ streamId stream, ledger.streams.get? streamId = some stream → stream.streamId = streamId
  streams : ∀ streamId stream, ledger.streams.get? streamId = some stream →
    StreamLinked S stream (ledger.eventsOf streamId)
  principals : ∀ id principal, ledger.principals.get? id = some principal →
    PrincipalLinked S principal (ledger.checkpointsOf id)
  listed : ∀ id principal, ledger.principals.get? id = some principal → ∀ streamId ∈ principal.streamIds,
    ∃ stream, ledger.streams.get? streamId = some stream ∧ stream.principalId = id

/-- The last checkpoint of a principal records the heads of its streams. -/
def Current (ledger : MemoryPrincipalSessionLedger) (id : JsString) : Prop :=
  ∀ principal, ledger.principals.get? id = some principal →
    ∃ latest, (ledger.checkpointsOf id).getLast? = some latest ∧
      latest.streamHeads = ledger.headsOf ∅ principal.streamIds

/-- What holds between any two calls. -/
structure Sound (S : Sha256) (ledger : MemoryPrincipalSessionLedger) : Prop extends Linked S ledger where
  current : ∀ id, ledger.Current id

def recordHead (stream : PrincipalStreamRecord) : StreamHead := ⟨stream.seq, stream.headHash⟩

theorem headsOf_congr (heads : StreamHeads) {streamIds : List JsString}
    (h : ∀ streamId ∈ streamIds, (ledger'.streams.get? streamId).map recordHead =
      (ledger.streams.get? streamId).map recordHead) :
    ledger'.headsOf heads streamIds = ledger.headsOf heads streamIds := by
  induction streamIds generalizing heads with
  | nil => rfl
  | cons streamId rest ih =>
    have hhead := h streamId List.mem_cons_self
    have hrest (heads : StreamHeads) := ih heads fun id hid => h id (List.mem_cons_of_mem _ hid)
    simp only [headsOf]
    cases hget : ledger.streams.get? streamId with
    | none =>
      rw [hget, Option.map_none, Option.map_eq_none_iff] at hhead
      simp only [hhead, hrest]
    | some stream =>
      rw [hget, Option.map_some, Option.map_eq_some_iff] at hhead
      obtain ⟨stream', hget', hsame⟩ := hhead
      simp only [recordHead, StreamHead.mk.injEq] at hsame
      simp only [hget', hrest, hsame]

/-- Writes elsewhere leave a checkpoint up to date. -/
theorem Current.frame (h : ledger.Current id)
    (hprincipals : ledger'.principals.get? id = ledger.principals.get? id)
    (hcheckpoints : ledger'.checkpointsOf id = ledger.checkpointsOf id)
    (hstreams : ∀ principal, ledger.principals.get? id = some principal →
      ∀ streamId ∈ principal.streamIds, (ledger'.streams.get? streamId).map recordHead =
        (ledger.streams.get? streamId).map recordHead) : ledger'.Current id := by
  intro principal hget
  rw [hprincipals] at hget
  rw [hcheckpoints, headsOf_congr ∅ (hstreams principal hget)]
  exact h principal hget

/-- The verifier finds the heads that a checkpoint records. -/
theorem Linked.verifyStreams (h : Linked S ledger) (heads : StreamHeads) {streamIds : List JsString}
    (hlisted : ∀ streamId ∈ streamIds, ∃ stream, ledger.streams.get? streamId = some stream) :
    ledger.verifyStreams S heads streamIds = .ok (ledger.headsOf heads streamIds) := by
  induction streamIds generalizing heads with
  | nil => rfl
  | cons streamId rest ih =>
    obtain ⟨stream, hget⟩ := hlisted streamId List.mem_cons_self
    have hlinked := h.streams streamId stream hget
    have hrest (heads : StreamHeads) :=
      ih heads fun id hid => hlisted id (List.mem_cons_of_mem _ hid)
    rw [MemoryPrincipalSessionLedger.verifyStreams, headsOf]
    simp only [hget, orThrow, bind_ok, hlinked.verified, Except.mapError, hrest]
    rw [require_pos ⟨hlinked.counted, trivial⟩, bind_ok]

/-- Every principal of a sound ledger verifies. -/
theorem Sound.verify (h : Sound S ledger) (hget : ledger.principals.get? id = some principal) :
    ledger.verifyPrincipalContinuity S id = .ok { valid := true, principalId := id } := by
  obtain ⟨latest, hlatest, hheads⟩ := h.current id principal hget
  have hlinked := h.principals id principal hget
  have hstreams := h.verifyStreams ∅ fun streamId (hmem : streamId ∈ principal.streamIds) => by
    obtain ⟨stream, hstream, -⟩ := h.listed id principal hget streamId hmem
    exact ⟨stream, hstream⟩
  obtain ⟨text, htext⟩ := canonicalJson_heads_ok latest.streamHeads
  have hlast : latest.checkpointHash = principal.checkpointHead ∧ latest.seq = principal.checkpointSeq := by
    obtain ⟨before, hbefore⟩ := List.getLast?_eq_some_iff.mp hlatest
    have hverified := hlinked.verified
    have hcounted := hlinked.counted
    rw [hbefore] at hverified hcounted
    obtain ⟨prev, -, hcheck⟩ := HashChain.verifyFrom_snoc.mp hverified
    obtain ⟨hseq, -, -, hhash⟩ := HashChain.check_eq_ok.mp hcheck
    refine ⟨hhash, ?_⟩
    simp only [checkpointChain] at hseq
    simp only [List.length_append, List.length_singleton] at hcounted
    omega
  simp only [verifyPrincipalContinuity, hget, verifyChains, hstreams, bind_ok, hlinked.verified,
    Except.mapError, hlatest, orThrow, require_pos hlast, htext, ← hheads, require_pos]

/-- What holds while a call is at work on a principal. -/
structure SoundBut (S : Sha256) (id : JsString) (ledger : MemoryPrincipalSessionLedger) : Prop
    extends Linked S ledger where
  current : ∀ other, other ≠ id → ledger.Current other

theorem Sound.but (h : Sound S ledger) (id : JsString) : SoundBut S id ledger :=
  { h.toLinked with current := fun other _ => h.current other }

theorem eventsOf_set {streams : OrderedMap JsString PrincipalStreamRecord}
    {principals : OrderedMap JsString PrincipalRecord} {events : List PrincipalStreamEvent} :
    eventsOf { ledger with principals, streams, events := ledger.events.set streamId events } id =
      if streamId = id then events else ledger.eventsOf id := by
  simp only [eventsOf, OrderedMap.get?_set]
  split <;> rfl

theorem checkpointsOf_set {principals : OrderedMap JsString PrincipalRecord}
    {checkpoints : List PrincipalCheckpoint} {other : JsString} :
    checkpointsOf { ledger with principals, checkpoints := ledger.checkpoints.set id checkpoints } other =
      if id = other then checkpoints else ledger.checkpointsOf other := by
  simp only [checkpointsOf, OrderedMap.get?_set]
  split <;> rfl

theorem SoundBut.upsertPrincipal (h : Sound S ledger) (principalDigest : JsString)
    (context : Option AuthorizationContext) (now : Int) :
    SoundBut S (principalIdFromDigest S principalDigest)
      (ledger.upsertPrincipal S principalDigest context now).2 ∧
    (ledger.upsertPrincipal S principalDigest context now).2.principals.get?
      (principalIdFromDigest S principalDigest) =
        some (ledger.upsertPrincipal S principalDigest context now).1 ∧
    (ledger.upsertPrincipal S principalDigest context now).2.streams = ledger.streams := by
  simp only [MemoryPrincipalSessionLedger.upsertPrincipal]
  cases hget : ledger.principals.get? (principalIdFromDigest S principalDigest) with
  | some existing => exact ⟨h.but _, hget, rfl⟩
  | none =>
    refine ⟨⟨⟨?_, h.named, h.streams, ?_, ?_⟩, ?_⟩, by simp, rfl⟩
    · intro id principal hprincipal
      rw [OrderedMap.get?_set] at hprincipal
      split at hprincipal
      · next heq => exact (Option.some.inj hprincipal) ▸ heq
      · exact h.keyed id principal hprincipal
    · intro id principal hprincipal
      rw [OrderedMap.get?_set] at hprincipal
      rw [checkpointsOf_set]
      split at hprincipal
      · next heq =>
        rw [if_pos heq, ← Option.some.inj hprincipal]
        exact ⟨rfl, rfl⟩
      · next hne =>
        rw [if_neg hne]
        exact h.principals id principal hprincipal
    · intro id principal hprincipal
      rw [OrderedMap.get?_set] at hprincipal
      split at hprincipal
      · rw [← Option.some.inj hprincipal]
        exact fun _ hmem => absurd hmem List.not_mem_nil
      · exact h.listed id principal hprincipal
    · intro other hne
      apply (h.current other).frame (OrderedMap.get?_set_ne _ _ (Ne.symm hne))
      · rw [checkpointsOf_set, if_neg (Ne.symm hne)]
      · exact fun _ _ _ _ => rfl

/-- What the verifier reads of a principal's record is kept. -/
structure SameLinks (principal principal' : PrincipalRecord) : Prop where
  principalId : principal'.principalId = principal.principalId
  streamIds : principal'.streamIds = principal.streamIds
  checkpointHead : principal'.checkpointHead = principal.checkpointHead
  checkpointSeq : principal'.checkpointSeq = principal.checkpointSeq

theorem SoundBut.putPrincipal (h : SoundBut S id ledger) (hget : ledger.principals.get? id = some principal)
    (hsame : SameLinks principal principal') :
    SoundBut S id { ledger with principals := ledger.principals.set id principal' } := by
  refine ⟨⟨?_, h.named, h.streams, ?_, ?_⟩, ?_⟩
  · intro other record hrecord
    rw [OrderedMap.get?_set] at hrecord
    split at hrecord
    · next heq =>
      rw [← Option.some.inj hrecord, hsame.principalId, h.keyed id principal hget, heq]
    · exact h.keyed other record hrecord
  · intro other record hrecord
    rw [OrderedMap.get?_set] at hrecord
    split at hrecord
    · next heq =>
      obtain ⟨hverified, hcounted⟩ := h.principals id principal hget
      rw [← Option.some.inj hrecord, ← heq]
      exact ⟨by rw [hsame.checkpointHead]; exact hverified, by rw [hsame.checkpointSeq]; exact hcounted⟩
    · exact h.principals other record hrecord
  · intro other record hrecord
    rw [OrderedMap.get?_set] at hrecord
    split at hrecord
    · next heq =>
      rw [← Option.some.inj hrecord, ← heq, hsame.streamIds]
      exact h.listed id principal hget
    · exact h.listed other record hrecord
  · intro other hne
    exact (h.current other hne).frame (OrderedMap.get?_set_ne _ _ (Ne.symm hne)) rfl
      fun _ _ _ _ => rfl

/-- The stream of a session is there afterwards, under the name of the principal. -/
theorem SoundBut.upsertStream (h : SoundBut S id ledger)
    (hget : ledger.principals.get? id = some principal)
    (hown : ∀ stream, ledger.streams.get? streamId = some stream → stream.principalId = id)
    (provider agentInstanceId providerSessionId : JsString) :
    ∃ stream principal' ledger', ledger.upsertStream principal streamId provider agentInstanceId
        providerSessionId = (stream, principal', ledger') ∧
      SoundBut S id ledger' ∧ ledger'.principals.get? id = some principal' ∧
      ledger'.streams.get? streamId = some stream ∧ stream.principalId = id ∧
      stream.streamId = streamId := by
  have hid := h.keyed id principal hget
  simp only [MemoryPrincipalSessionLedger.upsertStream]
  cases hstream : ledger.streams.get? streamId with
  | some existing =>
    refine ⟨_, _, _, rfl, ⟨⟨h.keyed, ?_, ?_, h.principals, ?_⟩, ?_⟩, hget, by simp, hown existing hstream,
      h.named streamId existing hstream⟩
    · intro sid stream hsid
      rw [OrderedMap.get?_set] at hsid
      split at hsid
      · next heq =>
        rw [← Option.some.inj hsid, ← heq]
        exact h.named streamId existing hstream
      · exact h.named sid stream hsid
    · intro sid stream hsid
      rw [OrderedMap.get?_set] at hsid
      split at hsid
      · next heq =>
        obtain ⟨hverified, hcounted⟩ := h.streams streamId existing hstream
        rw [← Option.some.inj hsid, ← heq]
        exact ⟨hverified, hcounted⟩
      · exact h.streams sid stream hsid
    · intro other record hrecord sid hsid
      obtain ⟨stream, hlisted, howner⟩ := h.listed other record hrecord sid hsid
      rw [OrderedMap.get?_set]
      by_cases heq : streamId = sid
      · subst heq
        rw [hstream] at hlisted
        exact ⟨_, if_pos rfl, by rw [← howner, ← Option.some.inj hlisted]⟩
      · exact ⟨stream, by rw [if_neg heq, hlisted], howner⟩
    · intro other hne
      refine (h.current other hne).frame rfl rfl fun record hrecord sid hsid => ?_
      rw [OrderedMap.get?_set]
      split
      · next heq => rw [← heq, hstream]; rfl
      · rfl
  | none =>
    have hnew (other : JsString) (record : PrincipalRecord)
        (hrecord : ledger.principals.get? other = some record) : streamId ∉ record.streamIds := by
      intro hmem
      obtain ⟨stream, hlisted, -⟩ := h.listed other record hrecord streamId hmem
      rw [hstream] at hlisted
      cases hlisted
    subst hid
    refine ⟨_, _, _, rfl, ⟨⟨?_, ?_, ?_, ?_, ?_⟩, ?_⟩, by simp, by simp, rfl, rfl⟩
    · intro other record hrecord
      rw [OrderedMap.get?_set] at hrecord
      split at hrecord
      · next heq => rw [← Option.some.inj hrecord, ← heq]
      · exact h.keyed other record hrecord
    · intro sid stream hsid
      rw [OrderedMap.get?_set] at hsid
      split at hsid
      · next heq => rw [← Option.some.inj hsid, ← heq]
      · exact h.named sid stream hsid
    · intro sid stream hsid
      rw [OrderedMap.get?_set] at hsid
      rw [eventsOf_set]
      split at hsid
      · next heq =>
        rw [if_pos heq, ← Option.some.inj hsid]
        exact ⟨rfl, rfl⟩
      · next hne =>
        rw [if_neg hne]
        exact h.streams sid stream hsid
    · intro other record hrecord
      rw [OrderedMap.get?_set] at hrecord
      split at hrecord
      · next heq =>
        obtain ⟨hverified, hcounted⟩ := h.principals _ principal hget
        rw [← Option.some.inj hrecord, ← heq]
        exact ⟨hverified, hcounted⟩
      · exact h.principals other record hrecord
    · intro other record hrecord sid hsid
      rw [OrderedMap.get?_set] at hrecord
      rw [OrderedMap.get?_set]
      split at hrecord
      · next heq =>
        rw [← Option.some.inj hrecord] at hsid
        rcases List.mem_append.mp hsid with hsid | hsid
        · obtain ⟨stream, hlisted, howner⟩ := h.listed _ principal hget sid hsid
          have hne : ¬ streamId = sid := by
            rintro rfl
            exact hnew _ principal hget hsid
          exact ⟨stream, by rw [if_neg hne, hlisted], howner.trans heq⟩
        · exact ⟨_, if_pos (List.mem_singleton.mp hsid).symm, heq⟩
      · obtain ⟨stream, hlisted, howner⟩ := h.listed other record hrecord sid hsid
        have hne : ¬ streamId = sid := by
          rintro rfl
          exact hnew other record hrecord hsid
        exact ⟨stream, by rw [if_neg hne, hlisted], howner⟩
    · intro other hne
      refine (h.current other hne).frame (OrderedMap.get?_set_ne _ _ (Ne.symm hne)) rfl
        fun record hrecord sid hsid => ?_
      rw [OrderedMap.get?_set_ne]
      rintro rfl
      exact hnew other record hrecord hsid

/-- An event that can be hashed is appended behind the head of its stream. -/
theorem appendEventToStream_ok {eventType : PrincipalEventType} {payload : PayloadRecord}
    {options : EventOptions} {now : Int} {event : PrincipalStreamEvent}
    (h : ledger.appendEventToStream S stream eventType payload options now = .ok (event, ledger')) :
    event.seq = stream.seq + 1 ∧ event.prevHash = stream.headHash ∧
    computeStreamEventHash S event.toPrincipalStreamEntry = .ok event.chainHash ∧
    ledger' = { ledger with
      events := ledger.events.set stream.streamId (ledger.eventsOf stream.streamId ++ [event])
      streams := ledger.streams.set stream.streamId
        { stream with seq := stream.seq + 1, headHash := event.chainHash } } := by
  simp only [appendEventToStream, bind_eq_ok, pure_eq_ok, Except.ok.injEq, Prod.mk.injEq] at h
  obtain ⟨text, -, chainHash, hhash, rfl, rfl⟩ := h
  exact ⟨rfl, rfl, hhash, rfl⟩

theorem appendEventToStream_returns (ledger : MemoryPrincipalSessionLedger) (S : Sha256)
    (stream : PrincipalStreamRecord) (eventType : PrincipalEventType) {payload : PayloadRecord}
    (options : EventOptions) (now : Int)
    (h : PayloadValue.membersHaveJson (PayloadValue.sanitizeMembers payload) = true) :
    ∃ r, ledger.appendEventToStream S stream eventType payload options now = .ok r := by
  obtain ⟨text, htext⟩ := canonicalJson_ok _ h
  obtain ⟨hash, hhash⟩ := computeStreamEventHash_ok (S := S) {
    principalId := stream.principalId
    streamId := stream.streamId
    provider := stream.provider
    providerSessionId := options.providerSessionId
    agentInstanceId := stream.agentInstanceId
    seq := stream.seq + 1
    timestamp := now
    eventType
    policyDigest := options.policyDigest
    proofDigest := options.proofDigest
    payloadHash := S.hex text
    payload := some (PayloadValue.sanitizeMembers payload)
    prevHash := stream.headHash } h
  exact ⟨_, by simp only [appendEventToStream, htext, bind_ok, hhash]; rfl⟩

theorem appendCheckpoint_ok (ledger : MemoryPrincipalSessionLedger) (principal : PrincipalRecord)
    (now : Int) : ∃ checkpoint : PrincipalCheckpoint,
    checkpoint.seq = principal.checkpointSeq + 1 ∧ checkpoint.prevHash = principal.checkpointHead ∧
    checkpoint.streamHeads = ledger.headsOf ∅ principal.streamIds ∧
    computeCheckpointHash S checkpoint.toPrincipalCheckpointEntry = .ok checkpoint.checkpointHash ∧
    ledger.appendCheckpoint S principal now = .ok (checkpoint, { ledger with
      checkpoints := ledger.checkpoints.set principal.principalId
        (ledger.checkpointsOf principal.principalId ++ [checkpoint])
      principals := ledger.principals.set principal.principalId { principal with
        checkpointSeq := checkpoint.seq
        checkpointHead := checkpoint.checkpointHash
        updatedAt := checkpoint.timestamp } }) := by
  obtain ⟨hash, hhash⟩ := computeCheckpointHash_ok (S := S) {
    principalId := principal.principalId
    seq := principal.checkpointSeq + 1
    timestamp := now
    streamHeads := ledger.headsOf ∅ principal.streamIds
    prevHash := principal.checkpointHead }
  refine ⟨⟨_, hash⟩, ?_, ?_, ?_, hhash, ?_⟩
  · rfl
  · rfl
  · rfl
  · simp only [appendCheckpoint, hhash, bind_ok, pure_eq_ok]

theorem SoundBut.appendEvent (h : SoundBut S id ledger) {eventType : PrincipalEventType}
    {payload : PayloadRecord} {options : EventOptions} {now : Int} {event : PrincipalStreamEvent}
    (hstream : ledger.streams.get? stream.streamId = some stream) (howner : stream.principalId = id)
    (hevent : ledger.appendEventToStream S stream eventType payload options now = .ok (event, ledger')) :
    SoundBut S id ledger' ∧ ledger'.principals = ledger.principals := by
  obtain ⟨hseq, hprev, hhash, rfl⟩ := appendEventToStream_ok hevent
  refine ⟨⟨⟨h.keyed, ?_, ?_, h.principals, ?_⟩, ?_⟩, rfl⟩
  · intro sid record hsid
    rw [OrderedMap.get?_set] at hsid
    split at hsid
    · next heq => rw [← Option.some.inj hsid, ← heq]
    · exact h.named sid record hsid
  · intro sid record hsid
    rw [OrderedMap.get?_set] at hsid
    rw [eventsOf_set]
    split at hsid
    · next heq =>
      obtain ⟨hverified, hcounted⟩ := h.streams stream.streamId stream hstream
      rw [if_pos heq, ← Option.some.inj hsid]
      refine ⟨HashChain.verifyFrom_snoc.mpr ⟨_, hverified, HashChain.check_eq_ok.mpr ⟨?_, hprev, hhash, rfl⟩⟩, ?_⟩
      · simp only [streamChain, hseq, hcounted, Nat.zero_add]
      · simp [hcounted]
    · next hne =>
      rw [if_neg hne]
      exact h.streams sid record hsid
  · intro other record hrecord sid hsid
    obtain ⟨listed, hlisted, hlistedOwner⟩ := h.listed other record hrecord sid hsid
    rw [OrderedMap.get?_set]
    by_cases heq : stream.streamId = sid
    · rw [← heq, hstream] at hlisted
      exact ⟨_, if_pos heq, by rw [← hlistedOwner, ← Option.some.inj hlisted]⟩
    · exact ⟨listed, by rw [if_neg heq, hlisted], hlistedOwner⟩
  · intro other hne
    refine (h.current other hne).frame rfl rfl fun record hrecord sid hsid => ?_
    rw [OrderedMap.get?_set_ne]
    rintro rfl
    obtain ⟨listed, hlisted, hlistedOwner⟩ := h.listed other record hrecord stream.streamId hsid
    rw [hstream] at hlisted
    obtain rfl := Option.some.inj hlisted
    exact hne (hlistedOwner.symm.trans howner)

theorem SoundBut.appendCheckpoint (h : SoundBut S id ledger)
    (hget : ledger.principals.get? id = some principal) (now : Int) :
    ∃ checkpoint ledger', ledger.appendCheckpoint S principal now = .ok (checkpoint, ledger') ∧
      Sound S ledger' := by
  obtain ⟨checkpoint, hseq, hprev, hheads, hhash, hreturns⟩ := appendCheckpoint_ok (S := S) ledger principal now
  refine ⟨checkpoint, _, hreturns, ?_⟩
  obtain rfl := h.keyed id principal hget
  obtain ⟨hverified, hcounted⟩ := h.principals _ principal hget
  refine ⟨⟨?_, h.named, h.streams, ?_, ?_⟩, ?_⟩
  · intro other record hrecord
    rw [OrderedMap.get?_set] at hrecord
    split at hrecord
    · next heq => rw [← Option.some.inj hrecord, ← heq]
    · exact h.keyed other record hrecord
  · intro other record hrecord
    rw [OrderedMap.get?_set] at hrecord
    rw [checkpointsOf_set]
    split at hrecord
    · next heq =>
      rw [if_pos heq, ← Option.some.inj hrecord]
      refine ⟨HashChain.verifyFrom_snoc.mpr ⟨_, hverified, HashChain.check_eq_ok.mpr ⟨?_, hprev, hhash, rfl⟩⟩, ?_⟩
      · simp only [checkpointChain, hseq, hcounted, Nat.zero_add]
      · simp [hseq, hcounted]
    · next hne =>
      rw [if_neg hne]
      exact h.principals other record hrecord
  · intro other record hrecord
    rw [OrderedMap.get?_set] at hrecord
    split at hrecord
    · next heq =>
      rw [← Option.some.inj hrecord, ← heq]
      exact h.listed _ principal hget
    · exact h.listed other record hrecord
  · intro other
    by_cases heq : principal.principalId = other
    · intro record hrecord
      rw [OrderedMap.get?_set, if_pos heq] at hrecord
      rw [checkpointsOf_set, if_pos heq, ← Option.some.inj hrecord]
      refine ⟨checkpoint, by simp, hheads.trans (headsOf_congr ∅ fun _ _ => rfl)⟩
    · refine (h.current other (Ne.symm heq)).frame (OrderedMap.get?_set_ne _ _ heq) ?_ fun _ _ _ _ => rfl
      rw [checkpointsOf_set, if_neg heq]

/-- A call's last two writes: refused before the first of them, or both are made. -/
theorem SoundBut.appendBoth (h : SoundBut S id ledger)
    (hget : ledger.principals.get? id = some principal)
    (hstream : ledger.streams.get? stream.streamId = some stream) (howner : stream.principalId = id)
    (eventType : PrincipalEventType) (payload : PayloadRecord) (options : EventOptions)
    (moment : CaptureMoment) :
    (∃ e, ledger.appendBoth S principal stream eventType payload options moment = (.error e, ledger) ∧
      PayloadValue.membersHaveJson (PayloadValue.sanitizeMembers payload) = false) ∨
    ∃ appended ledger', ledger.appendBoth S principal stream eventType payload options moment =
      (.ok appended, ledger') ∧ Sound S ledger' := by
  simp only [MemoryPrincipalSessionLedger.appendBoth]
  cases hevent : ledger.appendEventToStream S stream eventType payload options moment.recordedAt with
  | error e =>
    refine .inl ⟨e, rfl, ?_⟩
    rw [Bool.eq_false_iff]
    intro hjson
    obtain ⟨r, hr⟩ := appendEventToStream_returns ledger S stream eventType options
      moment.recordedAt hjson
    rw [hevent] at hr
    cases hr
  | ok r =>
    obtain ⟨event, appended⟩ := r
    obtain ⟨hsound, hprincipals⟩ := h.appendEvent hstream howner hevent
    obtain ⟨checkpoint, ledger', hcheckpoint, hstored⟩ :=
      hsound.appendCheckpoint (hprincipals ▸ hget) moment.checkpointedAt
    exact .inr ⟨(event, checkpoint), ledger', by simp only [hcheckpoint], hstored⟩

end MemoryPrincipalSessionLedger

end TskProtocol
