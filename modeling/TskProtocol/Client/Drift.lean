import TskProtocol.Client.Exchange
import TskProtocol.Core.Agreement
import TskProtocol.Server.OneTime

namespace TskProtocol

variable {H : HmacSha256} {config : TSKConfig} {first map : TumblerMap} {s t : Exchange}
  {client client' : TSKClient}

section Counters

variable {snapshot next out counters : OrderedMap JsString Int} {id : JsString}

/-- Every counter that `nextCounters` produces is one above the snapshot's. -/
theorem nextCounters_value {segments : List ClientSegmentConfig}
    (hnext : ∀ id c, next.get? id = some c → c = counterAt snapshot id + 1)
    (h : nextCounters snapshot next segments = .ok out) :
    ∀ id c, out.get? id = some c → c = counterAt snapshot id + 1 := by
  induction segments generalizing next with
  | nil => obtain rfl := Except.ok.inj h; exact hnext
  | cons seg rest ih =>
    simp only [nextCounters] at h
    split at h
    · obtain ⟨-, -, h⟩ := bind_eq_ok.mp h
      obtain ⟨-, -, h⟩ := bind_eq_ok.mp h
      refine ih (fun id c hc => ?_) h
      rw [OrderedMap.get?_set] at hc
      split at hc
      · next heq => rw [← heq, ← Option.some.inj hc]; rfl
      · exact hnext id c hc
    · exact ih hnext h

theorem nextCounters_has {segments : List ClientSegmentConfig}
    (h : nextCounters snapshot next segments = .ok out) :
    (∀ id, next.has id = true → out.has id = true) ∧
      ∀ seg ∈ segments, seg.type = .hotp → out.has seg.segmentId = true := by
  induction segments generalizing next with
  | nil => obtain rfl := Except.ok.inj h; exact ⟨fun _ h => h, by simp⟩
  | cons seg rest ih =>
    simp only [nextCounters] at h
    split at h
    · obtain ⟨-, -, h⟩ := bind_eq_ok.mp h
      obtain ⟨-, -, h⟩ := bind_eq_ok.mp h
      obtain ⟨hkeep, hrest⟩ := ih h
      refine ⟨fun id hid => hkeep id ?_, fun s hs hst => ?_⟩
      · simp only [OrderedMap.has, OrderedMap.get?_set]
        split
        · rfl
        · exact hid
      · rcases List.mem_cons.mp hs with rfl | hs
        · exact hkeep _ (by simp [OrderedMap.has])
        · exact hrest s hs hst
    · next ht =>
      obtain ⟨hkeep, hrest⟩ := ih h
      refine ⟨hkeep, fun s hs hst => ?_⟩
      rcases List.mem_cons.mp hs with rfl | hs
      · exact absurd hst ht
      · exact hrest s hs hst

theorem adoptCounters_get? {entries : List (JsString × Int)} (hn : (entries.map Prod.fst).Nodup) :
    (adoptCounters counters entries).get? id =
      (OrderedMap.lookupIn id entries).or (counters.get? id) := by
  induction entries generalizing counters with
  | nil => rfl
  | cons e rest ih =>
    obtain ⟨k, c⟩ := e
    simp only [List.map_cons, List.nodup_cons] at hn
    rw [adoptCounters, ih hn.2, OrderedMap.get?_set]
    by_cases hk : k = id
    · subst hk
      have hnone : OrderedMap.lookupIn k rest = none := OrderedMap.lookupIn_eq_none.mpr hn.1
      simp [OrderedMap.lookupIn, hnone]
    · simp [OrderedMap.lookupIn, hk]

end Counters

/-- A saved confirmation moves every HOTP counter of the client one up from the snapshot. -/
theorem commitHOTPCounters_spec {snapshot : OrderedMap JsString Int} {saved : Bool}
    (hpayload : client.payload = toProvisionPayload first) (hl : GeneratedLayout first)
    (h : client.commitHOTPCounters snapshot saved = some client') :
    client'.payload = client.payload ∧ client'.sharedSecret = client.sharedSecret ∧
      client'.clientId = client.clientId ∧ ∀ seg ∈ first.segments, seg.type = .hotp →
        client'.counters.get? seg.segmentId = some (counterAt snapshot seg.segmentId + 1) := by
  simp only [TSKClient.commitHOTPCounters] at h
  split at h
  · cases h
  next next hnext =>
  split at h
  · obtain rfl := Option.some.inj h
    refine ⟨rfl, rfl, rfl, fun seg hmem ht => ?_⟩
    have hclient : seg.toClient ∈ client.payload.clientSegments := by
      rw [hpayload, toProvisionPayload, hl.tiled.sortedSegments_eq]
      exact List.mem_map_of_mem hmem
    obtain ⟨c, hc⟩ := OrderedMap.has_iff.mp ((nextCounters_has hnext).2 seg.toClient hclient ht)
    have hvalue := nextCounters_value (by simp) hnext _ c hc
    have hget : OrderedMap.lookupIn seg.segmentId next.entries = some c := hc
    rw [adoptCounters_get? next.nodup, hget, hvalue]
    rfl
  · cases h

/-- The request carries a key for some counters that the client has not passed yet. -/
structure SentAt (H : HmacSha256) (first : TumblerMap) (counters : JsString → Int)
    (key : JsString) : Prop where
  sent : ∃ cs : JsString → Int, ∀ seg ∈ first.segments, seg.type = .hotp →
    cs seg.segmentId ≤ counters seg.segmentId ∧
    isUsableHOTPDerivationCounter (cs seg.segmentId) = true ∧
    ReadsCounter H first.sharedSecret key seg (cs seg.segmentId)

theorem SentAt.mono {counters counters' : JsString → Int} {key : JsString}
    (h : SentAt H first counters key) (hle : ∀ seg ∈ first.segments, seg.type = .hotp →
      counters seg.segmentId ≤ counters' seg.segmentId) : SentAt H first counters' key := by
  obtain ⟨cs, hcs⟩ := h.sent
  refine ⟨cs, fun seg hmem ht => ?_⟩
  obtain ⟨hlt, hu, hr⟩ := hcs seg hmem ht
  exact ⟨hlt.trans (hle seg hmem ht), hu, hr⟩

/-- What the client and the server share, and how far the server can be ahead. -/
structure Drift (H : HmacSha256) (first : TumblerMap) (s : Exchange) : Prop where
  payload : s.client.payload = toProvisionPayload first
  secret : s.client.sharedSecret = first.sharedSecret
  clientId : s.client.clientId = first.clientId
  holds : ∀ seg ∈ first.segments, seg.type = .hotp → s.client.counters.has seg.segmentId = true
  gap : s.confirmed ≤ s.accepted ∧ s.accepted ≤ s.confirmed + 1
  stored : ∀ map, s.store.maps.get? first.clientId = some map → map.frame = first.frame ∧
    ∀ seg ∈ map.segments, seg.type = .hotp →
      seg.storedCounter = counterAt s.client.counters seg.segmentId + (s.accepted - s.confirmed)
  requests : ∀ r ∈ s.requests, r.1 < s.nextRequest ∧
    ∃ key, r.2 = requestHeaders first.clientId key ∧ SentAt H first (counterAt s.client.counters) key
  serving : ∀ e ∈ s.serving, e.request < s.nextRequest ∧ e.clientId = first.clientId ∧
    e.map.frame = first.frame ∧ SentAt H first (counterAt s.client.counters) e.key
  responses : ∀ r ∈ s.responses, r.1 < s.nextRequest
  outstanding : ∀ n snapshot, s.outstanding = some (n, snapshot) →
    snapshot = s.client.counters ∧ ((n, true) ∈ s.responses → s.accepted = s.confirmed + 1)

/-- The counters of client and server agree at the start. -/
structure StartsInStep (first : TumblerMap) (client : TSKClient) (store : MemoryTumblerStore) :
    Prop where
  payload : client.payload = toProvisionPayload first
  secret : client.sharedSecret = first.sharedSecret
  clientId : client.clientId = first.clientId
  stored : ∃ map, store.maps.get? first.clientId = some map ∧ CounterState map ∧
    map.frame = first.frame ∧ ∀ seg ∈ map.segments, seg.type = .hotp →
      client.counters.get? seg.segmentId = some seg.storedCounter

theorem Drift.start {store : MemoryTumblerStore} (h : StartsInStep first client store) :
    Drift H first (.start client store) := by
  obtain ⟨map, hget, -, hframe, hcounters⟩ := h.stored
  refine ⟨h.payload, h.secret, h.clientId, fun seg hmem ht => ?_, by simp [Exchange.start],
    fun m hm => ?_, by simp [Exchange.start], by simp [Exchange.start], by simp [Exchange.start],
    by simp [Exchange.start]⟩
  · obtain ⟨seg', hmem', hseg⟩ := exists_segment_of_frame hframe.symm hmem
    have := hcounters seg' hmem' ((frame_type hseg).symm.trans ht)
    exact OrderedMap.has_iff.mpr ⟨_, (frame_segmentId hseg) ▸ this⟩
  · obtain rfl : map = m := Option.some.inj (hget.symm.trans hm)
    exact ⟨hframe, fun seg hmem ht => by
      simp [Exchange.start, counterAt, hcounters seg hmem ht]⟩

theorem assertUsableCounters_ok {counters : OrderedMap JsString Int}
    {segments : List ClientSegmentConfig} (h : assertUsableCounters counters segments = .ok ()) :
    ∀ seg ∈ segments, seg.type = .hotp →
      isUsableHOTPDerivationCounter (clientCounter counters seg) = true := by
  induction segments with
  | nil => simp
  | cons seg rest ih =>
    intro s hs hst
    by_cases ht : seg.type = .hotp
    · simp only [assertUsableCounters, if_pos ht] at h
      obtain ⟨_, hhead, htail⟩ := bind_eq_ok.mp h
      rcases List.mem_cons.mp hs with rfl | hs
      · exact usable_of_assertUsable hhead
      · exact ih htail s hs hst
    · simp only [assertUsableCounters, if_neg ht] at h
      rcases List.mem_cons.mp hs with rfl | hs
      · exact absurd hst ht
      · exact ih h s hs hst

/-- What `generateHeaders` returns to a provisioned client. -/
theorem generateHeaders_spec {nowMs : Int} {req : TSKRequestData}
    {snapshot : OrderedMap JsString Int} (hl : GeneratedLayout first) (h : Drift H first s)
    (hgen : s.client.generateHeaders H nowMs = .ok (req, snapshot)) :
    snapshot = s.client.counters ∧ HoldsUsable s.client.counters first.segments ∧
      req = requestHeaders first.clientId (keyText H first (counterAt s.client.counters) nowMs) := by
  simp only [TSKClient.generateHeaders, h.payload, h.secret, h.clientId] at hgen
  obtain ⟨_, hassert, hgen⟩ := bind_eq_ok.mp hgen
  have husable : HoldsUsable s.client.counters first.segments := by
    intro seg hmem ht
    have hhas := h.holds seg hmem ht
    have hclient : seg.toClient ∈ (toProvisionPayload first).clientSegments := by
      rw [toProvisionPayload, hl.tiled.sortedSegments_eq]
      exact List.mem_map_of_mem hmem
    have := assertUsableCounters_ok hassert seg.toClient hclient ht
    rw [clientCounter_toClient hhas] at this
    exact ⟨hhas, this⟩
  rw [generateKey_ok hl husable, bind_ok] at hgen
  obtain ⟨hreq, hsnap⟩ := Prod.mk.inj (Except.ok.inj hgen)
  exact ⟨hsnap.symm, husable, hreq.symm⟩

theorem Drift.fetch {nowMs : Int} (hl : GeneratedLayout first) (h : Drift H first s) :
    Drift H first (s.fetch H nowMs) := by
  simp only [Exchange.fetch]
  split
  · exact h
  next req snapshot hgen =>
  obtain ⟨rfl, husable, rfl⟩ := generateHeaders_spec hl h hgen
  refine ⟨h.payload, h.secret, h.clientId, h.holds, h.gap, h.stored, fun r hr => ?_,
    fun e he => ?_, fun r hr => ?_, fun n snapshot hout => ?_⟩
  · rcases List.mem_append.mp hr with hr | hr
    · obtain ⟨hlt, hsent⟩ := h.requests r hr
      exact ⟨Nat.lt_succ_of_lt hlt, hsent⟩
    · obtain rfl : r = _ := by simpa using hr
      refine ⟨Nat.lt_succ_self _, _, rfl, counterAt s.client.counters, fun seg hmem ht => ?_⟩
      exact ⟨le_rfl, (husable seg hmem ht).2, readsCounter_keyText hl hmem ht⟩
  · obtain ⟨hlt, hrest⟩ := h.serving e he
    exact ⟨Nat.lt_succ_of_lt hlt, hrest⟩
  · exact Nat.lt_succ_of_lt (h.responses r hr)
  · obtain ⟨rfl, rfl⟩ := Prod.mk.inj (Option.some.inj hout)
    exact ⟨rfl, fun hmem => absurd (h.responses _ hmem) (Nat.lt_irrefl _)⟩

theorem checkHeaders_requestHeaders (clientId key : JsString) :
    checkHeaders (requestHeaders clientId key) =
      if clientId = [] ∨ key = [] then throw .headersMissing
      else if TSK_MAX_KEY_HEADER_BYTES < key.length then throw .keyTooLarge
      else .ok (clientId, key) := by
  have hid : truthyHeader (requestHeaders clientId key) TSK_HEADERS.CLIENT_ID =
      (some clientId).filter (fun v => v ≠ []) := rfl
  have hkey : truthyHeader (requestHeaders clientId key) TSK_HEADERS.KEY =
      (some key).filter (fun v => v ≠ []) := rfl
  have hversion : truthyHeader (requestHeaders clientId key) TSK_HEADERS.VERSION =
      some TSK_PROTOCOL_VERSION := rfl
  simp only [checkHeaders, hid, hkey, hversion]
  by_cases h : clientId = []
  · simp [h]
  · by_cases h' : key = []
    · simp [h, h', Option.filter]
    · simp [h, h', Option.filter]

theorem Drift.reply (h : Drift H first s) {n : Nat} {authenticated : Bool} (hn : n < s.nextRequest)
    (hauth : authenticated = true → s.accepted = s.confirmed + 1) :
    Drift H first (s.reply n authenticated) := by
  refine ⟨h.payload, h.secret, h.clientId, h.holds, h.gap, h.stored, h.requests, h.serving,
    fun r hr => ?_, fun m snapshot hout => ?_⟩
  · rcases List.mem_append.mp hr with hr | hr
    · exact h.responses r hr
    · obtain rfl : r = (n, authenticated) := by simpa using hr
      exact hn
  · obtain ⟨hsnap, hresp⟩ := h.outstanding m snapshot hout
    refine ⟨hsnap, fun hmem => ?_⟩
    rcases List.mem_append.mp hmem with hmem | hmem
    · exact hresp hmem
    · obtain ⟨-, rfl⟩ : m = n ∧ authenticated = true := by simpa [eq_comm] using hmem
      exact hauth rfl

/-- Rewriting the client's map without touching its counters keeps the drift. -/
theorem Drift.store {store : MemoryTumblerStore} (h : Drift H first s)
    (hstore : ∀ map, store.maps.get? first.clientId = some map →
      ∃ map', s.store.maps.get? first.clientId = some map' ∧ map.frame = map'.frame ∧
        map.segments = map'.segments) : Drift H first { s with store := store } := by
  refine ⟨h.payload, h.secret, h.clientId, h.holds, h.gap, fun map hget => ?_, h.requests,
    h.serving, h.responses, h.outstanding⟩
  obtain ⟨map', hget', hframe, hsegments⟩ := hstore map hget
  obtain ⟨hfirst, hcounters⟩ := h.stored map' hget'
  exact ⟨hframe.trans hfirst, hsegments ▸ hcounters⟩

theorem Drift.drop_request (h : Drift H first s) (index : Nat) :
    Drift H first { s with requests := s.requests.eraseIdx index } :=
  ⟨h.payload, h.secret, h.clientId, h.holds, h.gap, h.stored,
    fun r hr => h.requests r (List.mem_of_mem_eraseIdx hr), h.serving, h.responses, h.outstanding⟩

theorem Drift.drop_serving (h : Drift H first s) (index : Nat) :
    Drift H first { s with serving := s.serving.eraseIdx index } :=
  ⟨h.payload, h.secret, h.clientId, h.holds, h.gap, h.stored, h.requests,
    fun e he => h.serving e (List.mem_of_mem_eraseIdx he), h.responses, h.outstanding⟩

theorem Drift.arrive {r : Nat × TSKRequestData} {readAt : Int} (h : Drift H first s)
    (hn : r.1 < s.nextRequest) (hr : ∃ key, r.2 = requestHeaders first.clientId key ∧
      SentAt H first (counterAt s.client.counters) key) : Drift H first (s.arrive r.1 r.2 readAt) := by
  obtain ⟨key, hreq, hsent⟩ := hr
  simp only [Exchange.arrive, hreq, checkHeaders_requestHeaders]
  split
  · exact h.reply hn (by simp)
  next id key' hcheck =>
  obtain ⟨rfl, rfl⟩ : first.clientId = id ∧ key = key' := by
    split at hcheck
    · cases hcheck
    split at hcheck
    · cases hcheck
    · exact Prod.mk.inj (Except.ok.inj hcheck)
  simp only [MemoryTumblerStore.get]
  cases hget : s.store.maps.get? first.clientId with
  | none => exact h.reply hn (by simp)
  | some map =>
    by_cases haged : 0 < s.store.maxAgeMs ∧ readAt - map.createdAt > s.store.maxAgeMs
    · simp only [if_pos haged]
      have hgone : Drift H first
          { s with store := { s.store with maps := s.store.maps.erase first.clientId } } :=
        h.store (fun m hm => by simp at hm)
      exact hgone.reply hn (by simp)
    · simp only [if_neg haged]
      refine ⟨h.payload, h.secret, h.clientId, h.holds, h.gap, h.stored, h.requests, fun e he => ?_,
        h.responses, h.outstanding⟩
      rcases List.mem_append.mp he with he | he
      · exact h.serving e he
      · obtain rfl : e = _ := by simpa using he
        exact ⟨hn, rfl, (h.stored map hget).1, hsent⟩

/-- A verification goes ahead without its expiry branch. -/
def NotExpiring (s : Exchange) : ExchangeLabel → Prop
  | .resume index clock => ∀ e ∈ s.serving[index]?,
      e.map.expiresAt.any (· < clock.lifecycleAt) = false ∧
      e.map.usageCap.any (fun cap => cap ≤ (e.map.currentCount : Int)) = false
  | _ => True

instance (l : ExchangeLabel) : Decidable (NotExpiring s l) :=
  match l with
  | .resume index clock => inferInstanceAs (Decidable (∀ e ∈ s.serving[index]?,
      e.map.expiresAt.any (· < clock.lifecycleAt) = false ∧
      e.map.usageCap.any (fun cap => cap ≤ (e.map.currentCount : Int)) = false))
  | .fetch _ => isTrue trivial
  | .abandon => isTrue trivial
  | .arrive .. => isTrue trivial
  | .respond .. => isTrue trivial

theorem expiring_of_decideVerify {clientId key : JsString} {clock : VerifyClock}
    {updated : TumblerMap} {result : TSKVerifyResult}
    (h : decideVerify H config clientId key map clock = .ok (.expire updated result)) :
    map.expiresAt.any (· < clock.lifecycleAt) = true ∨
      map.usageCap.any (fun cap => cap ≤ (map.currentCount : Int)) = true := by
  simp only [decideVerify] at h
  split at h
  · cases h
  split at h
  · cases h
  split at h
  · next hexp => exact .inl hexp
  split at h
  · next hcap => exact .inr hcap
  obtain ⟨r, -, h⟩ := bind_eq_ok.mp h
  split at h <;> cases h

/-- Without collisions a key is matched at the counters it was sent with. -/
theorem matched_le {snapshot : TumblerMap} {key : JsString} {L : Int}
    {counterMatches : List (JsString × Int)} {counters : JsString → Int} {seg : SegmentConfig} {d : Int}
    (hl : GeneratedLayout first) (hcollide : NoCounterCollision H first)
    (hframe : snapshot.frame = first.frame)
    (hkey : KeyAccepted H key snapshot L counterMatches) (hsent : SentAt H first counters key)
    (hmem : seg ∈ first.segments) (ht : seg.type = .hotp)
    (hd : (seg.segmentId, d) ∈ counterMatches) : d ≤ counters seg.segmentId := by
  have hunder := (hkey.acceptedUnder first.clientId).of_frame hframe
  obtain ⟨seg', hmem', ht', hid, hdu, hdr⟩ := hunder.sound _ _ hd
  obtain rfl : seg' = seg := List.inj_on_of_nodup_map hl.ids hmem' hmem hid
  obtain ⟨cs, hcs⟩ := hsent.sent
  obtain ⟨hle, hcu, hcr⟩ := hcs seg' hmem' ht'
  have heq : d = cs seg'.segmentId := hcollide seg' hmem' ht' _ _ hdu hcu (hdr.text_unique hcr)
  omega

theorem Drift.accept {e : Serving} {current current' : TumblerMap} {L : Int}
    {counterMatches : List (JsString × Int)} (hl : GeneratedLayout first)
    (hcollide : NoCounterCollision H first) (h : Drift H first s)
    (hframe : e.map.frame = first.frame)
    (hsent : SentAt H first (counterAt s.client.counters) e.key)
    (hget : s.store.maps.get? first.clientId = some current)
    (hkey : KeyAccepted H e.key e.map L counterMatches)
    (hcommit : Committed current counterMatches current') (store : MemoryTumblerStore)
    (hstore : store.maps = s.store.maps.set first.clientId current') :
    s.accepted = s.confirmed ∧
      Drift H first { s with store := store, accepted := s.accepted + 1 } := by
  obtain ⟨hcurframe, hcounters⟩ := h.stored current hget
  obtain ⟨hge, hle⟩ := h.gap
  -- the commit needs a stored counter at or below the one sent, which the client has not passed
  have hbelow : ∀ seg ∈ current.segments, seg.type = .hotp → ∀ d,
      (seg.segmentId, d) ∈ counterMatches → d ≤ counterAt s.client.counters seg.segmentId := by
    intro seg hmem ht d hd
    obtain ⟨seg', hmem', hseg⟩ := exists_segment_of_frame hcurframe hmem
    rw [frame_segmentId hseg] at hd ⊢
    exact matched_le hl hcollide hframe hkey hsent hmem' ((frame_type hseg).symm.trans ht) hd
  have hgap : s.accepted = s.confirmed := by
    obtain ⟨seg, hmem, ht⟩ := hcommit.state.some_hotp
    obtain ⟨d, hd, hstored, -⟩ := hcommit.fresh seg hmem ht
    have := hbelow seg hmem ht d hd
    have := hcounters seg hmem ht
    omega
  refine ⟨hgap, h.payload, h.secret, h.clientId, h.holds, ⟨by simp only; omega, by simp only; omega⟩,
    fun map hm => ?_, h.requests, h.serving, h.responses, fun n snapshot hout => ?_⟩
  · rw [hstore, OrderedMap.get?_set_self] at hm
    obtain rfl := Option.some.inj hm
    refine ⟨hcommit.frame.trans hcurframe, fun seg' hmem' ht' => ?_⟩
    obtain ⟨seg, hmem, hseg, d, hd, hstored, hadv⟩ := hcommit.advanced hmem' ht'
    have ht := (frame_type hseg).trans ht'
    have := hbelow seg hmem ht d hd
    have := hcounters seg hmem ht
    rw [← frame_segmentId hseg]
    push_cast
    omega
  · exact ⟨(h.outstanding n snapshot hout).1, fun _ => by simp only; omega⟩

theorem Drift.resume {e : Serving} {clock : VerifyClock} (hl : GeneratedLayout first)
    (hcollide : NoCounterCollision H first) (h : Drift H first s)
    (he : e.request < s.nextRequest ∧ e.clientId = first.clientId ∧
      e.map.frame = first.frame ∧ SentAt H first (counterAt s.client.counters) e.key)
    (hexp : e.map.expiresAt.any (· < clock.lifecycleAt) = false ∧
      e.map.usageCap.any (fun cap => cap ≤ (e.map.currentCount : Int)) = false) :
    Drift H first (s.resume H config e clock) := by
  obtain ⟨hn, hid, hframe, hsent⟩ := he
  simp only [Exchange.resume]
  have hspec := resumeVerify_spec H config e.clientId e.key e.map clock s.store
  rcases houtcome : resumeVerify H config s.store e.clientId e.key e.map clock with ⟨outcome, store⟩
  rw [houtcome, hid] at hspec
  rcases hspec with ⟨result, counterMatches, rfl, hok, heffect⟩ | ⟨hnot, heffect⟩
  · cases heffect with
    | @accepted current current' _ hget hkey hcommit =>
      obtain ⟨hgap, hdrift⟩ := h.accept hl hcollide hframe hsent hget hkey hcommit
        { s.store with maps := s.store.maps.set first.clientId current' } rfl
      simp only [hok, if_true]
      exact hdrift.reply hn (fun _ => by simp only; omega)
  · have hstore : Drift H first { s with store := store } := by
      cases heffect with
      | unchanged => exact h
      | expired hdecide hset =>
        rcases expiring_of_decideVerify hdecide with hx | hx
        · rw [hexp.1] at hx; cases hx
        · rw [hexp.2] at hx; cases hx
      | refused hget hcurrent =>
        refine h.store (fun map hm => ?_)
        simp only [OrderedMap.get?_set_self, Option.some.injEq] at hm
        subst hm
        rcases hcurrent with rfl | ⟨-, rfl⟩
        · exact ⟨_, hget, rfl, rfl⟩
        · exact ⟨_, hget, rfl, rfl⟩
    cases outcome with
    | error err => exact hstore.reply hn (by simp)
    | ok result =>
      simp only [hnot result rfl]
      exact hstore.reply hn (by simp)

theorem Drift.settle (h : Drift H first s) : Drift H first { s with outstanding := none } :=
  ⟨h.payload, h.secret, h.clientId, h.holds, h.gap, h.stored, h.requests, h.serving, h.responses,
    by simp⟩

theorem Drift.confirm {snapshot : OrderedMap JsString Int} {saved : Bool}
    (hl : GeneratedLayout first) (h : Drift H first s) (hsnap : snapshot = s.client.counters)
    (hgap : s.accepted = s.confirmed + 1)
    (hcommit : s.client.commitHOTPCounters snapshot saved = some client') :
    Drift H first
      { s with outstanding := none, client := client', confirmed := s.confirmed + 1 } := by
  obtain ⟨hpayload, hsecret, hid, hcounters⟩ := commitHOTPCounters_spec h.payload hl hcommit
  have hat : ∀ seg ∈ first.segments, seg.type = .hotp →
      counterAt client'.counters seg.segmentId =
        counterAt s.client.counters seg.segmentId + 1 := fun seg hmem ht => by
    have hget := hcounters seg hmem ht
    rw [hsnap] at hget
    rw [counterAt, hget, Option.getD_some]
  have hmono : ∀ seg ∈ first.segments, seg.type = .hotp →
      counterAt s.client.counters seg.segmentId ≤ counterAt client'.counters seg.segmentId :=
    fun seg hmem ht => by have := hat seg hmem ht; omega
  refine ⟨hpayload.trans h.payload, hsecret.trans h.secret, hid.trans h.clientId,
    fun seg hmem ht => OrderedMap.has_iff.mpr ⟨_, hcounters seg hmem ht⟩,
    ⟨by simp only; omega, by simp only; omega⟩, fun map hget => ?_, fun r hr => ?_,
    fun e he => ?_, h.responses, by simp⟩
  · obtain ⟨hframe, hstored⟩ := h.stored map hget
    refine ⟨hframe, fun seg hmem ht => ?_⟩
    obtain ⟨seg', hmem', hseg⟩ := exists_segment_of_frame hframe hmem
    have hnew := hat seg' hmem' ((frame_type hseg).symm.trans ht)
    rw [← frame_segmentId hseg] at hnew
    have := hstored seg hmem ht
    simp only
    push_cast
    omega
  · obtain ⟨hn, key, hreq, hsent⟩ := h.requests r hr
    exact ⟨hn, key, hreq, hsent.mono hmono⟩
  · obtain ⟨hn, hid, hframe, hsent⟩ := h.serving e he
    exact ⟨hn, hid, hframe, hsent.mono hmono⟩

theorem Drift.respond {r : Nat × Bool} {index : Nat} {saved : Bool} (hl : GeneratedLayout first)
    (h : Drift H first s) (hr : s.responses[index]? = some r) :
    Drift H first
      ({ s with responses := s.responses.eraseIdx index }.respond r.1 r.2 saved) := by
  have hdrop : Drift H first { s with responses := s.responses.eraseIdx index } :=
    ⟨h.payload, h.secret, h.clientId, h.holds, h.gap, h.stored, h.requests, h.serving,
      fun r hr => h.responses r (List.mem_of_mem_eraseIdx hr), fun n snapshot hout =>
        ⟨(h.outstanding n snapshot hout).1, fun hmem =>
          (h.outstanding n snapshot hout).2 (List.mem_of_mem_eraseIdx hmem)⟩⟩
  simp only [Exchange.respond]
  split
  · exact hdrop
  next current snapshot hout =>
  split
  · exact hdrop
  next hcurrent =>
  split
  · exact hdrop.settle
  next hauth =>
  split
  · exact hdrop.settle
  next client' hcommit =>
  obtain ⟨hsnap, hgap⟩ := h.outstanding current snapshot hout
  have hmem : (current, true) ∈ s.responses := by
    obtain rfl : r = (current, true) := Prod.ext (by simpa using hcurrent) (by simpa using hauth)
    exact List.mem_of_getElem? hr
  exact hdrop.confirm hl hsnap (hgap hmem) hcommit

theorem Drift.step {l : ExchangeLabel} (hl : GeneratedLayout first)
    (hcollide : NoCounterCollision H first) (h : Drift H first s) (hexp : NotExpiring s l)
    (hstep : (exchangeMachine H config).step s l = some t) : Drift H first t := by
  cases l with
  | fetch nowMs =>
    simp only [exchangeMachine, Exchange.step] at hstep
    split at hstep
    · obtain rfl := Option.some.inj hstep; exact h.fetch hl
    · cases hstep
  | abandon =>
    simp only [exchangeMachine, Exchange.step] at hstep
    split at hstep
    · cases hstep
    · obtain rfl := Option.some.inj hstep; exact h.settle
  | arrive index readAt =>
    simp only [exchangeMachine, Exchange.step, Option.map_eq_some_iff] at hstep
    obtain ⟨r, hr, rfl⟩ := hstep
    obtain ⟨hn, hsent⟩ := h.requests r (List.mem_of_getElem? hr)
    exact (h.drop_request index).arrive hn hsent
  | resume index clock =>
    simp only [exchangeMachine, Exchange.step, Option.map_eq_some_iff] at hstep
    obtain ⟨e, he, rfl⟩ := hstep
    exact (h.drop_serving index).resume hl hcollide (h.serving e (List.mem_of_getElem? he))
      (hexp e he)
  | respond index saved =>
    simp only [exchangeMachine, Exchange.step, Option.map_eq_some_iff] at hstep
    obtain ⟨r, hr, rfl⟩ := hstep
    exact h.respond hl hr

theorem Drift.of_runs {store : MemoryTumblerStore} {ls : List ExchangeLabel}
    (hl : GeneratedLayout first) (hcollide : NoCounterCollision H first)
    (hstart : StartsInStep first client store)
    (hrun : (exchangeMachine H config).Runs NotExpiring (.start client store) ls s) :
    Drift H first s :=
  hrun.invariant (fun _ _ _ h hexp hstep => h.step hl hcollide hexp hstep) (.start hstart)

/-- A request is handled while the map is live and in date and the clocks agree. -/
structure HandledInTime (config : TSKConfig) (store : MemoryTumblerStore) (map : TumblerMap)
    (nowMs readAt : Int) (clock : VerifyClock) : Prop where
  admits : ConfigAdmits config.resolve map.keyLength
  live : isTerminal map.status = false
  young : ¬ (0 < store.maxAgeMs ∧ readAt - map.createdAt > store.maxAgeMs)
  in_date : map.expiresAt.any (· < clock.lifecycleAt) = false ∧
    map.expiresAt.any (· < clock.usedAt) = false
  below_cap : map.usageCap.any (fun cap => cap ≤ (map.currentCount : Int)) = false
  clocks : ClockInTolerance config.resolve.totpToleranceWindows map.segments nowMs clock.validatedAt

theorem GeneratedLayout.of_frame (h : GeneratedLayout first) (hframe : map.frame = first.frame)
    (ht : Tiled 0 map.segments map.checksum.1) : GeneratedLayout map := by
  have hcs : map.checksum = first.checksum := (congrArg TumblerMap.checksum hframe :)
  have hlen : map.keyLength = first.keyLength := (congrArg TumblerMap.keyLength hframe :)
  have hid : map.clientId = first.clientId := (congrArg TumblerMap.clientId hframe :)
  refine ⟨ht, by rw [hcs]; exact h.checksum, by rw [hcs, hlen]; exact h.keyLength, ?_, ?_, ?_,
    by rw [hid]; exact h.named, by rw [hlen]; exact h.bounded⟩
  · have hids := congrArg (List.map (·.segmentId)) (frame_segments hframe)
    simp only [List.map_map, Function.comp_def, SegmentConfig.frame] at hids
    rw [hids]; exact h.ids
  · obtain ⟨seg, hmem, hhotp⟩ := h.some_hotp
    obtain ⟨seg', hmem', hseg⟩ := exists_segment_of_frame hframe.symm hmem
    exact ⟨seg', hmem', (frame_type hseg).symm.trans hhotp⟩
  · rw [frame_sharedSecret hframe]; exact h.secret

theorem Tiled.of_frame {start stop : Nat} {a b : List SegmentConfig}
    (hframe : a.map SegmentConfig.frame = b.map SegmentConfig.frame) (h : Tiled start b stop) :
    Tiled start a stop := by
  induction h generalizing a with
  | nil =>
    obtain rfl : a = [] := by simpa using hframe
    exact .nil _
  | @cons start stop seg rest hstart hlt _ ih =>
    cases a with
    | nil => simp at hframe
    | cons seg' rest' =>
      simp only [List.map_cons, List.cons.injEq] at hframe
      have hpos : seg'.position = seg.position := (congrArg SegmentConfig.position hframe.1 :)
      exact .cons (by rw [hpos]; exact hstart) (by rw [hpos]; exact hlt)
        (by rw [hpos]; exact ih hframe.2)

theorem segmentTexts_frame {secret : JsString} {cs : JsString → Int} {nowMs : Int}
    (segments : List SegmentConfig) : segmentTexts H secret cs nowMs segments =
      segmentTexts H secret cs nowMs (segments.map SegmentConfig.frame) := by
  simp [segmentTexts, Function.comp_def, SegmentConfig.frame, SegmentConfig.input,
    SegmentConfig.length]

theorem keyText_frame {cs : JsString → Int} {nowMs : Int} (hframe : map.frame = first.frame) :
    keyText H map cs nowMs = keyText H first cs nowMs := by
  have hbody : keyBody H map cs nowMs = keyBody H first cs nowMs := by
    rw [keyBody, keyBody, segmentTexts_frame map.segments, segmentTexts_frame first.segments,
      frame_segments hframe, frame_sharedSecret hframe]
  rw [keyText, keyText, hbody, frame_sharedSecret hframe]

theorem verifyTSKRequest_accepts {cs : JsString → Int} {store : MemoryTumblerStore}
    {nowMs readAt : Int} {clock : VerifyClock} (hl : GeneratedLayout map)
    (hget : store.maps.get? map.clientId = some map) (hstate : CounterState map)
    (htime : HandledInTime config store map nowMs readAt clock)
    (hcounters : ∀ seg ∈ map.segments, seg.type = .hotp → seg.storedCounter = cs seg.segmentId ∧
      isUsableHOTPDerivationCounter seg.storedCounter = true) :
    ∃ result, (verifyTSKRequest H config store
      (requestHeaders map.clientId (keyText H map cs nowMs)) readAt clock).1 = .ok result ∧
      result.ok = true := by
  have hlen := length_keyText H cs nowMs hl
  have hne : keyText H map cs nowMs ≠ [] := by
    intro hnil
    have h := length_checksumText H map.sharedSecret (keyBody H map cs nowMs)
    rw [(List.append_eq_nil_iff.mp hnil).2] at h
    cases h
  have hshort : ¬ TSK_MAX_KEY_HEADER_BYTES < (keyText H map cs nowMs).length := by
    have := hl.bounded
    simp only [TSK_MAX_KEY_HEADER_BYTES, MAX_KEY_LENGTH] at this ⊢
    omega
  obtain ⟨r, hr, hok⟩ := validateTSKKey_generated (H := H) hl htime.admits
    htime.clocks hcounters
  have hrevoked : map.status ≠ some .revoked := fun h => by
    have := htime.live; rw [h] at this; cases this
  have hexpired : map.status ≠ some .expired := fun h => by
    have := htime.live; rw [h] at this; cases this
  have haccepted := (validateTSKKey_accepted hr hok).2
  have hdecide : decideVerify H config map.clientId (keyText H map cs nowMs) map clock =
      .ok (.commit ⟨r.counterMatches, clock.usedAt⟩ r.clientId) := by
    simp only [decideVerify]
    rw [if_neg hrevoked, if_neg hexpired, if_neg (by rw [htime.in_date.1]; simp),
      if_neg (by rw [htime.below_cap]; simp), hr, bind_ok, if_neg (by rw [hok]; simp)]
    rfl
  obtain ⟨res, hres, hresok⟩ := commitValidationToMap_accepts
    ⟨r.counterMatches, clock.usedAt⟩ hstate htime.live htime.in_date.2 htime.below_cap
    hl.ids haccepted.nodup haccepted.complete (fun u hu => by
      obtain ⟨seg, hmem, ht, hid, hm⟩ := haccepted.sound u.1 u.2 hu
      exact ⟨seg, hmem, ht, hid, hm.stored_le, hm.usable⟩)
  rcases hpair : commitValidationToMap map ⟨r.counterMatches, clock.usedAt⟩ with ⟨outcome, written⟩
  rw [hpair] at hres
  obtain rfl : outcome = .ok res := hres
  simp only [verifyTSKRequest, checkHeaders_requestHeaders]
  rw [if_neg (by simp [hl.named, hne]), if_neg hshort]
  simp only [MemoryTumblerStore.get, hget, if_neg htime.young, resumeVerify, hdecide,
    VerifyAction.perform, MemoryTumblerStore.commitValidation, hpair, Except.mapError, Except.map,
    hresok]
  exact ⟨_, rfl, rfl⟩

/-- While nothing is unconfirmed, a request made now is accepted. -/
theorem Drift.delivered {store : MemoryTumblerStore} {nowMs readAt : Int} {clock : VerifyClock}
    {req : TSKRequestData} {snapshot : OrderedMap JsString Int} (hl : GeneratedLayout first)
    (hstart : StartsInStep first client store) (h : Drift H first s)
    (hgap : s.accepted = s.confirmed) (hget : s.store.maps.get? first.clientId = some map)
    (htime : HandledInTime config s.store map nowMs readAt clock)
    (hgen : s.client.generateHeaders H nowMs = .ok (req, snapshot)) :
    ∃ result, (verifyTSKRequest H config s.store req readAt clock).1 = .ok result ∧
      result.ok = true := by
  obtain ⟨-, husable, rfl⟩ := generateHeaders_spec hl h hgen
  obtain ⟨hframe, hstored⟩ := h.stored map hget
  have hlmap := hl.of_frame hframe (hl.tiled.of_frame (frame_segments hframe) |> fun ht => by
    have hcs : map.checksum = first.checksum := (congrArg TumblerMap.checksum hframe :)
    rw [hcs]; exact ht)
  have hid : map.clientId = first.clientId := (congrArg TumblerMap.clientId hframe :)
  have hcounters : ∀ seg ∈ map.segments, seg.type = .hotp →
      seg.storedCounter = counterAt s.client.counters seg.segmentId ∧
      isUsableHOTPDerivationCounter seg.storedCounter = true := by
    intro seg hmem ht
    have heq := hstored seg hmem ht
    obtain ⟨seg', hmem', hseg⟩ := exists_segment_of_frame hframe hmem
    have hu := (husable seg' hmem' ((frame_type hseg).symm.trans ht)).2
    rw [← frame_segmentId hseg] at hu
    have heq' : seg.storedCounter = counterAt s.client.counters seg.segmentId := by omega
    exact ⟨heq', heq' ▸ hu⟩
  have hstate : CounterState map := by
    obtain ⟨m0, -, hm0, hframe0, -⟩ := hstart.stored
    have hwarn : map.hotpRotationWarningCounters = m0.hotpRotationWarningCounters :=
      (congrArg TumblerMap.hotpRotationWarningCounters (hframe.trans hframe0.symm) :)
    refine ⟨fun seg hmem ht => ?_, hlmap.some_hotp, fun w hw => hm0.warning w (hwarn ▸ hw),
      fun _ seg hmem ht => (isUsable_iff.mp (hcounters seg hmem ht).2).2⟩
    obtain ⟨h0, hlt⟩ := isUsable_iff.mp (hcounters seg hmem ht).2
    exact isValid_iff.mpr ⟨h0, by omega⟩
  rw [← hid, ← keyText_frame hframe]
  exact verifyTSKRequest_accepts hlmap (hid ▸ hget) hstate htime hcounters

/-- The server is at most one confirmation ahead of the client, in every HOTP segment alike,
and exactly level with it while no confirmation is missing; then the next request is accepted. -/
theorem counter_drift {store : MemoryTumblerStore} {ls : List ExchangeLabel}
    (hl : GeneratedLayout first) (hcollide : NoCounterCollision H first)
    (hstart : StartsInStep first client store)
    (hrun : (exchangeMachine H config).Runs NotExpiring (.start client store) ls s) :
    (∀ map, s.store.maps.get? first.clientId = some map →
      ∀ seg ∈ map.segments, seg.type = .hotp → ∃ c, s.client.counters.get? seg.segmentId = some c ∧
        c ≤ seg.storedCounter ∧ seg.storedCounter ≤ c + 1 ∧
        (seg.storedCounter = c ↔ s.accepted = s.confirmed)) ∧
    (s.accepted = s.confirmed → ∀ map nowMs readAt clock req snapshot,
      s.store.maps.get? first.clientId = some map →
      HandledInTime config s.store map nowMs readAt clock →
      s.client.generateHeaders H nowMs = .ok (req, snapshot) →
      ∃ result, (verifyTSKRequest H config s.store req readAt clock).1 = .ok result ∧
        result.ok = true) := by
  have h := Drift.of_runs hl hcollide hstart hrun
  refine ⟨fun map hget seg hmem ht => ?_, fun hgap map nowMs readAt clock req snapshot hget htime
    hgen => h.delivered hl hstart hgap hget htime hgen⟩
  obtain ⟨hframe, hstored⟩ := h.stored map hget
  obtain ⟨seg', hmem', hseg⟩ := exists_segment_of_frame hframe hmem
  have hhas := h.holds seg' hmem' ((frame_type hseg).symm.trans ht)
  obtain ⟨c, hc⟩ := OrderedMap.has_iff.mp hhas
  rw [← frame_segmentId hseg] at hc
  have heq := hstored seg hmem ht
  rw [counterAt, hc, Option.getD_some] at heq
  obtain ⟨hge, hle⟩ := h.gap
  exact ⟨c, hc, by omega, by omega, by omega⟩

section Sample

def sampleClient : TSKClient where
  clientId := JsString.lit "tsk_a"
  payload := {
    clientId := JsString.lit "tsk_a"
    clientSegments := [⟨JsString.lit "seg", .hotp, 11, none, some 0⟩]
    keyLength := 23
    checksumLength := 12
    createdAt := 0
    version := JsString.lit "1" }
  sharedSecret := List.replicate 64 97
  counters := (∅ : OrderedMap JsString Int).set (JsString.lit "seg") 0

theorem sampleMap_layout : GeneratedLayout sampleMap where
  tiled := .cons rfl (by decide) (.nil 11)
  checksum := rfl
  keyLength := rfl
  ids := by simp [sampleMap]
  some_hotp := ⟨_, List.mem_singleton_self _, rfl⟩
  secret := rfl
  named := by decide
  bounded := by decide

theorem sampleClient_payload : sampleClient.payload = toProvisionPayload sampleMap := by
  rw [toProvisionPayload, sampleMap_layout.tiled.sortedSegments_eq]
  rfl

theorem sampleMap_counterState : CounterState sampleMap :=
  assertTumblerMapCounterState_ok_iff.mp rfl

theorem sampleClient_inStep : StartsInStep sampleMap sampleClient sampleStore where
  payload := sampleClient_payload
  secret := rfl
  clientId := rfl
  stored := ⟨sampleMap, rfl, sampleMap_counterState, rfl, fun seg hmem _ => by
    obtain rfl := List.mem_singleton.mp hmem
    rfl⟩

/-- One fetch whose request arrives and is accepted. -/
def acceptedFetch : List ExchangeLabel := [.fetch 0, .arrive 0 0, .resume 0 ⟨0, 0, 0⟩]

end Sample

/-- When the confirmation is lost the server stays ahead of the client, and what the client
sends next is refused. -/
theorem lost_confirmation_refuses_next : ∃ s t,
    (exchangeMachine mirrorHmac {}).Runs NotExpiring (.start sampleClient sampleStore)
      (acceptedFetch ++ [.abandon]) s ∧
    (s.store.maps.get? (JsString.lit "tsk_a")).map (·.segments.map (·.storedCounter)) = some [1] ∧
    s.client.counters.get? (JsString.lit "seg") = some 0 ∧
    (exchangeMachine mirrorHmac {}).Runs NotExpiring s acceptedFetch t ∧
    t.responses = [(0, true), (1, false)] :=
  ⟨_, _, .of_exec rfl, by decide, rfl, .of_exec rfl, by decide⟩

theorem counter_drift_sample : ∃ s,
    (exchangeMachine mirrorHmac {}).Runs NotExpiring (.start sampleClient sampleStore)
      (acceptedFetch ++ [.respond 0 true]) s ∧ s.accepted = 1 ∧ s.confirmed = 1 ∧
    ∀ map, s.store.maps.get? sampleMap.clientId = some map →
      ∀ seg ∈ map.segments, seg.type = .hotp → ∃ c, s.client.counters.get? seg.segmentId = some c ∧
        c ≤ seg.storedCounter ∧ seg.storedCounter ≤ c + 1 ∧
        (seg.storedCounter = c ↔ s.accepted = s.confirmed) := by
  obtain ⟨s, hs, haccepted, hconfirmed⟩ : ∃ s, (exchangeMachine mirrorHmac {}).exec NotExpiring
      (.start sampleClient sampleStore) (acceptedFetch ++ [.respond 0 true]) = some s ∧
      s.accepted = 1 ∧ s.confirmed = 1 := ⟨_, rfl, rfl, rfl⟩
  have hrun := Machine.Runs.of_exec hs
  exact ⟨s, hrun, haccepted, hconfirmed, (counter_drift sampleMap_layout
    (sampleStore_no_collision sampleMap.clientId sampleMap rfl) sampleClient_inStep hrun).1⟩

end TskProtocol
