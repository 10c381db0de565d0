import TskProtocol.Core.MirrorHmac
import TskProtocol.Server.CallLaws

namespace TskProtocol

variable {H : HmacSha256} {config : TSKConfig} {initial : MemoryTumblerStore}
  {s t : ServerState} {id : JsString} {map map' : TumblerMap}

/-- Distinct usable counters of a HOTP segment derive distinct texts. -/
def NoCounterCollision (H : HmacSha256) (map : TumblerMap) : Prop :=
  ∀ seg ∈ map.segments, seg.type = .hotp → ∀ c d,
    isUsableHOTPDerivationCounter c = true → isUsableHOTPDerivationCounter d = true →
    hotpText H map.sharedSecret seg c = hotpText H map.sharedSecret seg d → c = d

def ServerState.acceptedFor (s : ServerState) (id : JsString) : List Acceptance :=
  s.accepted.filter (fun a => a.clientId = id)

def ServerLabel.isVerify : ServerLabel → Bool
  | .verify .. => true
  | .resume .. => true
  | _ => false

theorem frame_segments (h : map.frame = map'.frame) :
    map.segments.map SegmentConfig.frame = map'.segments.map SegmentConfig.frame :=
  congrArg TumblerMap.segments h

theorem frame_sharedSecret (h : map.frame = map'.frame) : map.sharedSecret = map'.sharedSecret :=
  (congrArg TumblerMap.sharedSecret h :)

theorem frame_usageCap (h : map.frame = map'.frame) : map.usageCap = map'.usageCap :=
  (congrArg TumblerMap.usageCap h :)

/-- Maps of one frame have the same segments up to their counters. -/
theorem exists_segment_of_frame (h : map.frame = map'.frame) {seg : SegmentConfig}
    (hmem : seg ∈ map.segments) : ∃ seg' ∈ map'.segments, seg.frame = seg'.frame := by
  have hframe : seg.frame ∈ map'.segments.map SegmentConfig.frame :=
    frame_segments h ▸ List.mem_map_of_mem hmem
  obtain ⟨seg', hmem', heq⟩ := List.mem_map.mp hframe
  exact ⟨seg', hmem', heq.symm⟩

theorem frame_type {seg seg' : SegmentConfig} (h : seg.frame = seg'.frame) :
    seg.type = seg'.type := (congrArg SegmentConfig.type h :)

theorem frame_segmentId {seg seg' : SegmentConfig} (h : seg.frame = seg'.frame) :
    seg.segmentId = seg'.segmentId := (congrArg SegmentConfig.segmentId h :)

theorem ReadsCounter.of_frame {secret key : JsString} {seg seg' : SegmentConfig} {c : Int}
    (h : seg.frame = seg'.frame) (hr : ReadsCounter H secret key seg c) :
    ReadsCounter H secret key seg' c := by
  have hpos : seg.position = seg'.position := (congrArg SegmentConfig.position h :)
  have htext : hotpText H secret seg c = hotpText H secret seg' c := by
    rw [← hotpText_frame, h, hotpText_frame]
  simpa [ReadsCounter, hpos, htext] using hr

/-- What the log records about one acceptance, in terms of the map as first stored. -/
structure AcceptedUnder (H : HmacSha256) (map : TumblerMap) (a : Acceptance) : Prop where
  complete : ∀ seg ∈ map.segments, seg.type = .hotp → ∃ c, (seg.segmentId, c) ∈ a.counterMatches
  sound : ∀ id c, (id, c) ∈ a.counterMatches → ∃ seg ∈ map.segments, seg.type = .hotp ∧
    seg.segmentId = id ∧ isUsableHOTPDerivationCounter c = true ∧
    ReadsCounter H map.sharedSecret a.key seg c

theorem AcceptedUnder.of_frame {a : Acceptance} (h : map.frame = map'.frame)
    (ha : AcceptedUnder H map a) : AcceptedUnder H map' a := by
  refine ⟨fun seg hmem ht => ?_, fun id c hc => ?_⟩
  · obtain ⟨seg', hmem', hseg⟩ := exists_segment_of_frame h.symm hmem
    rw [frame_segmentId hseg]
    exact ha.complete seg' hmem' ((frame_type hseg).symm.trans ht)
  · obtain ⟨seg, hmem, ht, hid, hu, hr⟩ := ha.sound id c hc
    obtain ⟨seg', hmem', hseg⟩ := exists_segment_of_frame h hmem
    refine ⟨seg', hmem', (frame_type hseg).symm.trans ht, (frame_segmentId hseg).symm.trans hid,
      hu, ?_⟩
    rw [← frame_sharedSecret h]
    exact hr.of_frame hseg

theorem KeyAccepted.acceptedUnder {key : JsString} {L : Int} {counterMatches : List (JsString × Int)}
    (h : KeyAccepted H key map L counterMatches) (id : JsString) :
    AcceptedUnder H map ⟨id, key, counterMatches⟩ := by
  refine ⟨fun seg hmem ht => ?_, fun id c hc => ?_⟩
  · obtain ⟨⟨_, c⟩, hc, rfl⟩ := List.mem_map.mp (h.complete seg hmem ht)
    exact ⟨c, hc⟩
  · obtain ⟨seg, hmem, ht, hid, hm⟩ := h.sound id c hc
    exact ⟨seg, hmem, ht, hid, hm.usable, hm.reads⟩

/-- A live map is past everything the log holds for its client. -/
structure AheadOf (map : TumblerMap) (log : List Acceptance) : Prop where
  counters : ∀ a ∈ log, ∀ seg ∈ map.segments, seg.type = .hotp →
    ∀ c, (seg.segmentId, c) ∈ a.counterMatches → c < seg.storedCounter
  count : log.length ≤ map.currentCount

/-- The map is the client's initial one up to counters, usage and status. -/
def UnderFrame (initial : MemoryTumblerStore) (id : JsString) (map : TumblerMap) : Prop :=
  ∃ first, initial.maps.get? id = some first ∧ map.frame = first.frame

/-- The invariant of concurrent verification. -/
structure OneTime (H : HmacSha256) (initial : MemoryTumblerStore) (s : ServerState) : Prop where
  stored : ∀ id map, s.store.maps.get? id = some map → UnderFrame initial id map
  pending : ∀ call ∈ s.pending, ∃ id key map, call = .verify id key map ∧ UnderFrame initial id map
  log : ∀ a ∈ s.accepted, ∃ first, initial.maps.get? a.clientId = some first ∧
    AcceptedUnder H first a
  live : ∀ id map, s.store.maps.get? id = some map → isTerminal map.status = false →
    AheadOf map (s.acceptedFor id)
  keys : ∀ id, ((s.acceptedFor id).map Acceptance.key).Nodup
  quota : ∀ id first cap, initial.maps.get? id = some first → first.usageCap = some cap →
    ((s.acceptedFor id).length : Int) ≤ cap

theorem OneTime.start (H : HmacSha256) (initial : MemoryTumblerStore) :
    OneTime H initial (.start initial) where
  stored id map h := ⟨map, h, rfl⟩
  pending := by simp [ServerState.start]
  log := by simp [ServerState.start]
  live id map _ _ := ⟨by simp [ServerState.start, ServerState.acceptedFor],
    by simp [ServerState.start, ServerState.acceptedFor]⟩
  keys := by simp [ServerState.start, ServerState.acceptedFor]
  quota id first cap _ hcap := by
    have hpos : 0 < cap := by simpa using (Option.filter_eq_some_iff.mp hcap).2
    simp only [ServerState.start, ServerState.acceptedFor, List.filter_nil, List.length_nil]
    omega

/-- A step that accepts nothing and leaves every client's map as it was, gone or dead. -/
theorem OneTime.quiet (h : OneTime H initial s) (hlog : t.accepted = s.accepted)
    (hpending : ∀ call ∈ t.pending, call ∈ s.pending ∨
      ∃ id key map, call = .verify id key map ∧ UnderFrame initial id map)
    (hmaps : ∀ id map, t.store.maps.get? id = some map →
      s.store.maps.get? id = some map ∨ UnderFrame initial id map ∧ isTerminal map.status = true) :
    OneTime H initial t := by
  have hfor : ∀ id, t.acceptedFor id = s.acceptedFor id := fun id => by
    simp only [ServerState.acceptedFor, hlog]
  refine ⟨fun id map hm => ?_, fun call hc => ?_, hlog ▸ h.log, fun id map hm hlive => ?_,
    fun id => hfor id ▸ h.keys id, fun id => hfor id ▸ h.quota id⟩
  · rcases hmaps id map hm with hm | ⟨hframe, -⟩
    · exact h.stored id map hm
    · exact hframe
  · rcases hpending call hc with hc | hcall
    · exact h.pending call hc
    · exact hcall
  · rcases hmaps id map hm with hm | ⟨-, hterm⟩
    · exact hfor id ▸ h.live id map hm hlive
    · rw [hterm] at hlive; cases hlive

/-- The matched counters of a commit are those it advances past. -/
theorem Committed.advanced {counterMatches : List (JsString × Int)}
    (h : Committed map counterMatches map') {seg' : SegmentConfig} (hmem : seg' ∈ map'.segments)
    (ht : seg'.type = .hotp) : ∃ seg ∈ map.segments, seg.frame = seg'.frame ∧
      ∃ c, (seg.segmentId, c) ∈ counterMatches ∧ seg.storedCounter ≤ c ∧ seg'.storedCounter = c + 1 := by
  rw [h.segments] at hmem
  obtain ⟨seg, hseg, rfl⟩ := List.mem_map.mp hmem
  have htype : seg.type = .hotp := (frame_type (advanceSegment_frame _ seg)).symm.trans ht
  obtain ⟨c, hc, hle, -⟩ := h.fresh seg hseg htype
  have hlookup : OrderedMap.lookupIn seg.segmentId counterMatches = some c :=
    (OrderedMap.lookupIn_eq_some h.nodup).mpr hc
  refine ⟨seg, hseg, (advanceSegment_frame _ seg).symm, c, hc, hle, ?_⟩
  simp [advanceSegment, hlookup, htype, SegmentConfig.storedCounter]

theorem value_unique {counterMatches : List (JsString × Int)} {c d : Int}
    (hn : (counterMatches.map Prod.fst).Nodup) (hc : (id, c) ∈ counterMatches)
    (hd : (id, d) ∈ counterMatches) : c = d := by
  have h := (OrderedMap.lookupIn_eq_some hn).mpr hc
  rw [(OrderedMap.lookupIn_eq_some hn).mpr hd] at h
  exact (Option.some.inj h).symm

theorem Committed.ahead {counterMatches : List (JsString × Int)} {log : List Acceptance}
    (h : Committed map counterMatches map') (id key : JsString) (hahead : AheadOf map log) :
    AheadOf map' (log ++ [⟨id, key, counterMatches⟩]) := by
  constructor
  · intro a ha seg' hmem ht c hc
    obtain ⟨seg, hseg, hframe, d, hd, hle, hstored⟩ := h.advanced hmem ht
    rw [← frame_segmentId hframe] at hc
    rcases List.mem_append.mp ha with ha | ha
    · have := hahead.counters a ha seg hseg ((frame_type hframe).trans ht) c hc
      omega
    · obtain rfl : a = ⟨id, key, counterMatches⟩ := by simpa using ha
      have := value_unique h.nodup hc hd
      omega
  · have := hahead.count
    simp only [TumblerMap.currentCount] at this
    simp only [List.length_append, List.length_singleton, TumblerMap.currentCount, h.count,
      Option.getD_some]
    omega

/-- A key that the live map still accepts is new: an equal key in the log would have been
matched at a smaller counter of the same segment. -/
theorem fresh_key {first : TumblerMap} {counterMatches : List (JsString × Int)}
    {log : List Acceptance} {key : JsString} (hcollide : NoCounterCollision H first)
    (hframe : map.frame = first.frame) (hcommit : Committed map counterMatches map')
    (hnew : AcceptedUnder H first ⟨id, key, counterMatches⟩) (hahead : AheadOf map log)
    (hlog : ∀ a ∈ log, AcceptedUnder H first a) : key ∉ log.map Acceptance.key := by
  intro hmem
  obtain ⟨a, ha, rfl⟩ := List.mem_map.mp hmem
  obtain ⟨seg, hseg, ht⟩ := hcommit.state.some_hotp
  obtain ⟨first_seg, hfirst, hsegframe⟩ := exists_segment_of_frame hframe hseg
  have htfirst : first_seg.type = .hotp := (frame_type hsegframe).symm.trans ht
  -- the HOTP ids of the frame are distinct, so both matches are of this very segment
  have hids : ((hotpSegments first.segments).map (·.segmentId)).Nodup := by
    have hperm := hcommit.perm.nodup_iff.mp hcommit.nodup
    have hsame : (hotpSegments map.segments).map (·.segmentId) =
        (hotpSegments first.segments).map (·.segmentId) := by
      have h := congrArg (fun l => (hotpSegments l).map (·.segmentId)) (frame_segments hframe)
      simpa [hotpSegments_map (f := SegmentConfig.frame) (fun _ => rfl), Function.comp_def,
        SegmentConfig.frame] using h
    rwa [hsame] at hperm
  have hunique : ∀ s ∈ first.segments, s.type = .hotp → s.segmentId = first_seg.segmentId →
      s = first_seg := fun s hs hst hid =>
    List.inj_on_of_nodup_map hids (List.mem_filter.mpr ⟨hs, by simpa using hst⟩)
      (List.mem_filter.mpr ⟨hfirst, by simpa using htfirst⟩) hid
  obtain ⟨c, hc, hle, -⟩ := hcommit.fresh seg hseg ht
  obtain ⟨d, hd⟩ := (hlog a ha).complete first_seg hfirst htfirst
  obtain ⟨s, hs, hst, hsid, hcu, hcr⟩ := hnew.sound _ _ hc
  obtain ⟨s', hs', hst', hsid', hdu, hdr⟩ := (hlog a ha).sound _ _ hd
  obtain rfl := hunique s hs hst (hsid.trans (frame_segmentId hsegframe))
  obtain rfl := hunique s' hs' hst' hsid'
  have heq : c = d := hcollide s' hs' hst' c d hcu hdu (hcr.text_unique hdr)
  have hlt := hahead.counters a ha seg hseg ht d ((frame_segmentId hsegframe) ▸ hd)
  omega

theorem UnderFrame.of_frame (h : UnderFrame initial id map) (hframe : map'.frame = map.frame) :
    UnderFrame initial id map' := by
  obtain ⟨first, hfirst, heq⟩ := h
  exact ⟨first, hfirst, hframe.trans heq⟩

theorem frame_expire (map : TumblerMap) : map.expire.frame = map.frame := rfl

theorem OneTime.read {key : JsString} (h : OneTime H initial s)
    (hread : ReadEffect s id (.verify id key) t) : OneTime H initial t := by
  cases hread with
  | missing => exact h
  | aged =>
    refine h.quiet rfl (fun call hc => .inl hc) (fun id' map hm => ?_)
    simp only [MemoryTumblerStore.delete, OrderedMap.get?_erase] at hm
    split at hm
    · cases hm
    · exact .inl hm
  | @found map hget =>
    refine h.quiet rfl (fun call hc => ?_) (fun id' map hm => .inl hm)
    rcases List.mem_append.mp hc with hc | hc
    · exact .inl hc
    · exact .inr ⟨id, key, map, by simpa using hc, h.stored id map hget⟩

theorem set_ok_maps {store store' : MemoryTumblerStore}
    (h : store.set id map = (.ok (), store')) : store'.maps = store.maps.set id map := by
  simp only [MemoryTumblerStore.set] at h
  split at h
  · cases h
  cases ha : assertTumblerMapCounterState map with
  | error e => rw [ha] at h; cases h
  | ok => rw [ha] at h; obtain rfl := (Prod.mk.inj h).2; rfl

theorem acceptedFor_append {a : Acceptance} (h : t.accepted = s.accepted ++ [a]) (id : JsString) :
    t.acceptedFor id = s.acceptedFor id ++ if a.clientId = id then [a] else [] := by
  by_cases hid : a.clientId = id <;> simp [ServerState.acceptedFor, h, hid]

theorem OneTime.accept {key : JsString} {counterMatches : List (JsString × Int)} {L : Int}
    {snapshot : TumblerMap} {store : MemoryTumblerStore} (h : OneTime H initial s)
    (hcollide : ∀ id map, initial.maps.get? id = some map → NoCounterCollision H map)
    (hget : s.store.maps.get? id = some map) (hsnapshot : UnderFrame initial id snapshot)
    (hkey : KeyAccepted H key snapshot L counterMatches)
    (hcommit : Committed map counterMatches map') (hstore : store.maps = s.store.maps.set id map') :
    OneTime H initial { s with
      store := store, accepted := s.accepted ++ [⟨id, key, counterMatches⟩] } := by
  obtain ⟨first, hfirst, hframe⟩ := h.stored id map hget
  have hnew : AcceptedUnder H first ⟨id, key, counterMatches⟩ := by
    obtain ⟨first', hfirst', hframe'⟩ := hsnapshot
    obtain rfl : first = first' := Option.some.inj (hfirst.symm.trans hfirst')
    exact (hkey.acceptedUnder id).of_frame hframe'
  have hahead := h.live id map hget hcommit.live
  have hlog : ∀ a ∈ s.acceptedFor id, AcceptedUnder H first a := by
    intro a ha
    obtain ⟨ha, hid⟩ := List.mem_filter.mp ha
    obtain ⟨first', hfirst', hunder⟩ := h.log a ha
    obtain rfl : a.clientId = id := by simpa using hid
    obtain rfl : first = first' := Option.some.inj (hfirst.symm.trans hfirst')
    exact hunder
  have hmaps : ∀ id', store.maps.get? id' = if id = id' then some map' else s.store.maps.get? id' :=
    fun id' => by rw [hstore, OrderedMap.get?_set]
  have hfor := acceptedFor_append (s := s) (a := ⟨id, key, counterMatches⟩)
    (t := { s with store := store, accepted := s.accepted ++ [⟨id, key, counterMatches⟩] }) rfl
  refine ⟨fun id' m hm => ?_, h.pending, fun a ha => ?_, fun id' m hm hlive => ?_, fun id' => ?_,
    fun id' m cap hm hcap => ?_⟩
  · rw [hmaps] at hm
    split at hm
    · next heq =>
      obtain rfl := Option.some.inj hm
      exact heq ▸ ⟨first, hfirst, hcommit.frame.trans hframe⟩
    · exact h.stored id' m hm
  · rcases List.mem_append.mp ha with ha | ha
    · exact h.log a ha
    · obtain rfl : a = ⟨id, key, counterMatches⟩ := by simpa using ha
      exact ⟨first, hfirst, hnew⟩
  · rw [hmaps] at hm
    rw [hfor id']
    by_cases heq : id = id'
    · subst heq
      obtain rfl : map' = m := by simpa using hm
      simpa using hcommit.ahead id key hahead
    · simpa [heq] using h.live id' m (by simpa [heq] using hm) hlive
  · rw [hfor id']
    by_cases heq : id = id'
    · subst heq
      have hfresh := fresh_key (hcollide id first hfirst) hframe hcommit hnew hahead hlog
      rw [if_pos rfl, List.map_append, List.nodup_append]
      refine ⟨h.keys id, by simp, ?_⟩
      rintro k hk k' hk' rfl
      obtain rfl : k = key := by simpa using hk'
      exact hfresh hk
    · simpa [heq] using h.keys id'
  · rw [hfor id']
    by_cases heq : id = id'
    · subst heq
      obtain rfl : first = m := Option.some.inj (hfirst.symm.trans hm)
      have hlt := hcommit.below_cap cap ((frame_usageCap hframe).trans hcap)
      have hcount := hahead.count
      simp only [if_pos, List.length_append, List.length_singleton]
      omega
    · simpa [heq] using h.quota id' m cap hm hcap

theorem OneTime.verifyEffect {key : JsString} {snapshot : TumblerMap} {store : MemoryTumblerStore}
    {log : List Acceptance} (h : OneTime H initial s)
    (hcollide : ∀ id map, initial.maps.get? id = some map → NoCounterCollision H map)
    (hsnapshot : UnderFrame initial id snapshot)
    {clock : VerifyClock}
    (heffect : VerifyEffect H config s.store id key snapshot clock store log) :
    OneTime H initial { s with store := store, accepted := s.accepted ++ log } := by
  cases heffect with
  | unchanged => simpa using h
  | expired hdecide hset =>
    refine h.quiet (by simp) (fun call hc => .inl hc) (fun id' m hm => ?_)
    rw [set_ok_maps hset, OrderedMap.get?_set] at hm
    split at hm
    · next heq =>
      obtain rfl := Option.some.inj hm
      exact .inr ⟨heq ▸ hsnapshot.of_frame (frame_expire snapshot), rfl⟩
    · exact .inl hm
  | @refused current current' hget hcurrent =>
    refine h.quiet (by simp) (fun call hc => .inl hc) (fun id' m hm => ?_)
    simp only [OrderedMap.get?_set] at hm
    split at hm
    · next heq =>
      subst heq
      obtain rfl := Option.some.inj hm
      rcases hcurrent with rfl | ⟨-, rfl⟩
      · exact .inl hget
      · exact .inr ⟨(h.stored id current hget).of_frame (frame_expire current), rfl⟩
    · exact .inl hm
  | accepted hget hkey hcommit => exact h.accept hcollide hget hsnapshot hkey hcommit rfl

theorem OneTime.drop (h : OneTime H initial s) (index : Nat) :
    OneTime H initial { s with pending := s.pending.eraseIdx index } :=
  h.quiet rfl (fun _ hc => .inl (List.mem_of_mem_eraseIdx hc)) (fun _ _ hm => .inl hm)

theorem OneTime.step {l : ServerLabel} (h : OneTime H initial s)
    (hcollide : ∀ id map, initial.maps.get? id = some map → NoCounterCollision H map)
    (hl : l.isVerify = true) (hstep : (serverMachine H config).step s l = some t) :
    OneTime H initial t := by
  cases l with
  | verify req readAt =>
    simp only [serverMachine, ServerState.step] at hstep
    split at hstep
    · obtain rfl := Option.some.inj hstep; exact h
    · obtain rfl := Option.some.inj hstep
      exact h.read (read_effect ..)
  | resume index clock generated =>
    simp only [serverMachine, ServerState.step] at hstep
    split at hstep
    · cases hstep
    · next call hcall =>
      obtain rfl := Option.some.inj hstep
      obtain ⟨id, key, snapshot, rfl, hsnapshot⟩ := h.pending call (List.mem_of_getElem? hcall)
      obtain ⟨store, log, heq, heffect⟩ :=
        resumeVerify_effect H config id key snapshot clock
          { s with pending := s.pending.eraseIdx index }
      simp only [ServerState.resume, heq]
      exact (h.drop index).verifyEffect hcollide hsnapshot heffect
  | update call clientId updates readAt => cases hl
  | replace call oldClientId lifecycle readAt => cases hl
  | revoke call clientId readAt => cases hl

theorem OneTime.of_runs {ls : List ServerLabel}
    (hcollide : ∀ id map, initial.maps.get? id = some map → NoCounterCollision H map)
    (hrun : (serverMachine H config).Runs (fun _ l => l.isVerify = true) (.start initial) ls s) :
    OneTime H initial s :=
  hrun.invariant (fun _ _ _ h hl hstep => h.step hcollide hl hstep) (.start H initial)

/-- A step that accepts a request is the commit on a live map. -/
theorem accepting_step {l : ServerLabel} {a : Acceptance} (h : OneTime H initial s)
    (hl : l.isVerify = true) (hstep : (serverMachine H config).step s l = some t)
    (ha : t.accepted = s.accepted ++ [a]) :
    ∃ map map', s.store.maps.get? a.clientId = some map ∧
      t.store.maps.get? a.clientId = some map' ∧ Committed map a.counterMatches map' := by
  have hne : ∀ {x : Acceptance}, s.accepted ≠ s.accepted ++ [x] := fun hx => by simp at hx
  cases l with
  | verify req readAt =>
    simp only [serverMachine, ServerState.step] at hstep
    split at hstep
    · obtain rfl := Option.some.inj hstep; exact absurd ha hne
    · obtain rfl := Option.some.inj hstep
      exact absurd ((read_effect ..).accepted.symm.trans ha) hne
  | resume index clock generated =>
    simp only [serverMachine, ServerState.step] at hstep
    split at hstep
    · cases hstep
    next call hcall =>
    obtain rfl := Option.some.inj hstep
    obtain ⟨id, key, snapshot, rfl, -⟩ := h.pending call (List.mem_of_getElem? hcall)
    obtain ⟨store, log, heq, heffect⟩ :=
      resumeVerify_effect H config id key snapshot clock
        { s with pending := s.pending.eraseIdx index }
    simp only [ServerState.resume, heq] at ha ⊢
    cases heffect with
    | unchanged => simp at ha
    | expired => simp at ha
    | refused => simp at ha
    | @accepted current current' counterMatches hget hkey hcommit =>
      obtain rfl : ⟨id, key, counterMatches⟩ = a := by simpa using ha
      exact ⟨current, current', hget, OrderedMap.get?_set_self .., hcommit⟩
  | update call clientId updates readAt => cases hl
  | replace call oldClientId lifecycle readAt => cases hl
  | revoke call clientId readAt => cases hl

/-- Concurrent verification accepts every key once, stays within the usage cap, and right
after an acceptance stores counters above all that were ever accepted. -/
theorem verify_one_time {ls : List ServerLabel}
    (hcollide : ∀ id map, initial.maps.get? id = some map → NoCounterCollision H map)
    (hrun : (serverMachine H config).Runs (fun _ l => l.isVerify = true) (.start initial) ls s) :
    (∀ id, ((s.acceptedFor id).map Acceptance.key).Nodup) ∧
    (∀ id map cap, initial.maps.get? id = some map → map.maxRequests = some cap → 0 < cap →
      ((s.acceptedFor id).length : Int) ≤ cap) ∧
    (∀ l t a, l.isVerify = true → (serverMachine H config).step s l = some t →
      t.accepted = s.accepted ++ [a] →
      ∃ map, t.store.maps.get? a.clientId = some map ∧
        ∀ seg ∈ map.segments, seg.type = .hotp → ∀ b ∈ t.acceptedFor a.clientId,
          ∀ c, (seg.segmentId, c) ∈ b.counterMatches → c < seg.storedCounter) := by
  have h := OneTime.of_runs hcollide hrun
  refine ⟨h.keys, fun id map cap hget hmax hpos => ?_, fun l t a hl hstep ha => ?_⟩
  · exact h.quota id map cap hget (by simp [TumblerMap.usageCap, hmax, hpos])
  · obtain ⟨map, map', hget, hget', hcommit⟩ := accepting_step h hl hstep ha
    refine ⟨map', hget', ?_⟩
    have hahead := hcommit.ahead a.clientId a.key (h.live _ _ hget hcommit.live)
    rw [acceptedFor_append ha, if_pos rfl]
    exact fun seg hmem ht b hb c hc => hahead.counters b hb seg hmem ht c hc

section Sample

/-- One client with a single HOTP segment and a checksum. -/
def sampleMap : TumblerMap where
  clientId := JsString.lit "tsk_a"
  sharedSecret := List.replicate 64 97
  keyLength := 23
  segments := [⟨JsString.lit "seg", (0, 11), .hotp, none, some 0⟩]
  checksum := (11, 23)
  createdAt := 0
  version := JsString.lit "1"
  label := none
  expiresAt := none
  maxRequests := some 2
  rotationWarningRequests := none
  hotpRotationWarningCounters := none
  requestCount := some 0
  lastUsedAt := some none
  status := some .active

def sampleStore : MemoryTumblerStore where
  maps := (∅ : OrderedMap JsString TumblerMap).set (JsString.lit "tsk_a") sampleMap
  maxEntries := 4
  maxAgeMs := 0

def sampleKey (counter : Int) : JsString :=
  let body := segmentText mirrorHmac (List.replicate 64 97) (hotpInput (JsString.lit "seg") counter) 11
  body ++ checksumText mirrorHmac (List.replicate 64 97) body CHECKSUM_LENGTH

def sampleRequest (counter : Int) : TSKRequestData where
  headers := (((∅ : OrderedMap JsString HeaderValue).set TSK_HEADERS.CLIENT_ID
    (.single (JsString.lit "tsk_a"))).set TSK_HEADERS.KEY (.single (sampleKey counter))).set
      TSK_HEADERS.VERSION (.single TSK_PROTOCOL_VERSION)

/-- Two requests with one key read the map before either commits. -/
def sampleRun : List ServerLabel :=
  [.verify (sampleRequest 1) 0, .verify (sampleRequest 1) 0,
    .resume 1 ⟨0, 0, 0⟩ none, .resume 0 ⟨0, 0, 0⟩ none]

theorem sampleStore_no_collision (id : JsString) (map : TumblerMap)
    (h : sampleStore.maps.get? id = some map) : NoCounterCollision mirrorHmac map := by
  simp only [sampleStore, OrderedMap.get?_set] at h
  split at h
  · obtain rfl := Option.some.inj h
    intro seg hmem _ c d hc hd heq
    obtain rfl : seg = ⟨JsString.lit "seg", (0, 11), .hotp, none, some 0⟩ := by
      simpa [sampleMap] using hmem
    exact mirrorHmac_counter_unique (by decide) (by decide) hc hd heq
  · cases h

end Sample

theorem verify_one_time_sample : ∃ s,
    (serverMachine mirrorHmac {}).Runs (fun _ l => l.isVerify = true) (.start sampleStore)
      sampleRun s ∧
    s.accepted = [⟨JsString.lit "tsk_a", sampleKey 1, [(JsString.lit "seg", 1)]⟩] ∧
    (∀ id, ((s.acceptedFor id).map Acceptance.key).Nodup) := by
  obtain ⟨s, hs, hlog⟩ : ∃ s, (serverMachine mirrorHmac {}).exec (fun _ l => l.isVerify = true)
      (.start sampleStore) sampleRun = some s ∧
      s.accepted = [⟨JsString.lit "tsk_a", sampleKey 1, [(JsString.lit "seg", 1)]⟩] :=
    ⟨_, rfl, by decide⟩
  have hrun := Machine.Runs.of_exec hs
  exact ⟨s, hrun, hlog, (verify_one_time sampleStore_no_collision hrun).1⟩

end TskProtocol
