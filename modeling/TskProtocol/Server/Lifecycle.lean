import TskProtocol.Server.OneTime

namespace TskProtocol

variable {H : HmacSha256} {config : TSKConfig} {s t u : ServerState} {id : JsString}
  {map map' map'' : TumblerMap}

/-- A segment keeps its place and layout, and its counter does not go back. -/
structure SegmentEvolves (seg seg' : SegmentConfig) : Prop where
  frame : seg.frame = seg'.frame
  counter : seg.storedCounter ≤ seg'.storedCounter

structure MapEvolves (map map' : TumblerMap) : Prop where
  segments : List.Forall₂ SegmentEvolves map.segments map'.segments
  count : map.currentCount ≤ map'.currentCount
  terminal : isTerminal map.status = true → isTerminal map'.status = true

theorem forall₂_evolves_refl (segments : List SegmentConfig) :
    List.Forall₂ SegmentEvolves segments segments :=
  List.forall₂_same.mpr (fun _ _ => ⟨rfl, le_rfl⟩)

theorem MapEvolves.refl (map : TumblerMap) : MapEvolves map map :=
  ⟨forall₂_evolves_refl map.segments, le_rfl, fun h => h⟩

theorem SegmentEvolves.trans {a b c : SegmentConfig} (h : SegmentEvolves a b)
    (k : SegmentEvolves b c) : SegmentEvolves a c :=
  ⟨h.frame.trans k.frame, h.counter.trans k.counter⟩

theorem forall₂_evolves_trans {a b c : List SegmentConfig}
    (h : List.Forall₂ SegmentEvolves a b) (k : List.Forall₂ SegmentEvolves b c) :
    List.Forall₂ SegmentEvolves a c := by
  induction h generalizing c with
  | nil => cases k; exact .nil
  | cons hab _ ih => cases k with
    | cons hbc k => exact .cons (hab.trans hbc) (ih k)

theorem MapEvolves.trans (h : MapEvolves map map') (k : MapEvolves map' map'') :
    MapEvolves map map'' :=
  ⟨forall₂_evolves_trans h.segments k.segments, h.count.trans k.count,
    fun ht => k.terminal (h.terminal ht)⟩

/-- The ghost history covers what is stored. -/
def StoredIssued (s : ServerState) : Prop :=
  ∀ id map, s.store.maps.get? id = some map → id ∈ s.issued

/-- Everything issued by the earlier state that the later one still holds has evolved from
what the earlier one held; in particular nothing issued comes back once it is gone. -/
structure Evolves (s t : ServerState) : Prop where
  issued : ∀ id ∈ s.issued, id ∈ t.issued
  maps : ∀ id ∈ s.issued, ∀ map', t.store.maps.get? id = some map' →
    ∃ map, s.store.maps.get? id = some map ∧ MapEvolves map map'
  covered : StoredIssued s → StoredIssued t

theorem Evolves.refl (s : ServerState) : Evolves s s :=
  ⟨fun _ h => h, fun _ _ map h => ⟨map, h, .refl map⟩, fun h => h⟩

theorem Evolves.trans (h : Evolves s t) (k : Evolves t u) : Evolves s u := by
  refine ⟨fun id hid => k.issued id (h.issued id hid), fun id hid map'' hget => ?_,
    fun hs => k.covered (h.covered hs)⟩
  obtain ⟨map', hget', hevolves'⟩ := k.maps id (h.issued id hid) map'' hget
  obtain ⟨map, hget, hevolves⟩ := h.maps id hid map' hget'
  exact ⟨map, hget, hevolves.trans hevolves'⟩

/-- The store still holds, live and with the counters and the request count that were read,
the map a call is about to write back. -/
def StillCurrent (s : ServerState) (id : JsString) (snapshot : TumblerMap) : Prop :=
  (s.store.maps.get? id).any (fun map => !isTerminal map.status &&
    map.segments = snapshot.segments && map.currentCount = snapshot.currentCount) = true

instance : Decidable (StillCurrent s id map) := inferInstanceAs (Decidable (_ = true))

theorem StillCurrent.stored (h : StillCurrent s id map) :
    ∃ current, s.store.maps.get? id = some current ∧ isTerminal current.status = false ∧
      current.segments = map.segments ∧ current.currentCount = map.currentCount := by
  simp only [StillCurrent, Option.any_eq_true, Bool.and_eq_true, Bool.not_eq_true',
    decide_eq_true_eq] at h
  obtain ⟨current, hget, ⟨hlive, hsegments⟩, hcount⟩ := h
  exact ⟨current, hget, hlive, hsegments, hcount⟩

/-- The id and the snapshot of a call that, continued now, writes a whole map back. -/
def writeBack (H : HmacSha256) (config : TSKConfig) (clock : VerifyClock) :
    PendingCall → Option (JsString × TumblerMap)
  | .verify id key map =>
    match decideVerify H config id key map clock with
    | .ok (.expire _ _) => some (id, map)
    | _ => none
  | .update id existing updates => (updates.apply existing).map (fun _ => (id, existing))
  | _ => none

/-- A generated client id has never been used before. -/
def DrawsFresh (s : ServerState) : ServerLabel → Prop
  | .resume _ _ (some generated) => generated.clientId ∉ s.issued
  | _ => True

def NoStaleWriteBack (H : HmacSha256) (config : TSKConfig) (s : ServerState) :
    ServerLabel → Prop
  | .resume index clock _ => ∀ call ∈ s.pending[index]?, ∀ w ∈ writeBack H config clock call,
      StillCurrent s w.1 w.2
  | _ => True

instance (l : ServerLabel) : Decidable (DrawsFresh s l) :=
  match l with
  | .resume _ _ (some generated) => inferInstanceAs (Decidable (generated.clientId ∉ s.issued))
  | .resume _ _ none => isTrue trivial
  | .verify .. => isTrue trivial
  | .update .. => isTrue trivial
  | .replace .. => isTrue trivial
  | .revoke .. => isTrue trivial

instance (l : ServerLabel) : Decidable (NoStaleWriteBack H config s l) :=
  match l with
  | .resume index clock _ => inferInstanceAs (Decidable (∀ call ∈ s.pending[index]?,
      ∀ w ∈ writeBack H config clock call, StillCurrent s w.1 w.2))
  | .verify .. => isTrue trivial
  | .update .. => isTrue trivial
  | .replace .. => isTrue trivial
  | .revoke .. => isTrue trivial

/-- A step after which every stored map has evolved from the one stored before. -/
theorem Evolves.of_maps (hissued : ∀ id ∈ s.issued, id ∈ t.issued)
    (h : ∀ id map', t.store.maps.get? id = some map' →
      ∃ map, s.store.maps.get? id = some map ∧ MapEvolves map map') : Evolves s t := by
  refine ⟨hissued, fun id _ => h id, fun hs id map' hget => ?_⟩
  obtain ⟨map, hget, -⟩ := h id map' hget
  exact hissued id (hs id map hget)

theorem Evolves.of_eq (hissued : t.issued = s.issued) (hmaps : t.store.maps = s.store.maps) :
    Evolves s t :=
  .of_maps (fun _ h => hissued ▸ h) (fun _ map h => ⟨map, hmaps ▸ h, .refl map⟩)

theorem Evolves.of_erase (hissued : t.issued = s.issued)
    (hmaps : t.store.maps = s.store.maps.erase id) : Evolves s t := by
  refine .of_maps (fun _ h => hissued ▸ h) (fun id' map' hget => ?_)
  rw [hmaps, OrderedMap.get?_erase] at hget
  split at hget
  · cases hget
  · exact ⟨map', hget, .refl map'⟩

theorem Evolves.of_set (hissued : t.issued = s.issued) (hget : s.store.maps.get? id = some map)
    (hmaps : t.store.maps = s.store.maps.set id map') (h : MapEvolves map map') : Evolves s t := by
  refine .of_maps (fun _ h => hissued ▸ h) (fun id' m hm => ?_)
  rw [hmaps, OrderedMap.get?_set] at hm
  split at hm
  · next heq =>
    obtain rfl := Option.some.inj hm
    exact ⟨map, heq ▸ hget, h⟩
  · exact ⟨m, hm, .refl m⟩

theorem MapEvolves.expire (h : isTerminal map.status = false) : MapEvolves map map.expire :=
  ⟨forall₂_evolves_refl _, le_rfl, fun ht => by rw [h] at ht; cases ht⟩

theorem Committed.evolves {counterMatches : List (JsString × Int)}
    (h : Committed map counterMatches map') : MapEvolves map map' := by
  refine ⟨?_, ?_, fun ht => by rw [h.live] at ht; cases ht⟩
  · rw [h.segments, List.forall₂_map_right_iff, List.forall₂_same]
    intro seg hmem
    refine ⟨(advanceSegment_frame _ seg).symm, ?_⟩
    cases hlookup : OrderedMap.lookupIn seg.segmentId counterMatches with
    | none => simp [advanceSegment, hlookup]
    | some c =>
      by_cases ht : seg.type = .hotp
      · obtain ⟨d, hd, hle, -⟩ := h.fresh seg hmem ht
        obtain rfl := value_unique h.nodup (OrderedMap.mem_of_lookupIn hlookup) hd
        simp only [advanceSegment, hlookup, ht, if_true, SegmentConfig.storedCounter,
          Option.getD_some] at hle ⊢
        omega
      · simp [advanceSegment, hlookup, ht]
  · simp only [TumblerMap.currentCount, h.count, Option.getD_some]
    omega

/-- An update keeps the counters and the usage it read. -/
theorem KeyUpdates.apply_keeps {updates : KeyUpdates} (h : updates.apply map = some map') :
    map'.segments = map.segments ∧ map'.currentCount = map.currentCount := by
  simp only [KeyUpdates.apply] at h
  split at h
  · cases h
  split at h
  · cases h
  split at h
  · cases h
  split at h
  · obtain rfl := Option.some.inj h; exact ⟨rfl, rfl⟩
  split at h
  · cases h
  · obtain rfl := Option.some.inj h; exact ⟨rfl, rfl⟩

theorem StillCurrent.evolves_set {snapshot : TumblerMap} (h : StillCurrent s id snapshot)
    (hissued : t.issued = s.issued) (hmaps : t.store.maps = s.store.maps.set id map')
    (hsegments : map'.segments = snapshot.segments)
    (hcount : map'.currentCount = snapshot.currentCount) : Evolves s t := by
  obtain ⟨map, hget, hlive, hseg, hcnt⟩ := h.stored
  refine .of_set hissued hget hmaps ⟨?_, ?_, fun ht => by rw [hlive] at ht; cases ht⟩
  · rw [hsegments, ← hseg]
    exact forall₂_evolves_refl _
  · rw [hcount, hcnt]

theorem evolves_verify {clock : VerifyClock} {key : JsString} {snapshot : TumblerMap}
    (hcurrent : ∀ w ∈ writeBack H config clock (.verify id key snapshot), StillCurrent s w.1 w.2) :
    Evolves s (s.resumeVerify H config id key snapshot clock) := by
  obtain ⟨store, log, heq, heffect⟩ :=
    resumeVerify_effect H config id key snapshot clock s
  rw [heq]
  cases heffect with
  | unchanged => exact .of_eq rfl rfl
  | expired hdecide hset =>
    exact (hcurrent (id, snapshot) (by simp [writeBack, hdecide])).evolves_set rfl (set_ok_maps hset) rfl rfl
  | refused hget hcurrent' =>
    rcases hcurrent' with rfl | ⟨hlive, rfl⟩
    · exact .of_set rfl hget rfl (.refl _)
    · exact .of_set rfl hget rfl (.expire hlive)
  | accepted hget hkey hcommit => exact .of_set rfl hget rfl hcommit.evolves

theorem evolves_update {existing : TumblerMap} {updates : KeyUpdates} {clock : VerifyClock}
    (hcurrent : ∀ w ∈ writeBack H config clock (.update id existing updates),
      StillCurrent s w.1 w.2) :
    Evolves s (s.resumeUpdate id existing updates) := by
  simp only [ServerState.resumeUpdate]
  cases happly : updates.apply existing with
  | none => exact .refl s
  | some updated =>
    obtain ⟨hsegments, hcount⟩ := KeyUpdates.apply_keeps happly
    rcases set_eq_ok_or_unchanged s.store id updated with ⟨store', hset⟩ | ⟨e, hset⟩
    · simp only [hset]
      exact (hcurrent (id, existing) (by simp [writeBack, happly])).evolves_set rfl (set_ok_maps hset) hsegments hcount
    · simp only [hset]
      exact .of_eq rfl rfl

theorem MapEvolves.revoke (h : isTerminal map.status = false) :
    MapEvolves map { map with status := some .revoked } :=
  ⟨forall₂_evolves_refl _, le_rfl, fun ht => by rw [h] at ht; cases ht⟩

/-- The maps of a replacement before the new credential is added: the old one is revoked
or, at capacity, removed. -/
theorem retired_evolves (maxEntries : Nat) {m : OrderedMap JsString TumblerMap}
    (hget : m.get? id = some map) (hlive : isTerminal map.status = false) (id' : JsString)
    (map' : TumblerMap) (h : (if maxEntries ≤ (m.set id { map with status := some .revoked }).size then
        (m.set id { map with status := some .revoked }).erase id
      else m.set id { map with status := some .revoked }).get? id' = some map') :
    ∃ map, m.get? id' = some map ∧ MapEvolves map map' := by
  have hrevoked : (m.set id { map with status := some .revoked }).get? id' = some map' := by
    split at h
    · rw [OrderedMap.get?_erase] at h
      split at h
      · cases h
      · exact h
    · exact h
  rw [OrderedMap.get?_set] at hrevoked
  split at hrevoked
  · next heq =>
    obtain rfl := Option.some.inj hrevoked
    exact ⟨map, heq ▸ hget, .revoke hlive⟩
  · exact ⟨map', hrevoked, .refl map'⟩

/-- Replacing touches the old credential and the new id only. -/
theorem evolves_replaceCredential {replacement : TumblerMap}
    (hissued : ∀ id ∈ s.issued, id ∈ t.issued) (hnew : replacement.clientId ∈ t.issued)
    (hstore : t.store = (s.store.replaceCredential id replacement).2)
    (hfresh : replacement.clientId ∉ s.issued) : Evolves s t := by
  have hsame : t.store = s.store → Evolves s t := fun h =>
    .of_maps hissued (fun _ map hm => ⟨map, h ▸ hm, .refl map⟩)
  simp only [MemoryTumblerStore.replaceCredential] at hstore
  split at hstore
  · exact hsame hstore
  split at hstore
  · exact hsame hstore
  next current hget =>
  split at hstore
  · exact hsame hstore
  next hlive =>
  split at hstore
  · exact hsame hstore
  have hretired := retired_evolves s.store.maxEntries hget (by simpa using hlive)
  generalize (if s.store.maxEntries ≤
      (s.store.maps.set id { current with status := some .revoked }).size then
      (s.store.maps.set id { current with status := some .revoked }).erase id
    else s.store.maps.set id { current with status := some .revoked }) = retired at hstore hretired
  rcases set_eq_ok_or_unchanged { s.store with maps := retired } replacement.clientId replacement
    with ⟨store', hset⟩ | ⟨e, hset⟩
  · have hmaps : t.store.maps = retired.set replacement.clientId replacement := by
      rw [hstore, hset]; exact set_ok_maps hset
    refine ⟨hissued, fun id' hid map' hget' => ?_, fun hs id' map' hget' => ?_⟩
    · rw [hmaps, OrderedMap.get?_set] at hget'
      split at hget'
      · next heq => exact absurd (heq ▸ hid) hfresh
      · exact hretired id' map' hget'
    · rw [hmaps, OrderedMap.get?_set] at hget'
      split at hget'
      · next heq => exact heq ▸ hnew
      · obtain ⟨map, hm, -⟩ := hretired id' map' hget'
        exact hissued id' (hs id' map hm)
  · have hmaps : t.store.maps = retired := by rw [hstore, hset]
    exact .of_maps hissued (fun id' map' hm => hretired id' map' (hmaps ▸ hm))

theorem ReplacementLifecycle.apply_clientId {lifecycle : ReplacementLifecycle}
    {generated replacement : TumblerMap} (h : lifecycle.apply generated = some replacement) :
    replacement.clientId = generated.clientId := by
  simp only [ReplacementLifecycle.apply] at h
  split at h
  · cases h
  split at h
  · cases h
  · obtain rfl := Option.some.inj h; rfl

theorem evolves_replace {old : TumblerMap} {lifecycle : ReplacementLifecycle}
    {generated : Option TumblerMap}
    (hfresh : ∀ g, generated = some g → g.clientId ∉ s.issued) :
    Evolves s (s.resumeReplace id old lifecycle generated) := by
  simp only [ServerState.resumeReplace]
  split
  · exact .refl s
  cases generated with
  | none => exact .refl s
  | some generated =>
    simp only
    split
    · exact .of_maps (fun _ h => List.mem_cons_of_mem _ h) (fun _ map h => ⟨map, h, .refl map⟩)
    · next replacement happly =>
      have hid := ReplacementLifecycle.apply_clientId happly
      refine evolves_replaceCredential (fun _ h => List.mem_cons_of_mem _ h) ?_ rfl ?_
      · rw [hid]; exact List.mem_cons_self
      · rw [hid]; exact hfresh generated rfl

theorem ReadEffect.evolves {call : TumblerMap → PendingCall} (h : ReadEffect s id call t) :
    Evolves s t := by
  cases h with
  | missing => exact .refl s
  | aged => exact .of_erase rfl rfl
  | found => exact .of_eq rfl rfl

theorem evolves_step {l : ServerLabel} (hcurrent : NoStaleWriteBack H config s l)
    (hfresh : DrawsFresh s l) (hstep : (serverMachine H config).step s l = some t) :
    Evolves s t := by
  cases l with
  | verify req readAt =>
    simp only [serverMachine, ServerState.step] at hstep
    split at hstep
    · obtain rfl := Option.some.inj hstep; exact .refl s
    · obtain rfl := Option.some.inj hstep; exact (read_effect ..).evolves
  | update call clientId updates readAt =>
    simp only [serverMachine, ServerState.step] at hstep
    split at hstep
    · obtain rfl := Option.some.inj hstep; exact (read_effect ..).evolves
    · obtain rfl := Option.some.inj hstep; exact .refl s
  | replace call oldClientId lifecycle readAt =>
    simp only [serverMachine, ServerState.step] at hstep
    split at hstep
    · obtain rfl := Option.some.inj hstep; exact (read_effect ..).evolves
    · obtain rfl := Option.some.inj hstep; exact .refl s
  | revoke call clientId readAt =>
    simp only [serverMachine, ServerState.step] at hstep
    split at hstep
    · obtain rfl := Option.some.inj hstep; exact (read_effect ..).evolves
    · obtain rfl := Option.some.inj hstep; exact .refl s
  | resume index clock generated =>
    simp only [serverMachine, ServerState.step] at hstep
    split at hstep
    · cases hstep
    next call hcall =>
    obtain rfl := Option.some.inj hstep
    have hdrop : Evolves s { s with pending := s.pending.eraseIdx index } := .of_eq rfl rfl
    have hcall := hcurrent call hcall
    refine hdrop.trans ?_
    cases call with
    | verify id key snapshot => exact evolves_verify hcall
    | update id existing updates =>
      exact evolves_update hcall
    | replace id old lifecycle =>
      refine evolves_replace (fun g hg => ?_)
      subst hg
      exact hfresh
    | revoke id => exact .of_erase rfl rfl

theorem evolves_runs {ls : List ServerLabel}
    (hrun : (serverMachine H config).Runs
      (fun s l => NoStaleWriteBack H config s l ∧ DrawsFresh s l) s ls t) : Evolves s t :=
  hrun.relates (I := fun _ => True) Evolves.refl (fun _ _ _ => Evolves.trans) (fun _ _ _ _ _ _ => trivial)
    (fun _ _ _ _ hC hstep => evolves_step hC.1 hC.2 hstep) trivial

/-- As long as no call writes back a stale map, counters and usage never decrease, terminal
maps stay terminal, and what was removed stays away. -/
theorem lifecycle_never_regresses {initial : MemoryTumblerStore} {ls ks js : List ServerLabel}
    (hpast : (serverMachine H config).Runs
      (fun s l => NoStaleWriteBack H config s l ∧ DrawsFresh s l) (.start initial) ls s)
    (hmid : (serverMachine H config).Runs
      (fun s l => NoStaleWriteBack H config s l ∧ DrawsFresh s l) s ks t)
    (hend : (serverMachine H config).Runs
      (fun s l => NoStaleWriteBack H config s l ∧ DrawsFresh s l) t js u) :
    (∀ id map map', s.store.maps.get? id = some map → u.store.maps.get? id = some map' →
      MapEvolves map map') ∧
    (∀ id map, s.store.maps.get? id = some map → t.store.maps.get? id = none →
      u.store.maps.get? id = none) := by
  have hcovered : StoredIssued s := (evolves_runs hpast).covered (fun id map hget =>
    OrderedMap.mem_keys.mpr (OrderedMap.has_iff.mpr ⟨map, hget⟩))
  have hst := evolves_runs hmid
  have htu := evolves_runs hend
  refine ⟨fun id map map' hget hget' => ?_, fun id map hget hgone => ?_⟩
  · obtain ⟨m, hm, hevolves⟩ := (hst.trans htu).maps id (hcovered id map hget) map' hget'
    obtain rfl : map = m := Option.some.inj (hget.symm.trans hm)
    exact hevolves
  · cases hu : u.store.maps.get? id with
    | none => rfl
    | some map' =>
      obtain ⟨m, hm, -⟩ := htu.maps id (hst.issued id (hcovered id map hget)) map' hu
      rw [hgone] at hm
      cases hm

section Sample

def sampleCall : LifecycleCall where
  hasAuthorizer := true
  requestorId := JsString.lit "op"
  reason := JsString.lit "r"
  authorized := true

def sampleUpdate : ServerLabel :=
  .update sampleCall (JsString.lit "tsk_a") { label := some (some (JsString.lit "ci")) } 0

end Sample

/-- An update that read the map before a verification committed puts the old counter back,
and the key that was accepted is accepted again. -/
theorem stale_update_reopens_key : ∃ s t u,
    (serverMachine mirrorHmac {}).Runs DrawsFresh (.start sampleStore)
      [sampleUpdate, .verify (sampleRequest 1) 0, .resume 1 ⟨0, 0, 0⟩ none] s ∧
    (serverMachine mirrorHmac {}).Runs DrawsFresh s [.resume 0 ⟨0, 0, 0⟩ none] t ∧
    (serverMachine mirrorHmac {}).Runs DrawsFresh t
      [.verify (sampleRequest 1) 0, .resume 0 ⟨0, 0, 0⟩ none] u ∧
    (∃ map map', s.store.maps.get? (JsString.lit "tsk_a") = some map ∧
      t.store.maps.get? (JsString.lit "tsk_a") = some map' ∧ ¬ MapEvolves map map') ∧
    u.accepted.map Acceptance.key = [sampleKey 1, sampleKey 1] :=
  ⟨_, _, _, .of_exec rfl, .of_exec rfl, .of_exec rfl,
    ⟨_, _, rfl, rfl, fun h => absurd h.count (by decide)⟩, by decide⟩

/-- The same update, continued before anything else commits, does no harm. -/
theorem lifecycle_never_regresses_sample : ∃ s t u,
    (serverMachine mirrorHmac {}).Runs
      (fun s l => NoStaleWriteBack mirrorHmac {} s l ∧ DrawsFresh s l) s
        [.resume 0 ⟨0, 0, 0⟩ none] t ∧
    (serverMachine mirrorHmac {}).Runs
      (fun s l => NoStaleWriteBack mirrorHmac {} s l ∧ DrawsFresh s l) t
        [.verify (sampleRequest 1) 0, .resume 0 ⟨0, 0, 0⟩ none] u ∧
    u.accepted.map Acceptance.key = [sampleKey 1] ∧
    ∀ id map map', s.store.maps.get? id = some map → u.store.maps.get? id = some map' →
      MapEvolves map map' := by
  obtain ⟨s, t, u, hs, ht, hu, hkeys⟩ : ∃ s t u,
      (serverMachine mirrorHmac {}).exec
        (fun s l => NoStaleWriteBack mirrorHmac {} s l ∧ DrawsFresh s l) (.start sampleStore)
        [sampleUpdate] = some s ∧
      (serverMachine mirrorHmac {}).exec
        (fun s l => NoStaleWriteBack mirrorHmac {} s l ∧ DrawsFresh s l) s
        [.resume 0 ⟨0, 0, 0⟩ none] = some t ∧
      (serverMachine mirrorHmac {}).exec
        (fun s l => NoStaleWriteBack mirrorHmac {} s l ∧ DrawsFresh s l) t
        [.verify (sampleRequest 1) 0, .resume 0 ⟨0, 0, 0⟩ none] = some u ∧
      u.accepted.map Acceptance.key = [sampleKey 1] := ⟨_, _, _, rfl, rfl, rfl, by decide⟩
  have hpast := Machine.Runs.of_exec hs
  have hmid := Machine.Runs.of_exec ht
  have hend := Machine.Runs.of_exec hu
  exact ⟨s, t, u, hmid, hend, hkeys, (lifecycle_never_regresses hpast hmid hend).1⟩

end TskProtocol
