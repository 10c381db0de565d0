import TskProtocol.Server.FileStore

namespace TskProtocol

/-- What an operation may do to a segment: write a valid counter to a HOTP one. -/
def CounterWrite (seg seg' : SegmentConfig) : Prop :=
  seg' = seg ∨ seg.type = .hotp ∧
    ∃ c, isValidHOTPStoredCounter c = true ∧ seg' = { seg with counter := some c }

/-- What an operation may do to a map. -/
structure Rewritten (map map' : TumblerMap) : Prop where
  segments : List.Forall₂ CounterWrite map.segments map'.segments
  rest : map' = { map with
    segments := map'.segments
    requestCount := map'.requestCount
    lastUsedAt := map'.lastUsedAt
    status := map'.status }

variable {map map' : TumblerMap} {segments segments' : List SegmentConfig} {seg seg' : SegmentConfig}
  {id : JsString}

theorem natural_of_isValid {c : Int} (h : isValidHOTPStoredCounter c = true) : natural c = true := by
  obtain ⟨h0, hmax⟩ := isValid_iff.mp h
  simp only [TSK_MAX_HOTP_COUNTER] at hmax
  rw [natural, isSafeInteger, MAX_SAFE_INTEGER, Bool.and_eq_true, Bool.and_eq_true]
  exact ⟨⟨decide_eq_true (by omega), decide_eq_true (by omega)⟩, decide_eq_true h0⟩

section Writes

theorem CounterWrite.refl (seg : SegmentConfig) : CounterWrite seg seg := .inl rfl

theorem CounterWrite.type_eq (h : CounterWrite seg seg') : seg'.type = seg.type := by
  rcases h with rfl | ⟨-, c, -, rfl⟩ <;> rfl

theorem forall₂_refl (segments : List SegmentConfig) : List.Forall₂ CounterWrite segments segments := by
  induction segments with
  | nil => exact .nil
  | cons seg rest ih => exact .cons (.refl seg) ih

theorem forall₂_map {f : SegmentConfig → SegmentConfig} (h : ∀ seg ∈ segments, CounterWrite seg (f seg)) :
    List.Forall₂ CounterWrite segments (segments.map f) := by
  induction segments with
  | nil => exact .nil
  | cons seg rest ih =>
    exact .cons (h seg List.mem_cons_self) (ih fun s hs => h s (List.mem_cons_of_mem _ hs))

theorem countersValid_write (h : List.Forall₂ CounterWrite segments segments')
    (hv : CountersValid segments) : CountersValid segments' := by
  induction h with
  | nil => exact hv
  | @cons seg seg' rest rest' hwrite _ ih =>
    have hrest := ih fun s hs => hv s (List.mem_cons_of_mem _ hs)
    intro s hs ht
    rcases List.mem_cons.mp hs with rfl | hs
    · rcases hwrite with rfl | ⟨-, c, hc, rfl⟩
      · exact hv s List.mem_cons_self ht
      · exact hc
    · exact hrest s hs ht

theorem some_hotp_write (h : List.Forall₂ CounterWrite segments segments')
    (hsome : ∃ seg ∈ segments, seg.type = .hotp) : ∃ seg ∈ segments', seg.type = .hotp := by
  induction h with
  | nil => exact hsome
  | @cons seg seg' rest rest' hwrite _ ih =>
    obtain ⟨s, hs, ht⟩ := hsome
    rcases List.mem_cons.mp hs with rfl | hs
    · exact ⟨seg', List.mem_cons_self, hwrite.type_eq.trans ht⟩
    · obtain ⟨s', hs', ht'⟩ := ih ⟨s, hs, ht⟩
      exact ⟨s', List.mem_cons_of_mem _ hs', ht'⟩

/-- The layout stays valid, since only counters are written. -/
theorem validateSegments_write {keyLength cursor n : Nat} {ids : List JsString}
    (h : List.Forall₂ CounterWrite segments segments')
    (hv : validateSegments keyLength cursor ids segments = .ok n) :
    validateSegments keyLength cursor ids segments' = .ok n := by
  induction h generalizing cursor ids with
  | nil => exact hv
  | @cons seg seg' rest rest' hwrite _ ih =>
    simp only [validateSegments, bind_eq_ok, require_eq_ok] at hv ⊢
    obtain ⟨_, hlayout, _, hcounter, _, hwindow, hrest⟩ := hv
    rcases hwrite with rfl | ⟨ht, c, hc, rfl⟩
    · exact ⟨(), hlayout, (), hcounter, (), hwindow, ih hrest⟩
    · exact ⟨(), hlayout, (), fun _ => natural_of_isValid hc, (), hwindow, ih hrest⟩

end Writes

/-- A rewritten map stays valid in the file while its counts and times are natural. -/
theorem validateStoredMap_rewritten (hrw : Rewritten map map') (hstate : CounterState map')
    (hcount : map'.requestCount.all (fun n => natural n) = true)
    (hlast : map'.lastUsedAt.all (fun t => t.all natural) = true)
    (h : validateStoredMap id map = .ok ()) : validateStoredMap id map' = .ok () := by
  simp only [validateStoredMap, validateLifecycle, bind_eq_ok, require_eq_ok] at h ⊢
  obtain ⟨_, hmap, _, -, cursor, hsegments, _, hchecksum, _, hlifecycle, -⟩ := h
  obtain ⟨hid, hclient, hversion, hsecret, hhex, hcreated, hkey, hmin, hmax, hne⟩ := hmap
  obtain ⟨hexpires, -, hrequests, hrotation⟩ := hlifecycle
  have hassert := assertTumblerMapCounterState_ok_iff.mpr hstate
  have hne' : map'.segments ≠ [] := by
    intro hnil
    have hlen := hrw.segments.length_eq
    rw [hnil] at hlen
    exact hne (List.length_eq_zero_iff.mp hlen)
  rw [hrw.rest] at hassert hcount hlast ⊢
  refine ⟨(), ⟨hid, hclient, hversion, hsecret, hhex, hcreated, hkey, hmin, hmax, hne'⟩, (), ?_, cursor,
    validateSegments_write hrw.segments hsegments, (), hchecksum, (), ⟨hexpires, hcount, hrequests, hrotation⟩,
    hlast⟩
  rw [hassert]
  rfl

theorem counterWrite_advance {counterMatches : List (JsString × Int)}
    (h : ∀ u ∈ counterMatches, isUsableHOTPDerivationCounter u.2 = true) (seg : SegmentConfig) :
    CounterWrite seg (advanceSegment counterMatches seg) := by
  simp only [advanceSegment]
  split
  · next matched hmatched =>
    split
    · next ht =>
      obtain ⟨h0, hlt⟩ := isUsable_iff.mp (h _ (OrderedMap.mem_of_lookupIn hmatched))
      exact .inr ⟨ht, matched + 1, isValid_iff.mpr ⟨by omega, by omega⟩, rfl⟩
    · exact .refl seg
  · exact .refl seg

open MemoryTumblerStore in
theorem checkUpdates_ok {updates : List (JsString × Int)} (h : checkUpdates segments updates = .ok ()) :
    ∀ u ∈ updates, isValidHOTPStoredCounter u.2 = true := by
  induction updates with
  | nil => simp
  | cons u rest ih =>
    obtain ⟨segmentId, newCounter⟩ := u
    simp only [checkUpdates] at h
    split at h
    · cases h
    split at h
    · cases h
    split at h
    · cases h
    next hvalid =>
    split at h
    · cases h
    · simp only [List.forall_mem_cons]
      exact ⟨by simpa using hvalid, ih h⟩

theorem counterWrite_updateSegment {updates : OrderedMap JsString Int}
    (h : ∀ u ∈ updates.entries, isValidHOTPStoredCounter u.2 = true) (seg : SegmentConfig) :
    CounterWrite seg (MemoryTumblerStore.updateSegment updates seg) := by
  simp only [MemoryTumblerStore.updateSegment]
  split
  · next newCounter hnew =>
    split
    · next ht => exact .inr ⟨ht, newCounter, h _ (OrderedMap.get?_eq_some.mp hnew), rfl⟩
    · exact .refl seg
  · exact .refl seg

theorem forall₂_setFirstCounter {c : Int} (hc : isValidHOTPStoredCounter c = true)
    (hfind : segments.find? (fun s => s.segmentId = id) = some seg) (ht : seg.type = .hotp) :
    List.Forall₂ CounterWrite segments (MemoryTumblerStore.setFirstCounter id c segments) := by
  induction segments with
  | nil => exact .nil
  | cons s rest ih =>
    by_cases hid : s.segmentId = id
    · obtain rfl : s = seg := by simpa [hid] using hfind
      rw [MemoryTumblerStore.setFirstCounter, if_pos hid]
      exact .cons (.inr ⟨ht, c, hc, rfl⟩) (forall₂_refl rest)
    · rw [MemoryTumblerStore.setFirstCounter, if_neg hid]
      exact .cons (.refl s) (ih (by simpa [hid] using hfind))

/-- A status that goes with the uses that remain. -/
theorem counterState_of_remaining {remaining : Int} {status : Option KeyStatus}
    (hv : CountersValid map.segments) (hsome : ∃ seg ∈ map.segments, seg.type = .hotp)
    (hwarning : ∀ w, map.hotpRotationWarningCounters = some w → validWarning w = true)
    (hleast : LeastUses none map.segments (some remaining))
    (hstatus : isTerminal status = false → remaining ≠ 0) :
    CounterState { map with status := status } := by
  refine ⟨hv, hsome, hwarning, fun hlive seg hmem ht => ?_⟩
  have hmax := (isValid_iff.mp (hv seg hmem ht)).2
  have hne : seg.storedCounter ≠ TSK_MAX_HOTP_COUNTER := by
    intro hexhausted
    have hzero := (remaining_eq_zero_iff hv hleast).mpr ⟨seg, hmem, ht, hexhausted⟩
    exact hstatus hlive (Option.some.inj hzero)
  omega

theorem exists_remaining (hv : CountersValid segments) (hsome : ∃ seg ∈ segments, seg.type = .hotp) :
    ∃ remaining, minimumHOTPUsesRemaining segments = .ok (some remaining) ∧
      LeastUses none segments (some remaining) := by
  obtain ⟨r, hr, hleast⟩ := minimumHOTPUsesRemaining_ok hv
  cases r with
  | some remaining => exact ⟨remaining, hr, hleast⟩
  | none =>
    obtain ⟨seg, hmem, ht⟩ := hsome
    exact absurd ht ((hleast.none_iff.mp rfl).2 seg hmem)

theorem reconcile_status (map : TumblerMap) (remaining : Int) :
    ∃ status, (reconcileTumblerMapCounterStatus map remaining).2 = { map with status := status } ∧
      (isTerminal status = false → remaining ≠ 0) := by
  simp only [reconcileTumblerMapCounterStatus]
  split
  · next hterminal => exact ⟨map.status, rfl, fun hlive => by rw [hterminal] at hlive; cases hlive⟩
  split
  · exact ⟨some .expired, rfl, fun hlive => by cases hlive⟩
  next hne =>
  split
  · exact ⟨some .expiring, rfl, fun _ => hne⟩
  · exact ⟨map.status, rfl, fun _ => hne⟩

/-- Behind a counter write the reconciled map is in order again. -/
theorem reconcileMap_state (map : TumblerMap) (hv : CountersValid map.segments)
    (hsome : ∃ seg ∈ map.segments, seg.type = .hotp)
    (hwarning : ∀ w, map.hotpRotationWarningCounters = some w → validWarning w = true) :
    ∃ status, MemoryTumblerStore.reconcileMap map = (.ok (), { map with status := status }) ∧
      CounterState { map with status := status } := by
  obtain ⟨remaining, hr, hleast⟩ := exists_remaining hv hsome
  obtain ⟨status, hrec, hstatus⟩ := reconcile_status map remaining
  refine ⟨status, ?_, counterState_of_remaining hv hsome hwarning hleast hstatus⟩
  simp only [MemoryTumblerStore.reconcileMap, hr, hrec]

/-- The same for a map whose segments have been written. -/
theorem reconcileMap_rewritten (hstate : CounterState map)
    (h : List.Forall₂ CounterWrite map.segments segments') :
    ∃ map', MemoryTumblerStore.reconcileMap { map with segments := segments' } = (.ok (), map') ∧
      Rewritten map map' ∧ CounterState map' ∧ map'.requestCount = map.requestCount ∧
      map'.lastUsedAt = map.lastUsedAt := by
  obtain ⟨status, hrec, hstate'⟩ := reconcileMap_state { map with segments := segments' }
    (countersValid_write h hstate.valid) (some_hotp_write h hstate.some_hotp) hstate.warning
  exact ⟨_, hrec, ⟨h, rfl⟩, hstate', rfl, rfl⟩

theorem CounterState.terminal (h : CounterState map) {status : Option KeyStatus}
    (hterminal : isTerminal status = true) : CounterState { map with status := status } :=
  ⟨h.valid, h.some_hotp, h.warning, fun hlive => by rw [hterminal] at hlive; cases hlive⟩

theorem CounterState.revoked (h : CounterState map) :
    CounterState { map with status := some .revoked } := h.terminal rfl

theorem Rewritten.ofStatus (map : TumblerMap) (status : Option KeyStatus) :
    Rewritten map { map with status := status } := ⟨forall₂_refl _, rfl⟩

/-- What a commit makes of a map. -/
theorem commitValidationToMap_rewritten (input : ValidationCommitInput) (hstate : CounterState map) :
    ∃ map', (commitValidationToMap map input).2 = map' ∧ Rewritten map map' ∧ CounterState map' ∧
      (map'.requestCount = map.requestCount ∨ map'.requestCount = some (map.currentCount + 1)) ∧
      (map'.lastUsedAt = map.lastUsedAt ∨ map'.lastUsedAt = some (some input.usedAt)) := by
  have hkept : Rewritten map map := .ofStatus map map.status
  have hexpired : Rewritten map map.expire := .ofStatus map _
  simp only [commitValidationToMap, assertTumblerMapCounterState_ok_iff.mpr hstate]
  split
  · exact ⟨map, rfl, hkept, hstate, .inl rfl, .inl rfl⟩
  split
  · exact ⟨map, rfl, hkept, hstate, .inl rfl, .inl rfl⟩
  split
  · exact ⟨map.expire, rfl, hexpired, hstate.terminal rfl, .inl rfl, .inl rfl⟩
  split
  · exact ⟨map.expire, rfl, hexpired, hstate.terminal rfl, .inl rfl, .inl rfl⟩
  split
  · exact ⟨map, rfl, hkept, hstate, .inl rfl, .inl rfl⟩
  next hlen =>
  cases hmatches : checkMatches map.segments [] input.counterMatches with
  | some e =>
    cases e with
    | hotpCounterExhausted => exact ⟨map.expire, rfl, hexpired, hstate.terminal rfl, .inl rfl, .inl rfl⟩
    | _ => exact ⟨map, rfl, hkept, hstate, .inl rfl, .inl rfl⟩
  | none =>
    obtain ⟨hnodup, -, hchecked⟩ := checkMatches_eq_none hmatches
    have hlast : ∀ u ∈ input.counterMatches, LastIsHotp map.segments u.1 :=
      fun u hu => (hchecked u hu).last
    have hids := (perm_of_checked hnodup hlast (by simpa using hlen)).nodup_iff.mp hnodup
    have hadv := advanceCounters_eq_map hids hnodup (by
      intro id hid
      obtain ⟨u, hu, rfl⟩ := List.mem_map.mp hid
      exact hlast u hu)
    have hwrite : List.Forall₂ CounterWrite map.segments
        (map.segments.map (advanceSegment input.counterMatches)) :=
      forall₂_map fun seg _ => counterWrite_advance (fun u hu => (hchecked u hu).usable) seg
    have hv := countersValid_write hwrite hstate.valid
    have hsome := some_hotp_write hwrite hstate.some_hotp
    obtain ⟨remaining, hr, hleast⟩ := exists_remaining hv hsome
    set advanced : TumblerMap := { map with
      segments := map.segments.map (advanceSegment input.counterMatches)
      requestCount := some (map.currentCount + 1)
      lastUsedAt := some (some input.usedAt) } with hadvanced
    have hstateOf {status : Option KeyStatus} (hstatus : isTerminal status = false → remaining ≠ 0) :
        CounterState { advanced with status := status } :=
      counterState_of_remaining hv hsome hstate.warning hleast hstatus
    obtain ⟨status, hrec, hstatus⟩ := reconcile_status advanced remaining
    simp only [applyCommit, hadv, hr, ← hadvanced, hrec]
    split
    · exact ⟨_, rfl, ⟨hwrite, rfl⟩, hstateOf hstatus, .inr rfl, .inr rfl⟩
    · split
      · next hpositive =>
        refine ⟨_, rfl, ⟨hwrite, rfl⟩, hstateOf (fun _ => ?_), .inr rfl, .inr rfl⟩
        omega
      · exact ⟨_, rfl, ⟨hwrite, rfl⟩, hstateOf hstatus, .inr rfl, .inr rfl⟩

/-- What the file holds while nothing but the store has written to it. -/
structure ValidData (data : FileTumblerData) : Prop where
  maps : ∀ id map, data.maps.get? id = some map → validateStoredMap id map = .ok () ∧
    (data.lastAccess.get? id).any natural = true
  access : ∀ id t, data.lastAccess.get? id = some t → data.maps.has id = true ∧ natural t = true

theorem validateEntries_eq_ok {lastAccess : OrderedMap JsString Int}
    {entries : List (JsString × TumblerMap)} {u : Unit} :
    validateEntries lastAccess entries = .ok u ↔
      ∀ e ∈ entries, validateStoredMap e.1 e.2 = .ok () ∧ (lastAccess.get? e.1).any natural = true := by
  induction entries with
  | nil => simp [validateEntries]
  | cons e rest ih =>
    simp only [validateEntries, bind_eq_ok, require_eq_ok, List.forall_mem_cons, ih]
    constructor
    · rintro ⟨_, hmap, _, haccess, hrest⟩
      exact ⟨⟨hmap, haccess⟩, hrest⟩
    · rintro ⟨⟨hmap, haccess⟩, hrest⟩
      exact ⟨(), hmap, (), haccess, hrest⟩

theorem validateFileData_eq_ok {data : FileTumblerData} {u : Unit} :
    validateFileData data = .ok u ↔ ValidData data := by
  simp only [validateFileData, bind_eq_ok, require_eq_ok, validateEntries_eq_ok]
  constructor
  · rintro ⟨_, hmaps, haccess⟩
    exact ⟨fun id map hget => hmaps (id, map) (OrderedMap.get?_eq_some.mp hget),
      fun id t hget => haccess (id, t) (OrderedMap.get?_eq_some.mp hget)⟩
  · intro h
    exact ⟨(), fun e he => h.maps e.1 e.2 (OrderedMap.get?_eq_some.mpr he),
      fun e he => h.access e.1 e.2 (OrderedMap.get?_eq_some.mpr he)⟩

theorem flush_eq_ok {candidate data : FileTumblerData} :
    flush candidate = .ok data ↔ ValidData candidate ∧ candidate = data := by
  simp only [flush, bind_eq_ok, validateFileData_eq_ok, pure_eq_ok, Except.ok.injEq]
  exact ⟨fun ⟨_, hvalid, heq⟩ => ⟨hvalid, heq⟩, fun ⟨hvalid, heq⟩ => ⟨(), hvalid, heq⟩⟩

theorem flush_ok {candidate : FileTumblerData} (h : ValidData candidate) :
    flush candidate = .ok candidate := flush_eq_ok.mpr ⟨h, rfl⟩

namespace ValidData

variable {data : FileTumblerData} {now : Int}

theorem empty : ValidData {} := ⟨fun _ _ h => (by cases h), fun _ _ h => (by cases h)⟩

theorem state (h : ValidData data) (hget : data.maps.get? id = some map) : CounterState map := by
  have hmap := (h.maps id map hget).1
  simp only [validateStoredMap, bind_eq_ok] at hmap
  obtain ⟨_, -, _, hstate, -⟩ := hmap
  cases hassert : assertTumblerMapCounterState map with
  | error e =>
    rw [hassert] at hstate
    cases hstate
  | ok => exact assertTumblerMapCounterState_ok_iff.mp hassert

/-- A new map over an old one. -/
theorem put (h : ValidData data) (hhas : data.maps.has id = true)
    (hmap : validateStoredMap id map = .ok ()) : ValidData (data.put id map) := by
  obtain ⟨old, hold⟩ := OrderedMap.has_iff.mp hhas
  refine ⟨fun k m hk => ?_, fun k t hk => ?_⟩
  · simp only [FileTumblerData.put, OrderedMap.get?_set] at hk ⊢
    split at hk
    · next hid =>
      obtain rfl := Option.some.inj hk
      exact ⟨hid ▸ hmap, hid ▸ (h.maps id old hold).2⟩
    · exact h.maps k m hk
  · obtain ⟨hk', ht⟩ := h.access k t hk
    refine ⟨?_, ht⟩
    rw [FileTumblerData.put, OrderedMap.has, OrderedMap.get?_set]
    split
    · rfl
    · exact hk'

/-- A map with its access time. -/
theorem insert (h : ValidData data) (hmap : validateStoredMap id map = .ok ()) (hnow : natural now = true) :
    ValidData ((data.put id map).touch id now) := by
  refine ⟨fun k m hk => ?_, fun k t hk => ?_⟩
  · simp only [FileTumblerData.put, FileTumblerData.touch, OrderedMap.get?_set] at hk ⊢
    split at hk
    · next hid =>
      obtain rfl := Option.some.inj hk
      exact ⟨hid ▸ hmap, by simpa [hid] using hnow⟩
    · next hne =>
      rw [if_neg hne]
      exact h.maps k m hk
  · simp only [FileTumblerData.put, FileTumblerData.touch, OrderedMap.has, OrderedMap.get?_set] at hk ⊢
    split at hk
    · next hid =>
      rw [if_pos hid]
      exact ⟨rfl, Option.some.inj hk ▸ hnow⟩
    · next hne =>
      rw [if_neg hne]
      exact h.access k t hk

theorem touch (h : ValidData data) (hhas : data.maps.has id = true) (hnow : natural now = true) :
    ValidData (data.touch id now) := by
  obtain ⟨map, hmap⟩ := OrderedMap.has_iff.mp hhas
  have hput : data.put id map = data := by rw [FileTumblerData.put, OrderedMap.set_of_get? hmap]
  rw [← hput]
  exact h.insert (h.maps id map hmap).1 hnow

theorem drop (h : ValidData data) (id : JsString) : ValidData (data.drop id) := by
  refine ⟨fun k m hk => ?_, fun k t hk => ?_⟩
  · simp only [FileTumblerData.drop, OrderedMap.get?_erase] at hk ⊢
    split at hk
    · cases hk
    · next hne =>
      rw [if_neg hne]
      exact h.maps k m hk
  · simp only [FileTumblerData.drop, OrderedMap.has, OrderedMap.get?_erase] at hk ⊢
    split at hk
    · cases hk
    · next hne =>
      rw [if_neg hne]
      exact h.access k t hk

end ValidData

end TskProtocol
