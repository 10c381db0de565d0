import TskProtocol.Server.Store

namespace TskProtocol

/-- What `assertTumblerMapCounterState` checks. -/
structure CounterState (map : TumblerMap) : Prop where
  valid : CountersValid map.segments
  some_hotp : ∃ seg ∈ map.segments, seg.type = .hotp
  warning : ∀ w, map.hotpRotationWarningCounters = some w → validWarning w = true
  usable : isTerminal map.status = false →
    ∀ seg ∈ map.segments, seg.type = .hotp → seg.storedCounter < TSK_MAX_HOTP_COUNTER

theorem assertCounters_ok_iff {segments : List SegmentConfig} :
    assertCounters segments = .ok () ↔ CountersValid segments := by
  induction segments with
  | nil => simp [assertCounters, CountersValid]
  | cons seg rest ih =>
    simp only [assertCounters, CountersValid, List.forall_mem_cons]
    by_cases ht : seg.type = .hotp
    · by_cases hv : isValidHOTPStoredCounter seg.storedCounter = true
      · simpa [ht, hv, assertValidHOTPStoredCounter, CountersValid] using ih
      · simp [ht, hv, assertValidHOTPStoredCounter, throw, throwThe, MonadExceptOf.throw]
    · simpa [ht, CountersValid] using ih

theorem remaining_eq_zero_iff {segments : List SegmentConfig} {r : Option Int}
    (hv : CountersValid segments) (h : LeastUses none segments r) :
    r = some 0 ↔ ∃ seg ∈ segments, seg.type = .hotp ∧ seg.storedCounter = TSK_MAX_HOTP_COUNTER := by
  constructor
  · intro hr
    rcases h.attained 0 hr with hn | ⟨seg, hmem, ht, hz⟩
    · cases hn
    · exact ⟨seg, hmem, ht, by simp only [SegmentConfig.usesRemaining] at hz; omega⟩
  · rintro ⟨seg, hmem, ht, hmax⟩
    cases r with
    | none => exact absurd ht ((h.none_iff.mp rfl).2 seg hmem)
    | some n =>
      have hle := h.le_uses n rfl seg hmem ht
      rcases h.attained n rfl with hn | ⟨s, hs, hst, hsn⟩
      · cases hn
      · have := (isValid_iff.mp (hv s hs hst)).2
        simp only [SegmentConfig.usesRemaining] at hle hsn
        exact congrArg some (by omega)

theorem assertTumblerMapCounterState_ok_iff {map : TumblerMap} :
    assertTumblerMapCounterState map = .ok () ↔ CounterState map := by
  by_cases hv : CountersValid map.segments
  · obtain ⟨r, hr, hleast⟩ := minimumHOTPUsesRemaining_ok hv
    have hzero := remaining_eq_zero_iff hv hleast
    simp only [assertTumblerMapCounterState, assertCounters_ok_iff.mpr hv, hr, Except.mapError,
      bind_ok, throw, throwThe, MonadExceptOf.throw]
    constructor
    · intro h
      split at h
      · cases h
      next hhotp =>
      split at h
      · cases h
      next hwarn =>
      split at h
      · cases h
      next hrem =>
      refine ⟨hv, by simpa using hhotp, fun w hw => by simpa [hw] using hwarn, ?_⟩
      intro hterm seg hmem ht
      have hle := (isValid_iff.mp (hv seg hmem ht)).2
      have hne : seg.storedCounter ≠ TSK_MAX_HOTP_COUNTER := fun hmax =>
        hrem ⟨hzero.mpr ⟨seg, hmem, ht, hmax⟩, hterm⟩
      omega
    · intro h
      obtain ⟨seg, hmem, ht⟩ := h.some_hotp
      rw [if_neg (by simpa using ⟨seg, hmem, ht⟩), if_neg, if_neg]
      · rfl
      · rintro ⟨hz, hterm⟩
        obtain ⟨s, hs, hst, hmax⟩ := hzero.mp hz
        have := h.usable hterm s hs hst
        omega
      · cases hw : map.hotpRotationWarningCounters with
        | none => simp
        | some w => simp [h.warning w hw]
  · refine ⟨fun h => absurd ?_ hv, fun h => absurd h.valid hv⟩
    cases ha : assertCounters map.segments with
    | ok => exact assertCounters_ok_iff.mp ha
    | error e => simp [assertTumblerMapCounterState, ha, Except.mapError] at h

theorem frame_reconcile (map : TumblerMap) (remaining : Int) :
    (reconcileTumblerMapCounterStatus map remaining).2.frame = map.frame := by
  simp only [reconcileTumblerMapCounterStatus]
  split
  · rfl
  split
  · rfl
  split <;> rfl

/-- Reconciling rewrites the status only. -/
theorem reconcile_eq (map : TumblerMap) (remaining : Int) :
    ∃ status, (reconcileTumblerMapCounterStatus map remaining).2 = { map with status := status } := by
  simp only [reconcileTumblerMapCounterStatus]
  split
  · exact ⟨map.status, rfl⟩
  split
  · exact ⟨some .expired, rfl⟩
  split
  · exact ⟨some .expiring, rfl⟩
  · exact ⟨map.status, rfl⟩

section Advance

variable {segments : List SegmentConfig} {id : JsString} {c : Int}

/-- The last segment with the id is a HOTP segment. -/
def LastIsHotp (segments : List SegmentConfig) (id : JsString) : Prop :=
  ∃ seg, lastSegment segments id = some seg ∧ seg.type = .hotp

theorem lastSegment_cons (seg : SegmentConfig) (rest : List SegmentConfig) (id : JsString) :
    lastSegment (seg :: rest) id =
      (lastSegment rest id).or (if seg.segmentId = id then some seg else none) := by
  simp only [lastSegment, List.reverse_cons, List.find?_append, List.find?_cons, List.find?_nil]
  by_cases h : seg.segmentId = id <;> simp [h]

theorem lastSegment_eq_none_iff :
    lastSegment segments id = none ↔ ∀ seg ∈ segments, seg.segmentId ≠ id := by
  simp [lastSegment]

theorem lastSegment_mem {seg : SegmentConfig} (h : lastSegment segments id = some seg) :
    seg ∈ segments ∧ seg.segmentId = id := by
  simp only [lastSegment] at h
  exact ⟨List.mem_reverse.mp (List.mem_of_find?_eq_some h), by simpa using List.find?_some h⟩

theorem LastIsHotp.mem (h : LastIsHotp segments id) :
    id ∈ (hotpSegments segments).map (·.segmentId) := by
  obtain ⟨seg, hlast, ht⟩ := h
  obtain ⟨hmem, hid⟩ := lastSegment_mem hlast
  exact List.mem_map.mpr ⟨seg, List.mem_filter.mpr ⟨hmem, by simpa using ht⟩, hid⟩

def writeHotp (id : JsString) (c : Int) (seg : SegmentConfig) : SegmentConfig :=
  if seg.type = .hotp ∧ seg.segmentId = id then { seg with counter := some c } else seg

@[simp] theorem writeHotp_type (seg : SegmentConfig) : (writeHotp id c seg).type = seg.type := by
  simp only [writeHotp]; split <;> rfl

@[simp] theorem writeHotp_segmentId (seg : SegmentConfig) :
    (writeHotp id c seg).segmentId = seg.segmentId := by
  simp only [writeHotp]; split <;> rfl

theorem map_writeHotp_of_forall_ne
    (h : ∀ seg ∈ hotpSegments segments, seg.segmentId ≠ id) :
    segments.map (writeHotp id c) = segments := by
  conv_rhs => rw [← List.map_id segments]
  apply List.map_congr_left
  intro seg hmem
  have hne : ¬ (seg.type = .hotp ∧ seg.segmentId = id) := fun ⟨ht, hid⟩ =>
    h seg (List.mem_filter.mpr ⟨hmem, by simpa using ht⟩) hid
  simp [writeHotp, hne]

/-- With distinct HOTP ids, the write through the id finds the one HOTP segment. -/
theorem setLastCounter_eq_map
    (hn : ((hotpSegments segments).map (·.segmentId)).Nodup) (h : LastIsHotp segments id) :
    setLastCounter id c segments = segments.map (writeHotp id c) := by
  induction segments with
  | nil => rfl
  | cons seg rest ih =>
    obtain ⟨s, hlast, hst⟩ := h
    rw [lastSegment_cons] at hlast
    cases hr : lastSegment rest id with
    | some s' =>
      obtain rfl : s' = s := by simpa [hr] using hlast
      obtain ⟨hmem, hid⟩ := lastSegment_mem hr
      have hany : rest.any (fun s => s.segmentId = id) = true := by simpa using ⟨s', hmem, hid⟩
      have hrest : ((hotpSegments rest).map (·.segmentId)).Nodup :=
        hn.sublist (((List.sublist_cons_self seg rest).filter _).map _)
      have hkeep : writeHotp id c seg = seg := by
        simp only [writeHotp]
        rw [if_neg]
        rintro ⟨ht, hseg⟩
        simp only [hotpSegments, List.filter_cons, ht, decide_true, if_true, List.map_cons,
          List.nodup_cons] at hn
        exact hn.1 (hseg ▸ LastIsHotp.mem ⟨s', hr, hst⟩)
      simp [setLastCounter, hany, hkeep, ih hrest ⟨s', hr, hst⟩]
    | none =>
      have hnone := lastSegment_eq_none_iff.mp hr
      have hany : rest.any (fun s => s.segmentId = id) = false := by simpa using hnone
      have hseg : seg.segmentId = id ∧ seg = s := by simpa [hr] using hlast
      obtain ⟨hid, rfl⟩ := hseg
      have htail : rest.map (writeHotp id c) = rest :=
        map_writeHotp_of_forall_ne (fun x hx => hnone x (List.mem_of_mem_filter hx))
      simp [setLastCounter, hany, hid, htail, writeHotp, hst]

theorem hotpSegments_map {f : SegmentConfig → SegmentConfig} (h : ∀ seg, (f seg).type = seg.type) :
    hotpSegments (segments.map f) = (hotpSegments segments).map f := by
  simp only [hotpSegments, List.filter_map]
  congr 1
  exact List.filter_congr (fun seg _ => by simp [h])

theorem LastIsHotp.map {f : SegmentConfig → SegmentConfig} (ht : ∀ seg, (f seg).type = seg.type)
    (hid : ∀ seg, (f seg).segmentId = seg.segmentId) (h : LastIsHotp segments id) :
    LastIsHotp (segments.map f) id := by
  obtain ⟨s, hlast, hst⟩ := h
  refine ⟨f s, ?_, (ht s).trans hst⟩
  simp only [lastSegment, ← List.map_reverse, List.find?_map] at hlast ⊢
  rw [show ((fun seg : SegmentConfig => decide (seg.segmentId = id)) ∘ f) =
    (fun seg => decide (seg.segmentId = id)) from funext (fun seg => by simp [hid])]
  simp [hlast]

/-- The effect of a whole commit on one segment. -/
def advanceSegment (counterMatches : List (JsString × Int)) (seg : SegmentConfig) : SegmentConfig :=
  match OrderedMap.lookupIn seg.segmentId counterMatches with
  | some matched => if seg.type = .hotp then { seg with counter := some (matched + 1) } else seg
  | none => seg

@[simp] theorem advanceSegment_frame (counterMatches : List (JsString × Int))
    (seg : SegmentConfig) : (advanceSegment counterMatches seg).frame = seg.frame := by
  simp only [advanceSegment]
  split
  · split <;> rfl
  · rfl

theorem advanceCounters_eq_map {counterMatches : List (JsString × Int)}
    (hn : ((hotpSegments segments).map (·.segmentId)).Nodup)
    (hids : (counterMatches.map Prod.fst).Nodup)
    (hlast : ∀ id ∈ counterMatches.map Prod.fst, LastIsHotp segments id) :
    advanceCounters segments counterMatches = segments.map (advanceSegment counterMatches) := by
  induction counterMatches generalizing segments with
  | nil =>
    have hid : advanceSegment [] = id := rfl
    simp [advanceCounters, hid]
  | cons update rest ih =>
    obtain ⟨id, matched⟩ := update
    simp only [List.map_cons, List.nodup_cons] at hids
    have hhead := hlast id (by simp)
    have hn' : ((hotpSegments (segments.map (writeHotp id (matched + 1)))).map
        (·.segmentId)).Nodup := by
      rw [hotpSegments_map writeHotp_type, List.map_map]
      simpa [Function.comp_def] using hn
    have hlast' : ∀ id' ∈ rest.map Prod.fst,
        LastIsHotp (segments.map (writeHotp id (matched + 1))) id' := fun id' hid' =>
      (hlast id' (by simp [List.mem_map.mp hid'])).map writeHotp_type writeHotp_segmentId
    rw [advanceCounters, setLastCounter_eq_map hn hhead, ih hn' hids.2 hlast', List.map_map]
    apply List.map_congr_left
    intro seg _
    have hnone : OrderedMap.lookupIn id rest = none := OrderedMap.lookupIn_eq_none.mpr hids.1
    by_cases hseg : id = seg.segmentId
    · subst hseg
      by_cases ht : seg.type = .hotp <;>
        simp [advanceSegment, writeHotp, OrderedMap.lookupIn, hnone, ht]
    · by_cases ht : seg.type = .hotp <;>
        simp [advanceSegment, writeHotp, OrderedMap.lookupIn, ht, hseg, Ne.symm hseg]

end Advance

section Commit

variable {map map' : TumblerMap} {input : ValidationCommitInput}

/-- One update of a commit passed its checks. -/
structure MatchChecked (segments : List SegmentConfig) (id : JsString) (matched : Int) : Prop where
  last : LastIsHotp segments id
  fresh : ∀ seg, lastSegment segments id = some seg → seg.storedCounter ≤ matched
  usable : isUsableHOTPDerivationCounter matched = true

theorem checkMatches_eq_none {segments : List SegmentConfig} {seen : List JsString}
    {counterMatches : List (JsString × Int)} (h : checkMatches segments seen counterMatches = none) :
    (counterMatches.map Prod.fst).Nodup ∧ (∀ id ∈ seen, id ∉ counterMatches.map Prod.fst) ∧
      ∀ u ∈ counterMatches, MatchChecked segments u.1 u.2 := by
  induction counterMatches generalizing seen with
  | nil => simp
  | cons u rest ih =>
    obtain ⟨id, matched⟩ := u
    simp only [checkMatches] at h
    split at h
    · cases h
    next seg hlast =>
    split at h
    · cases h
    next htype =>
    split at h
    · cases h
    split at h
    · cases h
    next husable =>
    split at h
    · cases h
    next hfresh =>
    obtain ⟨hn, hseen, hrest⟩ := ih h
    obtain ⟨ht, hid⟩ : seg.type = .hotp ∧ id ∉ seen := by simpa [not_or] using htype
    refine ⟨?_, ?_, ?_⟩
    · simpa using ⟨by simpa using hseen id List.mem_cons_self, hn⟩
    · intro id' hid' hmem
      rcases List.mem_cons.mp hmem with rfl | hmem
      · exact hid hid'
      · exact hseen id' (List.mem_cons_of_mem _ hid') hmem
    · intro v hv
      rcases List.mem_cons.mp hv with rfl | hv
      · refine ⟨⟨seg, hlast, ht⟩, fun s hs => ?_, by simpa using husable⟩
        obtain rfl : seg = s := Option.some.inj (hlast.symm.trans hs)
        exact Int.not_lt.mp hfresh
      · exact hrest v hv

/-- Distinct updates that each find a HOTP segment, as many as there are HOTP segments,
name every HOTP segment exactly once. -/
theorem perm_of_checked {segments : List SegmentConfig} {counterMatches : List (JsString × Int)}
    (hn : (counterMatches.map Prod.fst).Nodup)
    (hlast : ∀ u ∈ counterMatches, LastIsHotp segments u.1)
    (hlen : counterMatches.length = (hotpSegments segments).length) :
    (counterMatches.map Prod.fst).Perm ((hotpSegments segments).map (·.segmentId)) := by
  have hsub : (counterMatches.map Prod.fst).Subperm ((hotpSegments segments).map (·.segmentId)) := by
    apply List.subperm_of_subset hn
    intro id hid
    obtain ⟨u, hu, rfl⟩ := List.mem_map.mp hid
    exact (hlast u hu).mem
  exact hsub.perm_of_length_le (by simp [hlen])

theorem lastSegment_of_nodup {segments : List SegmentConfig} {seg : SegmentConfig}
    (hn : ((hotpSegments segments).map (·.segmentId)).Nodup) (hmem : seg ∈ segments)
    (ht : seg.type = .hotp) (h : LastIsHotp segments seg.segmentId) :
    lastSegment segments seg.segmentId = some seg := by
  obtain ⟨s, hlast, hst⟩ := h
  obtain ⟨hs, hid⟩ := lastSegment_mem hlast
  have hs' : s ∈ hotpSegments segments := List.mem_filter.mpr ⟨hs, by simpa using hst⟩
  have hseg' : seg ∈ hotpSegments segments := List.mem_filter.mpr ⟨hmem, by simpa using ht⟩
  obtain rfl : s = seg := List.inj_on_of_nodup_map hn hs' hseg' hid
  exact hlast

/-- A commit that went through. -/
structure Committed (map : TumblerMap) (counterMatches : List (JsString × Int))
    (map' : TumblerMap) : Prop where
  live : isTerminal map.status = false
  state : CounterState map
  below_cap : ∀ cap, map.usageCap = some cap → (map.currentCount : Int) < cap
  frame : map'.frame = map.frame
  count : map'.requestCount = some (map.currentCount + 1)
  perm : (counterMatches.map Prod.fst).Perm ((hotpSegments map.segments).map (·.segmentId))
  nodup : (counterMatches.map Prod.fst).Nodup
  fresh : ∀ seg ∈ map.segments, seg.type = .hotp → ∃ c, (seg.segmentId, c) ∈ counterMatches ∧
    seg.storedCounter ≤ c ∧ isUsableHOTPDerivationCounter c = true
  segments : map'.segments = map.segments.map (advanceSegment counterMatches)

theorem below_cap_of_not_any
    (h : ¬ map.usageCap.any (fun cap => cap ≤ (map.currentCount : Int)) = true) (cap : Int)
    (hcap : map.usageCap = some cap) : (map.currentCount : Int) < cap := by
  simpa [hcap] using h

theorem countersValid_advance {counterMatches : List (JsString × Int)}
    {segments : List SegmentConfig} (hv : CountersValid segments)
    (hu : ∀ u ∈ counterMatches, isUsableHOTPDerivationCounter u.2 = true) :
    CountersValid (segments.map (advanceSegment counterMatches)) := by
  intro s hs ht
  obtain ⟨seg, hmem, rfl⟩ := List.mem_map.mp hs
  have htype : seg.type = .hotp := (congrArg SegmentConfig.type (advanceSegment_frame counterMatches seg)).symm.trans ht
  cases hl : OrderedMap.lookupIn seg.segmentId counterMatches with
  | none => simpa [advanceSegment, hl] using hv seg hmem htype
  | some matched =>
    have hmatch : (seg.segmentId, matched) ∈ counterMatches := OrderedMap.mem_of_lookupIn hl
    obtain ⟨h0, hlt⟩ := isUsable_iff.mp (hu _ hmatch)
    simp only [advanceSegment, hl, htype, if_true, SegmentConfig.storedCounter, Option.getD_some]
    exact isValid_iff.mpr ⟨by omega, by omega⟩

theorem applyCommit_ok (hstate : CounterState map)
    (hu : ∀ u ∈ input.counterMatches, isUsableHOTPDerivationCounter u.2 = true)
    (hadv : advanceCounters map.segments input.counterMatches =
      map.segments.map (advanceSegment input.counterMatches)) :
    ∃ res, (applyCommit map input).1 = .ok res ∧ res.ok = true ∧
      (applyCommit map input).2.frame = map.frame ∧
      (applyCommit map input).2.requestCount = some (map.currentCount + 1) ∧
      (applyCommit map input).2.segments =
        map.segments.map (advanceSegment input.counterMatches) := by
  have hv := countersValid_advance hstate.valid hu
  obtain ⟨r, hr, hleast⟩ := minimumHOTPUsesRemaining_ok hv
  obtain ⟨remaining, rfl⟩ : ∃ n, r = some n := by
    cases r with
    | some n => exact ⟨n, rfl⟩
    | none =>
      obtain ⟨seg, hmem, ht⟩ := hstate.some_hotp
      have hnone := (hleast.none_iff.mp rfl).2 _ (List.mem_map_of_mem hmem)
      exact absurd ((congrArg SegmentConfig.type (advanceSegment_frame _ seg)).trans ht) hnone
  set advanced : TumblerMap := { map with
    segments := map.segments.map (advanceSegment input.counterMatches)
    requestCount := some (map.currentCount + 1)
    lastUsedAt := some (some input.usedAt) } with hadvanced
  have hframe : ∀ status, ({ advanced with status := status } : TumblerMap).frame = map.frame := by
    intro status
    simp [hadvanced, TumblerMap.frame, Function.comp_def]
  obtain ⟨status, hrec⟩ := reconcile_eq advanced remaining
  simp only [applyCommit, hadv, hr, ← hadvanced, hrec]
  split
  · exact ⟨_, rfl, rfl, hframe _, rfl, rfl⟩
  · refine ⟨_, rfl, rfl, ?_⟩
    split
    · exact ⟨hframe _, rfl, rfl⟩
    · exact ⟨hframe _, rfl, rfl⟩

/-- The three outcomes of a commit: refused without effect, refused with the map expired,
or every counter and the usage count advanced together. -/
inductive CommitOutcome (map : TumblerMap) (counterMatches : List (JsString × Int)) :
    ValidationCommitResult → TumblerMap → Prop
  | refused {res} : res.ok = false → CommitOutcome map counterMatches res map
  | expired {res} : res.ok = false → isTerminal map.status = false →
      CommitOutcome map counterMatches res map.expire
  | accepted {res map'} : res.ok = true → Committed map counterMatches map' →
      CommitOutcome map counterMatches res map'

theorem not_terminal_of {status : Option KeyStatus} (hr : status ≠ some .revoked)
    (he : status ≠ some .expired) : isTerminal status = false := by
  cases status with
  | none => rfl
  | some k => cases k <;> simp_all [isTerminal, KeyStatus.isTerminal]

theorem commitValidationToMap_spec (map : TumblerMap) (input : ValidationCommitInput) :
    ∃ res, (commitValidationToMap map input).1 = .ok res ∧
      CommitOutcome map input.counterMatches res (commitValidationToMap map input).2 := by
  simp only [commitValidationToMap]
  cases hstate : assertTumblerMapCounterState map with
  | error e => exact ⟨_, rfl, .refused rfl⟩
  | ok =>
    have hstate := assertTumblerMapCounterState_ok_iff.mp hstate
    simp only
    split
    · exact ⟨_, rfl, .refused rfl⟩
    next hrevoked =>
    split
    · exact ⟨_, rfl, .refused rfl⟩
    next hexpired =>
    have hlive := not_terminal_of hrevoked hexpired
    split
    · exact ⟨_, rfl, .expired rfl hlive⟩
    split
    · exact ⟨_, rfl, .expired rfl hlive⟩
    next hcap =>
    split
    · exact ⟨_, rfl, .refused rfl⟩
    next hlen =>
    cases hmatches : checkMatches map.segments [] input.counterMatches with
    | some e =>
      cases e with
      | hotpCounterExhausted => exact ⟨_, rfl, .expired rfl hlive⟩
      | _ => exact ⟨_, rfl, .refused rfl⟩
    | none =>
      obtain ⟨hnodup, -, hchecked⟩ := checkMatches_eq_none hmatches
      have hlast : ∀ u ∈ input.counterMatches, LastIsHotp map.segments u.1 :=
        fun u hu => (hchecked u hu).last
      have hperm := perm_of_checked hnodup hlast (by simpa using hlen)
      have hids := hperm.nodup_iff.mp hnodup
      have hadv := advanceCounters_eq_map hids hnodup (by
        intro id hid
        obtain ⟨u, hu, rfl⟩ := List.mem_map.mp hid
        exact hlast u hu)
      obtain ⟨res, hres, hok, hframe, hcount, hsegs⟩ :=
        applyCommit_ok hstate (fun u hu => (hchecked u hu).usable) hadv
      refine ⟨res, hres, .accepted hok ⟨hlive, hstate, below_cap_of_not_any hcap, hframe, hcount,
        hperm, hnodup, ?_, hsegs⟩⟩
      intro seg hmem ht
      have hid : seg.segmentId ∈ input.counterMatches.map Prod.fst :=
        hperm.mem_iff.mpr (List.mem_map_of_mem (List.mem_filter.mpr ⟨hmem, by simpa using ht⟩))
      obtain ⟨⟨id, c⟩, hu, rfl⟩ := List.mem_map.mp hid
      have hc := hchecked _ hu
      exact ⟨c, hu, hc.fresh seg (lastSegment_of_nodup hids hmem ht hc.last), hc.usable⟩

theorem checkMatches_none {segments : List SegmentConfig} {seen : List JsString}
    {counterMatches : List (JsString × Int)} (hn : (counterMatches.map Prod.fst).Nodup)
    (hseen : ∀ id ∈ seen, id ∉ counterMatches.map Prod.fst)
    (h : ∀ u ∈ counterMatches, ∃ seg, lastSegment segments u.1 = some seg ∧ seg.type = .hotp ∧
      seg.storedCounter < TSK_MAX_HOTP_COUNTER ∧ seg.storedCounter ≤ u.2 ∧
      isUsableHOTPDerivationCounter u.2 = true) :
    checkMatches segments seen counterMatches = none := by
  induction counterMatches generalizing seen with
  | nil => rfl
  | cons u rest ih =>
    obtain ⟨id, matched⟩ := u
    simp only [List.map_cons, List.nodup_cons] at hn
    obtain ⟨seg, hlast, ht, hmax, hle, husable⟩ := h (id, matched) List.mem_cons_self
    have hnot : id ∉ seen := fun hid => hseen id hid (by simp)
    have hseen' : ∀ id' ∈ id :: seen, id' ∉ rest.map Prod.fst := fun id' hid' => by
      rcases List.mem_cons.mp hid' with rfl | hid'
      · exact hn.1
      · exact fun hmem => hseen id' hid' (List.mem_cons_of_mem _ hmem)
    have hrest := ih hn.2 hseen' (fun u hu => h u (List.mem_cons_of_mem _ hu))
    have hmax' : ¬ TSK_MAX_HOTP_COUNTER ≤ seg.storedCounter := by omega
    have hle' : ¬ seg.storedCounter > matched := by omega
    simp only at hlast husable
    simp [checkMatches, hlast, ht, hnot, hmax', husable, hle', hrest]

theorem lastSegment_of_ids {segments : List SegmentConfig} {seg : SegmentConfig}
    (hids : (segments.map (·.segmentId)).Nodup) (hmem : seg ∈ segments) :
    lastSegment segments seg.segmentId = some seg := by
  cases hlast : lastSegment segments seg.segmentId with
  | none => exact absurd rfl (lastSegment_eq_none_iff.mp hlast seg hmem)
  | some s =>
    obtain ⟨hs, hid⟩ := lastSegment_mem hlast
    exact congrArg some (List.inj_on_of_nodup_map hids hs hmem hid)

/-- A commit is accepted when nothing has expired and every HOTP segment is matched at or
above its stored counter. -/
theorem commitValidationToMap_accepts (input : ValidationCommitInput) (hstate : CounterState map)
    (hlive : isTerminal map.status = false)
    (hexpires : map.expiresAt.any (· < input.usedAt) = false)
    (hcap : map.usageCap.any (fun cap => cap ≤ (map.currentCount : Int)) = false)
    (hids : (map.segments.map (·.segmentId)).Nodup)
    (hn : (input.counterMatches.map Prod.fst).Nodup)
    (hcomplete : ∀ seg ∈ map.segments, seg.type = .hotp →
      seg.segmentId ∈ input.counterMatches.map Prod.fst)
    (hsound : ∀ u ∈ input.counterMatches, ∃ seg ∈ map.segments, seg.type = .hotp ∧
      seg.segmentId = u.1 ∧ seg.storedCounter ≤ u.2 ∧ isUsableHOTPDerivationCounter u.2 = true) :
    ∃ res, (commitValidationToMap map input).1 = .ok res ∧ res.ok = true := by
  have hlast : ∀ u ∈ input.counterMatches, ∃ seg, lastSegment map.segments u.1 = some seg ∧
      seg.type = .hotp ∧ seg.storedCounter < TSK_MAX_HOTP_COUNTER ∧ seg.storedCounter ≤ u.2 ∧
      isUsableHOTPDerivationCounter u.2 = true := by
    intro u hu
    obtain ⟨seg, hmem, ht, hid, hle, husable⟩ := hsound u hu
    exact ⟨seg, hid ▸ lastSegment_of_ids hids hmem, ht, hstate.usable hlive seg hmem ht, hle,
      husable⟩
  have hhotp : ((hotpSegments map.segments).map (·.segmentId)).Nodup :=
    hids.sublist (List.filter_sublist.map _)
  have hperm : (input.counterMatches.map Prod.fst).Perm
      ((hotpSegments map.segments).map (·.segmentId)) := by
    refine (List.perm_ext_iff_of_nodup hn hhotp).mpr (fun id => ⟨fun hid => ?_, fun hid => ?_⟩)
    · obtain ⟨u, hu, rfl⟩ := List.mem_map.mp hid
      obtain ⟨seg, hseg, ht, -⟩ := hlast u hu
      exact LastIsHotp.mem ⟨seg, hseg, ht⟩
    · obtain ⟨seg, hseg, rfl⟩ := List.mem_map.mp hid
      obtain ⟨hmem, ht⟩ := List.mem_filter.mp hseg
      exact hcomplete seg hmem (by simpa using ht)
  have hlen : input.counterMatches.length = (hotpSegments map.segments).length := by
    simpa using hperm.length_eq
  have hrevoked : map.status ≠ some .revoked := fun h => by
    rw [h] at hlive; cases hlive
  have hexpired : map.status ≠ some .expired := fun h => by
    rw [h] at hlive; cases hlive
  have hadv := advanceCounters_eq_map hhotp hn (by
    intro id hid
    obtain ⟨u, hu, rfl⟩ := List.mem_map.mp hid
    obtain ⟨seg, hseg, ht, -⟩ := hlast u hu
    exact ⟨seg, hseg, ht⟩)
  obtain ⟨res, hres, hok, -⟩ := applyCommit_ok hstate (fun u hu => by
    obtain ⟨_, _, _, _, _, husable⟩ := hlast u hu
    exact husable) hadv
  refine ⟨res, ?_, hok⟩
  rw [commitValidationToMap, assertTumblerMapCounterState_ok_iff.mpr hstate]
  simp only
  rw [if_neg hrevoked, if_neg hexpired, if_neg (by simp [hexpires]), if_neg (by simp [hcap]),
    if_neg (by simp [hlen]), checkMatches_none hn (by simp) hlast]
  exact hres

end Commit

end TskProtocol
