import TskProtocol.Core.Validate

namespace TskProtocol

variable {H : HmacSha256} {secret providedKey provided : JsString} {cfg : RequiredTSKConfig}
  {nowMs : Int} {seg : SegmentConfig}

/-- The part of the key at the segment reads as the segment's value at counter `c`. -/
def ReadsCounter (H : HmacSha256) (secret providedKey : JsString) (seg : SegmentConfig)
    (c : Int) : Prop :=
  constantTimeEqual (providedKey.slice seg.position.1 seg.position.2) (hotpText H secret seg c) = true

/-- What a valid HOTP segment is matched with. -/
structure HotpMatch (H : HmacSha256) (secret providedKey : JsString) (hotpLookahead : Int)
    (seg : SegmentConfig) (c : Int) : Prop where
  stored_le : seg.storedCounter ≤ c
  le_window : c ≤ seg.storedCounter + hotpLookahead
  usable : isUsableHOTPDerivationCounter c = true
  reads : ReadsCounter H secret providedKey seg c

theorem ReadsCounter.text_unique {c d : Int} (hc : ReadsCounter H secret providedKey seg c)
    (hd : ReadsCounter H secret providedKey seg d) :
    hotpText H secret seg c = hotpText H secret seg d := by
  have hutf : (hotpText H secret seg c).utf8 = (hotpText H secret seg d).utf8 :=
    (constantTimeEqual_iff.mp hc).symm.trans (constantTimeEqual_iff.mp hd)
  exact JsString.utf8_inj_of_ascii (ascii_segmentText H _ _ _) (ascii_segmentText H _ _ _) hutf

theorem matchCounter_ok {rounds : Nat} {counter c : Int}
    (hs : validateHexSecret secret = .ok ()) (h0 : 0 ≤ counter)
    (hlast : counter + rounds ≤ TSK_MAX_HOTP_COUNTER)
    (h : matchCounter H secret seg provided rounds counter = .ok (some c)) :
    counter ≤ c ∧ c < counter + rounds ∧
      constantTimeEqual provided (hotpText H secret seg c) = true := by
  induction rounds generalizing counter with
  | zero => cases h
  | succ rounds ih =>
    have hu : isUsableHOTPDerivationCounter counter = true :=
      isUsable_iff.mpr ⟨h0, by push_cast at hlast; omega⟩
    simp only [matchCounter, deriveSegmentForCounter_ok hs seg hu, bind_ok] at h
    split at h
    · next heq =>
      obtain rfl : counter = c := by simpa using h
      exact ⟨le_rfl, by push_cast; omega, heq⟩
    · obtain ⟨h1, h2, h3⟩ := ih (by omega) (by push_cast at hlast ⊢; omega) h
      exact ⟨by omega, by push_cast; omega, h3⟩

theorem lookaheadRounds_bound {L stored : Int} (hs : stored < TSK_MAX_HOTP_COUNTER) :
    stored + lookaheadRounds L stored ≤ TSK_MAX_HOTP_COUNTER ∧
      (0 ≤ L → (lookaheadRounds L stored : Int) ≤ L + 1) := by
  simp only [lookaheadRounds]
  omega

/-- The specification of one segment of a key that is not rejected at it. -/
structure SegmentAccepted (H : HmacSha256) (secret providedKey : JsString)
    (cfg : RequiredTSKConfig) (seg : SegmentConfig) (matched : Option Int) : Prop where
  hotp : seg.type = .hotp →
    ∃ c, matched = some c ∧ HotpMatch H secret providedKey cfg.hotpLookahead seg c
  other : seg.type ≠ .hotp → matched = none

theorem checkSegment_accepted {matched : Option Int} (hs : validateHexSecret secret = .ok ())
    (hL : 0 ≤ cfg.hotpLookahead)
    (h : checkSegment H secret cfg nowMs providedKey seg = .ok (.checked true matched)) :
    SegmentAccepted H secret providedKey cfg seg matched := by
  cases ht : seg.type with
  | static =>
    simp only [checkSegment, ht] at h
    obtain ⟨e, -, h⟩ := bind_eq_ok.mp h
    simp only [pure_eq_ok, Except.ok.injEq, SegmentOutcome.checked.injEq] at h
    exact ⟨fun hc => (by cases ht.symm.trans hc), fun _ => h.2.symm⟩
  | totp =>
    simp only [checkSegment, ht] at h
    obtain ⟨e, -, h⟩ := bind_eq_ok.mp h
    simp only [pure_eq_ok, Except.ok.injEq, SegmentOutcome.checked.injEq] at h
    exact ⟨fun hc => (by cases ht.symm.trans hc), fun _ => h.2.symm⟩
  | hotp =>
    simp only [checkSegment, ht] at h
    split at h
    · cases h
    · next hv =>
      split at h
      · cases h
      · next hex =>
        obtain ⟨m, hm, h⟩ := bind_eq_ok.mp h
        simp only [pure_eq_ok, Except.ok.injEq, SegmentOutcome.checked.injEq] at h
        obtain ⟨hsome, rfl⟩ := h
        obtain ⟨c, rfl⟩ := Option.isSome_iff_exists.mp hsome
        have h0 : 0 ≤ seg.storedCounter := (isValid_iff.mp (by simpa using hv)).1
        have hlt : seg.storedCounter < TSK_MAX_HOTP_COUNTER := by omega
        obtain ⟨hmax, hwin⟩ := lookaheadRounds_bound (L := cfg.hotpLookahead) hlt
        obtain ⟨h1, h2, h3⟩ := matchCounter_ok hs h0 hmax hm
        refine ⟨fun _ => ⟨c, rfl, h1, ?_, isUsable_iff.mpr ⟨by omega, by omega⟩, h3⟩,
          fun hn => absurd ht hn⟩
        have := hwin hL
        omega

/-- What the loop over the segments has established when it ends with every segment valid. -/
structure ScanAccepted (H : HmacSha256) (secret providedKey : JsString)
    (cfg : RequiredTSKConfig) (start : SegmentScan) (segments : List SegmentConfig)
    (final : SegmentScan) : Prop where
  hotp : ∀ seg ∈ segments, seg.type = .hotp →
    final.counterUpdates.has seg.segmentId = true
  updates : ∀ id u, final.counterUpdates.get? id = some u →
    start.counterUpdates.get? id = some u ∨
      ∃ seg ∈ segments, seg.type = .hotp ∧ seg.segmentId = id ∧
        HotpMatch H secret providedKey cfg.hotpLookahead seg u.matchedCounter
  keeps : ∀ id, start.counterUpdates.has id = true → final.counterUpdates.has id = true
  start_valid : start.allValid = true

theorem scanSegments_accepted {segments : List SegmentConfig} {start final : SegmentScan}
    (hs : validateHexSecret secret = .ok ()) (hL : 0 ≤ cfg.hotpLookahead)
    (h : scanSegments (checkSegment H secret cfg nowMs providedKey) start segments = .ok (.ok final))
    (hv : final.allValid = true) :
    ScanAccepted H secret providedKey cfg start segments final := by
  induction segments generalizing start with
  | nil =>
    obtain rfl : start = final := by simpa [scanSegments] using h
    exact ⟨by simp, fun _ _ hu => .inl hu, fun _ => id, hv⟩
  | cons seg rest ih =>
    simp only [scanSegments] at h
    obtain ⟨outcome, ho, h⟩ := bind_eq_ok.mp h
    cases outcome with
    | abort e => simp at h
    | checked valid matched =>
      have hrest := ih h
      have hpush : start.allValid = true ∧ valid = true := by
        simpa [SegmentScan.push] using hrest.start_valid
      obtain ⟨hstart, rfl⟩ := hpush
      have hacc := checkSegment_accepted hs hL ho
      refine ⟨?_, ?_, ?_, hstart⟩
      · intro s hmem ht
        rcases List.mem_cons.mp hmem with rfl | hmem
        · obtain ⟨c, rfl, -⟩ := hacc.hotp ht
          exact hrest.keeps _ (by simp [SegmentScan.push, OrderedMap.has])
        · exact hrest.hotp s hmem ht
      · intro id u hu
        rcases hrest.updates id u hu with hu | ⟨s, hmem, hsu⟩
        · cases ht : decide (seg.type = .hotp) with
          | true =>
            have ht := of_decide_eq_true ht
            obtain ⟨c, rfl, hm⟩ := hacc.hotp ht
            simp only [SegmentScan.push, OrderedMap.get?_set] at hu
            split at hu
            · next hid =>
              obtain rfl : (⟨c + 1, c⟩ : HOTPCounterUpdate) = u := Option.some.inj hu
              exact .inr ⟨seg, List.mem_cons_self, ht, hid, hm⟩
            · exact .inl hu
          | false =>
            rw [hacc.other (of_decide_eq_false ht)] at hu
            exact .inl hu
        · exact .inr ⟨s, List.mem_cons_of_mem _ hmem, hsu⟩
      · intro id hid
        apply hrest.keeps
        cases matched with
        | none => exact hid
        | some c =>
          simp only [SegmentScan.push, OrderedMap.has, OrderedMap.get?_set]
          split
          · rfl
          · exact hid

/-- The matched counters a successful validation hands to the store. -/
def TSKValidationResult.counterMatches (r : TSKValidationResult) : List (JsString × Int) :=
  (r.counterUpdates.getD ∅).entries.map (fun e => (e.1, e.2.matchedCounter))

/-- What an accepted key has shown about the map it was checked against. -/
structure KeyAccepted (H : HmacSha256) (providedKey : JsString) (map : TumblerMap)
    (hotpLookahead : Int) (matched : List (JsString × Int)) : Prop where
  secret : validateHexSecret map.sharedSecret = .ok ()
  some_hotp : ∃ seg ∈ map.segments, seg.type = .hotp
  nodup : (matched.map Prod.fst).Nodup
  complete : ∀ seg ∈ map.segments, seg.type = .hotp → seg.segmentId ∈ matched.map Prod.fst
  sound : ∀ id c, (id, c) ∈ matched → ∃ seg ∈ map.segments, seg.type = .hotp ∧
    seg.segmentId = id ∧ HotpMatch H map.sharedSecret providedKey hotpLookahead seg c

theorem counterMatches_of_scan {scan : SegmentScan} {r : TSKValidationResult}
    (h : r.counterUpdates =
      if 0 < scan.counterUpdates.size then some scan.counterUpdates else none) :
    r.counterMatches = scan.counterUpdates.entries.map (fun e => (e.1, e.2.matchedCounter)) := by
  simp only [TSKValidationResult.counterMatches, h]
  split
  · rfl
  · next hsize =>
    have hnil : scan.counterUpdates.entries = [] := List.length_eq_zero_iff.mp (by
      simpa [OrderedMap.size] using hsize)
    rw [hnil]; rfl

theorem validateTSKKey_accepted {map : TumblerMap} {config : TSKConfig}
    {r : TSKValidationResult} (h : validateTSKKey H providedKey map nowMs config = .ok r)
    (hok : r.ok = true) :
    r.clientId = some map.clientId ∧
      KeyAccepted H providedKey map config.resolve.hotpLookahead r.counterMatches := by
  simp only [validateTSKKey] at h
  -- every early return answers `ok: false`
  split at h
  · cases h; cases hok
  next hL =>
  split at h
  · cases h; cases hok
  split at h
  · cases h; cases hok
  next hhotp =>
  split at h
  · cases h; cases hok
  split at h
  · cases h; cases hok
  split at h
  · cases h; cases hok
  obtain ⟨expected, hcs, h⟩ := bind_eq_ok.mp h
  have hs := validateHexSecret_of_computeChecksum hcs
  split at h
  · cases h; cases hok
  obtain ⟨outcome, hscan, h⟩ := bind_eq_ok.mp h
  cases outcome with
  | error e => cases h; cases hok
  | ok scan =>
    simp only at h
    split at h
    · cases h; cases hok
    next hvalid =>
    have hacc := scanSegments_accepted hs (by omega) hscan (by simpa using hvalid)
    obtain rfl := Except.ok.inj h
    refine ⟨rfl, hs, by simpa using hhotp, ?_, ?_, ?_⟩
    · rw [counterMatches_of_scan rfl, List.map_map]
      exact scan.counterUpdates.nodup
    · intro seg hmem ht
      rw [counterMatches_of_scan rfl, List.map_map]
      exact OrderedMap.mem_keys.mpr (hacc.hotp seg hmem ht)
    · intro id c hc
      rw [counterMatches_of_scan rfl] at hc
      obtain ⟨⟨id', u⟩, hu, he⟩ := List.mem_map.mp hc
      obtain ⟨rfl, rfl⟩ := Prod.mk.inj he
      rcases hacc.updates id' u (OrderedMap.get?_eq_some.mpr hu) with hnone | hseg
      · cases hnone
      · exact hseg

end TskProtocol
