import TskProtocol.Core.MapKey
import TskProtocol.Core.MirrorHmac

namespace TskProtocol

/-- The counter that a client uses for a segment: its own, or else the provisioned one. -/
def usedCounter (counters : OrderedMap JsString Int) (seg : SegmentConfig) : Int :=
  (counters.get? seg.segmentId).getD seg.storedCounter

/-- The map with the counters of a client. -/
def TumblerMap.atCounters (map : TumblerMap) (counters : OrderedMap JsString Int) : TumblerMap :=
  { map with segments := map.segments.map (fun seg =>
      if seg.type = .hotp then { seg with counter := some (usedCounter counters seg) } else seg) }

/-- The counter that a client uses for the segment with an id. -/
def usedCounterOf (counters : OrderedMap JsString Int) (segments : List SegmentConfig)
    (id : JsString) : Int :=
  ((segments.find? (fun seg => seg.segmentId = id)).map (usedCounter counters)).getD 0

/-- A client that is within reach of a server: its counters are usable, and ahead of the
server's by no more than the lookahead. -/
structure WithinLookahead (hotpLookahead : Int) (counters : OrderedMap JsString Int)
    (segments : List SegmentConfig) : Prop where
  safe : isSafeInteger hotpLookahead = true
  stored : ∀ seg ∈ segments, seg.type = .hotp → 0 ≤ seg.storedCounter
  usable : ∀ seg ∈ segments, seg.type = .hotp →
    isUsableHOTPDerivationCounter (usedCounter counters seg) = true
  ahead : ∀ seg ∈ segments, seg.type = .hotp → seg.storedCounter ≤ usedCounter counters seg ∧
    usedCounter counters seg ≤ seg.storedCounter + hotpLookahead

/-- No two counters of a lookahead window derive the same value. -/
def DistinctInWindow (H : HmacSha256) (secret : JsString) (hotpLookahead : Int)
    (segments : List SegmentConfig) : Prop :=
  ∀ seg ∈ segments, seg.type = .hotp → ∀ c d : Int,
    seg.storedCounter ≤ c → c < d → d ≤ seg.storedCounter + hotpLookahead →
      hotpText H secret seg c ≠ hotpText H secret seg d

variable {H : HmacSha256} {secret key provided : JsString} {counters : OrderedMap JsString Int}
  {nowMs now : Int} {map : TumblerMap} {cfg : RequiredTSKConfig} {seg : SegmentConfig}
  {segments : List SegmentConfig}

/-- Far enough below the maximum every counter of the window is usable. -/
theorem withinLookahead_of_far {hotpLookahead : Int}
    (hsome : ∃ seg ∈ segments, seg.type = .hotp)
    (hfar : ∀ seg ∈ segments, seg.type = .hotp → 0 ≤ seg.storedCounter ∧
      seg.storedCounter + hotpLookahead < TSK_MAX_HOTP_COUNTER)
    (hahead : ∀ seg ∈ segments, seg.type = .hotp → seg.storedCounter ≤ usedCounter counters seg ∧
      usedCounter counters seg ≤ seg.storedCounter + hotpLookahead) :
    WithinLookahead hotpLookahead counters segments := by
  refine ⟨?_, fun seg hmem ht => (hfar seg hmem ht).1, fun seg hmem ht => ?_, hahead⟩
  · obtain ⟨seg, hmem, ht⟩ := hsome
    have hseg := hfar seg hmem ht
    have hused := hahead seg hmem ht
    simp only [TSK_MAX_HOTP_COUNTER] at hseg
    rw [isSafeInteger, MAX_SAFE_INTEGER, Bool.and_eq_true]
    exact ⟨decide_eq_true (by omega), decide_eq_true (by omega)⟩
  · have hseg := hfar seg hmem ht
    have hused := hahead seg hmem ht
    exact isUsable_iff.mpr ⟨by omega, by omega⟩

theorem usedCounterOf_segmentId (hids : (segments.map (·.segmentId)).Nodup) (hmem : seg ∈ segments) :
    usedCounterOf counters segments seg.segmentId = usedCounter counters seg := by
  induction segments with
  | nil => cases hmem
  | cons s rest ih =>
    rw [List.map_cons, List.nodup_cons] at hids
    rcases List.mem_cons.mp hmem with rfl | hmem
    · simp [usedCounterOf]
    · have hne : s.segmentId ≠ seg.segmentId := by
        intro heq
        exact hids.1 (heq ▸ List.mem_map_of_mem (f := (·.segmentId)) hmem)
      rw [← ih hids.2 hmem]
      simp [usedCounterOf, hne]

theorem clientCounter_used (ht : seg.type = .hotp) :
    clientCounter counters seg.toClient = usedCounter counters seg := by
  simp [clientCounter, usedCounter, SegmentConfig.toClient, ht]

theorem clientDerivationInput_used (nowMs : Int) (husable : seg.type = .hotp →
    isUsableHOTPDerivationCounter (usedCounter counters seg) = true) :
    clientDerivationInput counters nowMs seg.toClient =
      .ok (seg.input (usedCounter counters seg) nowMs) := by
  have htype : seg.toClient.type = seg.type := rfl
  have hid : seg.toClient.segmentId = seg.segmentId := rfl
  cases ht : seg.type with
  | static => simp [clientDerivationInput, SegmentConfig.input, htype, hid, ht]
  | totp =>
    have hwindow : seg.toClient.windowSec = seg.windowSec := by simp [SegmentConfig.toClient, ht]
    simp [clientDerivationInput, SegmentConfig.input, htype, hid, ht, hwindow]
  | hotp =>
    simp [clientDerivationInput, SegmentConfig.input, htype, hid, ht, clientCounter_used ht,
      assertUsable_ok (husable ht)]

theorem clientParts_used {cs : JsString → Int}
    (hcs : ∀ seg ∈ segments, cs seg.segmentId = usedCounter counters seg)
    (husable : ∀ seg ∈ segments, seg.type = .hotp →
      isUsableHOTPDerivationCounter (usedCounter counters seg) = true) :
    clientParts H (bufferFromHex secret) counters nowMs (segments.map SegmentConfig.toClient) =
      .ok (segmentTexts H secret cs nowMs segments) := by
  induction segments with
  | nil => rfl
  | cons seg rest ih =>
    have hrest := ih (fun s hs => hcs s (List.mem_cons_of_mem _ hs))
      (fun s hs => husable s (List.mem_cons_of_mem _ hs))
    simp only [List.map_cons, clientParts,
      clientDerivationInput_used nowMs (husable seg List.mem_cons_self), hrest, bind_ok,
      segmentTexts, hcs seg List.mem_cons_self]
    rfl

theorem generateKeyFromClientPayload_used {cs : JsString → Int}
    (hs : validateHexSecret map.sharedSecret = .ok ())
    (hcs : ∀ seg ∈ map.segments, cs seg.segmentId = usedCounter counters seg)
    (husable : ∀ seg ∈ map.segments, seg.type = .hotp →
      isUsableHOTPDerivationCounter (usedCounter counters seg) = true) :
    generateKeyFromClientPayload H map.sharedSecret (toProvisionPayload map) counters nowMs =
      .ok (keyText H map.inOrder cs nowMs) := by
  have hparts : clientParts H (bufferFromHex map.sharedSecret) counters nowMs
      ((sortedSegments map.segments).map SegmentConfig.toClient) =
      .ok (segmentTexts H map.sharedSecret cs nowMs (sortedSegments map.segments)) :=
    clientParts_used (fun seg hmem => hcs seg (mem_inOrder.mp hmem))
      (fun seg hmem => husable seg (mem_inOrder.mp hmem))
  simp only [generateKeyFromClientPayload, hs, bind_ok, toProvisionPayload, hparts,
    computeChecksumChars, hmac_ok hs, pure_eq_ok]
  rfl

section AtCounters

theorem atCounters_segment (counters : OrderedMap JsString Int) (seg : SegmentConfig) :
    ∃ counter, (if seg.type = .hotp then { seg with counter := some (usedCounter counters seg) }
      else seg) = { seg with counter } := by
  split
  · exact ⟨_, rfl⟩
  · exact ⟨seg.counter, rfl⟩

theorem sortedSegments_atCounters (map : TumblerMap) (counters : OrderedMap JsString Int) :
    sortedSegments (map.atCounters counters).segments =
      (sortedSegments map.segments).map (fun seg =>
        if seg.type = .hotp then { seg with counter := some (usedCounter counters seg) } else seg) := by
  refine (List.map_mergeSort fun a _ b _ => ?_).symm
  obtain ⟨_, ha⟩ := atCounters_segment counters a
  obtain ⟨_, hb⟩ := atCounters_segment counters b
  rw [ha, hb]

theorem Tiled.map_counter {start stop : Nat} {f : SegmentConfig → SegmentConfig}
    (h : Tiled start segments stop) (hf : ∀ seg, (f seg).position = seg.position) :
    Tiled start (segments.map f) stop := by
  induction h with
  | nil => exact .nil _
  | @cons start stop seg rest hstart hlt hrest ih =>
    exact .cons (by rw [hf]; exact hstart) (by rw [hf]; exact hlt) (by rw [hf]; exact ih)

theorem TiledKey.atCounters (hl : TiledKey map) (counters : OrderedMap JsString Int) :
    TiledKey (map.atCounters counters) where
  tiled := by
    rw [sortedSegments_atCounters]
    refine hl.tiled.map_counter fun seg => ?_
    obtain ⟨_, hseg⟩ := atCounters_segment counters seg
    rw [hseg]
  checksum := hl.checksum
  keyLength := hl.keyLength
  ids := by
    have hids : (map.atCounters counters).segments.map (·.segmentId) = map.segments.map (·.segmentId) := by
      simp only [TumblerMap.atCounters, List.map_map]
      refine List.map_congr_left fun seg _ => ?_
      obtain ⟨_, hseg⟩ := atCounters_segment counters seg
      simp only [Function.comp_apply, hseg]
    rw [hids]
    exact hl.ids
  some_hotp := by
    obtain ⟨seg, hmem, ht⟩ := hl.some_hotp
    exact ⟨_, List.mem_map_of_mem hmem, by rw [if_pos ht]; exact ht⟩

theorem keyText_atCounters (map : TumblerMap) (counters : OrderedMap JsString Int)
    (cs : JsString → Int) :
    keyText H (map.atCounters counters).inOrder cs nowMs = keyText H map.inOrder cs nowMs := by
  have htexts : segmentTexts H map.sharedSecret cs nowMs (sortedSegments (map.atCounters counters).segments) =
      segmentTexts H map.sharedSecret cs nowMs (sortedSegments map.segments) := by
    rw [sortedSegments_atCounters]
    simp only [segmentTexts, List.map_map]
    refine List.map_congr_left fun seg _ => ?_
    obtain ⟨_, hseg⟩ := atCounters_segment counters seg
    simp only [Function.comp_apply, hseg]
    rfl
  have hbody : keyBody H (map.atCounters counters).inOrder cs nowMs = keyBody H map.inOrder cs nowMs :=
    congrArg List.flatten htexts
  rw [keyText, keyText, hbody]
  rfl

end AtCounters

/-- The loop over the counters finds the client's, since none before it reads the same. -/
theorem matchCounter_first {rounds k : Nat} {counter : Int} (hs : validateHexSecret secret = .ok ())
    (hk : k < rounds) (h0 : 0 ≤ counter) (hlast : counter + k < TSK_MAX_HOTP_COUNTER)
    (hprovided : provided = hotpText H secret seg (counter + k))
    (hfirst : ∀ c, counter ≤ c → c < counter + k → hotpText H secret seg c ≠ provided) :
    matchCounter H secret seg provided rounds counter = .ok (some (counter + k)) := by
  induction k generalizing rounds counter with
  | zero =>
    obtain ⟨rounds, rfl⟩ : ∃ m, rounds = m + 1 := ⟨rounds - 1, by omega⟩
    have husable : isUsableHOTPDerivationCounter counter = true :=
      isUsable_iff.mpr ⟨h0, by simpa using hlast⟩
    have hequal : constantTimeEqual provided (hotpText H secret seg counter) = true := by
      simpa [hprovided] using constantTimeEqual_refl _
    simp [matchCounter, deriveSegmentForCounter_ok hs seg husable, hequal]
  | succ k ih =>
    obtain ⟨rounds, rfl⟩ : ∃ m, rounds = m + 1 := ⟨rounds - 1, by omega⟩
    push_cast at hlast hprovided hfirst ⊢
    have husable : isUsableHOTPDerivationCounter counter = true :=
      isUsable_iff.mpr ⟨h0, by omega⟩
    have hunequal : constantTimeEqual provided (hotpText H secret seg counter) = false := by
      rw [Bool.eq_false_iff]
      intro hequal
      refine hfirst counter le_rfl (by omega) ?_
      have hutf := constantTimeEqual_iff.mp hequal
      rw [hprovided] at hutf ⊢
      exact JsString.utf8_inj_of_ascii (ascii_segmentText H _ _ _) (ascii_segmentText H _ _ _) hutf.symm
    have hnext : counter + (k + 1) = counter + 1 + k := by omega
    have hrest : matchCounter H secret seg provided rounds (counter + 1) = .ok (some (counter + 1 + k)) :=
      ih (by omega) (by omega) (by omega) (by rw [hprovided, hnext])
        (fun c hc hlt => hfirst c (by omega) (by omega))
    simp only [matchCounter, deriveSegmentForCounter_ok hs seg husable, bind_ok, hunequal, hrest, hnext]
    simp

/-- What the validation of a client's segment contributes. -/
theorem checkSegment_used (hs : validateHexSecret secret = .ok ())
    (hwithin : WithinLookahead cfg.hotpLookahead counters [seg])
    (hdistinct : DistinctInWindow H secret cfg.hotpLookahead [seg])
    (hL : 0 ≤ cfg.hotpLookahead)
    (hclock : ClockInTolerance cfg.totpToleranceWindows [seg] nowMs now)
    (htext : key.slice seg.position.1 seg.position.2 =
      segmentText H secret (seg.input (usedCounter counters seg) nowMs) seg.length) :
    checkSegment H secret cfg now key seg = .ok (.checked true
      (if seg.type = .hotp then some (usedCounter counters seg) else none)) := by
  by_cases ht : seg.type = .hotp
  · have hmem : seg ∈ [seg] := List.mem_singleton_self seg
    obtain ⟨hle, hwindow⟩ := hwithin.ahead seg hmem ht
    obtain ⟨h0, hlt⟩ := isUsable_iff.mp (hwithin.usable seg hmem ht)
    have hstored := hwithin.stored seg hmem ht
    obtain ⟨k, hk⟩ := Int.le.dest hle
    simp only [SegmentConfig.input, ht] at htext
    have hmatch : matchCounter H secret seg (key.slice seg.position.1 seg.position.2)
        (lookaheadRounds cfg.hotpLookahead seg.storedCounter) seg.storedCounter =
        .ok (some (seg.storedCounter + k)) := by
      refine matchCounter_first hs ?_ hstored (by omega) (by rw [htext, hk]; rfl) fun c hc hbelow => ?_
      · simp only [lookaheadRounds]
        omega
      · rw [htext]
        exact hdistinct seg hmem ht c (usedCounter counters seg) hc (by omega) hwindow
    have hvalid : isValidHOTPStoredCounter seg.storedCounter = true :=
      isValid_iff.mpr ⟨hstored, by omega⟩
    have hnot : ¬ TSK_MAX_HOTP_COUNTER ≤ seg.storedCounter := by omega
    simp [checkSegment, ht, hvalid, hnot, hmatch, hk]
  · -- Away from the counters the general lemma applies.
    have hchecked : ∃ matched, checkSegment H secret cfg now key seg = .ok (.checked true matched) := by
      refine checkSegment_generated hs hL hclock (fun hc => absurd hc ht) ?_
      rw [htext]
      cases hty : seg.type with
      | static => simp [SegmentConfig.input, hty]
      | totp => simp [SegmentConfig.input, hty]
      | hotp => exact absurd hty ht
    obtain ⟨matched, hmatched⟩ := hchecked
    rw [hmatched, (checkSegment_accepted hs hL hmatched).other ht, if_neg ht]

/-- The scan of segments that all check out collects their counters in order. -/
theorem scanSegments_collects {check : SegmentConfig → Except CoreError SegmentOutcome}
    {used : SegmentConfig → Int} {start : SegmentScan} (hstart : start.allValid = true)
    (hids : (start.counterUpdates.keys ++ segments.map (·.segmentId)).Nodup)
    (h : ∀ seg ∈ segments, check seg =
      .ok (.checked true (if seg.type = .hotp then some (used seg) else none))) :
    ∃ final, scanSegments check start segments = .ok (.ok final) ∧ final.allValid = true ∧
      final.counterUpdates.entries = start.counterUpdates.entries ++
        (segments.filter (·.type = .hotp)).map (fun seg => (seg.segmentId, ⟨used seg + 1, used seg⟩)) := by
  induction segments generalizing start with
  | nil => exact ⟨start, rfl, hstart, by simp⟩
  | cons seg rest ih =>
    have hcheck := h seg List.mem_cons_self
    have hrest : ∀ s ∈ rest, check s =
        .ok (.checked true (if s.type = .hotp then some (used s) else none)) :=
      fun s hs => h s (List.mem_cons_of_mem _ hs)
    have hvalid (matched : Option Int) : (start.push seg true matched).allValid = true := by
      simp [SegmentScan.push, hstart]
    rw [List.map_cons, List.nodup_append] at hids
    obtain ⟨hkeys, hsegs, hapart⟩ := hids
    rw [List.nodup_cons] at hsegs
    by_cases ht : seg.type = .hotp
    · rw [if_pos ht] at hcheck
      have hfresh : seg.segmentId ∉ start.counterUpdates.entries.map Prod.fst :=
        fun hmem => hapart _ hmem _ (by simp) rfl
      have hset : (start.push seg true (some (used seg))).counterUpdates.entries =
          start.counterUpdates.entries ++ [(seg.segmentId, ⟨used seg + 1, used seg⟩)] :=
        OrderedMap.putIn_of_not_mem hfresh
      obtain ⟨final, hfinal, hall, hentries⟩ := ih (hvalid _) (by
        rw [OrderedMap.keys, hset, List.map_append, List.append_assoc, List.nodup_append]
        refine ⟨hkeys, by simpa using hsegs, fun a ha b hb => ?_⟩
        exact hapart a ha b (by simpa using hb)) hrest
      refine ⟨final, ?_, hall, ?_⟩
      · simpa only [scanSegments, hcheck, bind_ok] using hfinal
      · rw [hentries, hset, List.filter_cons, if_pos (by simpa using ht), List.map_cons,
          List.append_assoc, List.singleton_append]
    · rw [if_neg ht] at hcheck
      obtain ⟨final, hfinal, hall, hentries⟩ := ih (hvalid none) (by
        rw [List.nodup_append]
        exact ⟨hkeys, hsegs.2, fun a ha b hb => hapart a ha b (List.mem_cons_of_mem _ hb)⟩) hrest
      refine ⟨final, ?_, hall, ?_⟩
      · simpa only [scanSegments, hcheck, bind_ok] using hfinal
      · rw [hentries, List.filter_cons, if_neg (by simpa using ht)]
        rfl

section Layout

variable (hl : TiledKey map) (H : HmacSha256) (nowMs : Int) (cs : JsString → Int)

include hl

theorem TiledKey.length_keyText : (keyText H map.inOrder cs nowMs).length = map.keyLength := by
  rw [keyText, List.length_append, hl.length_body, length_checksumText, hl.keyLength, hl.checksum]

theorem TiledKey.slice_keyText {seg : SegmentConfig} (hmem : seg ∈ map.segments) :
    (keyText H map.inOrder cs nowMs).slice seg.position.1 seg.position.2 =
      segmentText H map.sharedSecret (seg.input (cs seg.segmentId) nowMs) seg.length :=
  hl.slice_body H nowMs cs hmem _

theorem TiledKey.slice_body_keyText : (keyText H map.inOrder cs nowMs).slice 0 map.checksum.1 =
    keyBody H map.inOrder cs nowMs := by
  have hlen := hl.length_body H nowMs cs
  rw [JsString.slice, List.drop_zero, keyText, List.take_append, hlen, Nat.sub_self, List.take_zero,
    List.append_nil, List.take_of_length_le hlen.le]

theorem TiledKey.slice_checksum_keyText :
    (keyText H map.inOrder cs nowMs).slice map.checksum.1 map.checksum.2 =
      checksumText H map.sharedSecret (keyBody H map.inOrder cs nowMs) CHECKSUM_LENGTH := by
  have hlen := hl.length_body H nowMs cs
  rw [JsString.slice, List.take_of_length_le (by rw [hl.length_keyText, hl.keyLength]), keyText,
    List.drop_append, hlen, Nat.sub_self, List.drop_zero, List.drop_of_length_le hlen.le,
    List.nil_append]
  rfl

end Layout

/-- A key at a client's counters is accepted, and those are the counters it is matched with. -/
theorem validateTSKKey_used {config : TSKConfig} {cs : JsString → Int} (hl : TiledKey map)
    (hs : validateHexSecret map.sharedSecret = .ok ())
    (hcs : ∀ seg ∈ map.segments, cs seg.segmentId = usedCounter counters seg)
    (hbounds : config.resolve.minKeyLength ≤ map.keyLength ∧
      map.keyLength ≤ config.resolve.maxKeyLength)
    (hwithin : WithinLookahead config.resolve.hotpLookahead counters map.segments)
    (hdistinct : DistinctInWindow H map.sharedSecret config.resolve.hotpLookahead map.segments)
    (hclock : ClockInTolerance config.resolve.totpToleranceWindows map.segments nowMs now) :
    ∃ r, validateTSKKey H (keyText H map.inOrder cs nowMs) map now config = .ok r ∧ r.ok = true ∧
      r.counterMatches = (map.segments.filter (·.type = .hotp)).map (fun seg =>
        (seg.segmentId, usedCounter counters seg)) := by
  obtain ⟨hotp, hhotp, hhotpt⟩ := hl.some_hotp
  have hL : 0 ≤ config.resolve.hotpLookahead := by
    have hahead := hwithin.ahead hotp hhotp hhotpt
    omega
  have hlen := hl.length_keyText H nowMs cs
  have hchecked : ∀ seg ∈ map.segments, checkSegment H map.sharedSecret config.resolve now
      (keyText H map.inOrder cs nowMs) seg = .ok (.checked true
        (if seg.type = .hotp then some (usedCounter counters seg) else none)) := by
    intro seg hmem
    have hsub : ∀ s ∈ [seg], s ∈ map.segments := fun s hs => List.mem_singleton.mp hs ▸ hmem
    refine checkSegment_used hs
      ⟨hwithin.safe, fun s h => hwithin.stored s (hsub s h), fun s h => hwithin.usable s (hsub s h),
        fun s h => hwithin.ahead s (hsub s h)⟩
      (fun s h => hdistinct s (hsub s h)) hL (fun s h => hclock s (hsub s h)) ?_
    rw [hl.slice_keyText H nowMs cs hmem, hcs seg hmem]
  obtain ⟨final, hfinal, hvalid, hentries⟩ :=
    scanSegments_collects (show ({} : SegmentScan).allValid = true from rfl) hl.ids hchecked
  simp only [validateTSKKey]
  rw [if_neg (by rw [hwithin.safe]; simp; omega), if_neg (by simpa using List.ne_nil_of_mem hhotp),
    if_neg (by simpa using ⟨hotp, hhotp, hhotpt⟩),
    if_neg (by simpa using fun seg hmem => hl.tiled.nonempty seg (mem_inOrder.mpr hmem)),
    if_neg (by rw [hlen]; omega), if_neg (by rw [hlen]; simp)]
  simp only [hl.slice_checksum_keyText, hl.slice_body_keyText, computeChecksum_ok hs, bind_ok,
    constantTimeEqual_refl, hfinal, hvalid]
  refine ⟨_, rfl, rfl, ?_⟩
  rw [counterMatches_of_scan rfl, hentries]
  exact List.map_map

theorem deriveSegmentValue_error {e : CoreError} (hs : validateHexSecret secret = .error e)
    (husable : seg.type = .hotp → isUsableHOTPDerivationCounter seg.storedCounter = true) :
    deriveSegmentValue H secret seg nowMs = .error e := by
  cases ht : seg.type with
  | static =>
    simp only [deriveSegmentValue, ht, toSecretBuf, hs]
    rfl
  | totp =>
    simp only [deriveSegmentValue, ht, toSecretBuf, hs]
    rfl
  | hotp =>
    simp only [deriveSegmentValue, ht, toSecretBuf, hs, assertUsable_ok (husable ht)]
    rfl

theorem generateKeyFromMap_error {e : CoreError} (hs : validateHexSecret map.sharedSecret = .error e)
    (hsome : map.segments ≠ [])
    (husable : ∀ seg ∈ map.segments, seg.type = .hotp →
      isUsableHOTPDerivationCounter seg.storedCounter = true) :
    generateKeyFromMap H map nowMs = .error e := by
  obtain ⟨seg, rest, hsegs⟩ := List.exists_cons_of_ne_nil hsome
  have hmem : seg ∈ map.segments := by simp [hsegs]
  simp only [generateKeyFromMap, hsegs, writeSegments, deriveSegmentValue_error hs (husable seg hmem)]
  rfl

/-- The two ways of assembling a key agree: at the counters of the client, and so on the map
itself when the client holds the map's own counters.  The validator accepts the key of a
client within reach, with the counters that the client has used. -/
theorem client_key_roundtrip {config : TSKConfig} (hl : TiledKey map)
    (hbounds : config.resolve.minKeyLength ≤ map.keyLength ∧
      map.keyLength ≤ config.resolve.maxKeyLength)
    (hwithin : WithinLookahead config.resolve.hotpLookahead counters map.segments)
    (hdistinct : DistinctInWindow H map.sharedSecret config.resolve.hotpLookahead map.segments)
    (hclock : ClockInTolerance config.resolve.totpToleranceWindows map.segments nowMs now) :
    generateKeyFromClientPayload H map.sharedSecret (toProvisionPayload map) counters nowMs =
      generateKeyFromMap H (map.atCounters counters) nowMs ∧
    ((∀ seg ∈ map.segments, seg.type = .hotp → usedCounter counters seg = seg.storedCounter) →
      generateKeyFromClientPayload H map.sharedSecret (toProvisionPayload map) counters nowMs =
        generateKeyFromMap H map nowMs) ∧
    (validateHexSecret map.sharedSecret = .ok () → ∃ key,
      generateKeyFromClientPayload H map.sharedSecret (toProvisionPayload map) counters nowMs = .ok key) ∧
    ∀ key, generateKeyFromClientPayload H map.sharedSecret (toProvisionPayload map) counters nowMs =
        .ok key →
      ∃ r, validateTSKKey H key map now config = .ok r ∧ r.ok = true ∧
        r.counterMatches = (map.segments.filter (·.type = .hotp)).map (fun seg =>
          (seg.segmentId, usedCounter counters seg)) := by
  have hcs : ∀ seg ∈ map.segments,
      usedCounterOf counters map.segments seg.segmentId = usedCounter counters seg :=
    fun seg hmem => usedCounterOf_segmentId hl.ids hmem
  -- Every HOTP segment of the client's map is at the counter the client uses.
  have hat : ∀ s ∈ (map.atCounters counters).segments, s.type = .hotp →
      s.storedCounter = usedCounterOf counters map.segments s.segmentId ∧
        isUsableHOTPDerivationCounter s.storedCounter = true := by
    intro s hmem ht
    obtain ⟨seg, hseg, rfl⟩ := List.mem_map.mp hmem
    by_cases htype : seg.type = .hotp
    · rw [if_pos htype]
      exact ⟨(hcs seg hseg).symm, hwithin.usable seg hseg htype⟩
    · rw [if_neg htype] at ht
      exact absurd ht htype
  have hnonempty : map.segments ≠ [] := by
    obtain ⟨seg, hmem, -⟩ := hl.some_hotp
    exact List.ne_nil_of_mem hmem
  cases hs : validateHexSecret map.sharedSecret with
  | error e =>
    have hclient : generateKeyFromClientPayload H map.sharedSecret (toProvisionPayload map) counters nowMs =
        .error e := by
      simp only [generateKeyFromClientPayload, hs]
      rfl
    have hmap : generateKeyFromMap H (map.atCounters counters) nowMs = .error e :=
      generateKeyFromMap_error hs (by simpa [TumblerMap.atCounters] using hnonempty)
        (fun s hmem ht => (hat s hmem ht).2)
    refine ⟨hclient.trans hmap.symm, fun hsame => ?_, fun hok => (by cases hok), fun key hkey => ?_⟩
    · rw [hclient, generateKeyFromMap_error hs hnonempty (fun seg hmem ht => ?_)]
      rw [← hsame seg hmem ht]
      exact hwithin.usable seg hmem ht
    · rw [hclient] at hkey
      cases hkey
  | ok _ =>
    have hclient : generateKeyFromClientPayload H map.sharedSecret (toProvisionPayload map) counters nowMs =
        .ok (keyText H map.inOrder (usedCounterOf counters map.segments) nowMs) :=
      generateKeyFromClientPayload_used hs hcs hwithin.usable
    refine ⟨?_, fun hsame => ?_, fun _ => ⟨_, hclient⟩, fun key hkey => ?_⟩
    · rw [hclient, (hl.atCounters counters).generateKeyFromMap_ok hs hat, keyText_atCounters]
    · rw [hclient, hl.generateKeyFromMap_ok hs (fun seg hmem ht => ?_)]
      rw [hcs seg hmem, ← hsame seg hmem ht]
      exact ⟨rfl, hwithin.usable seg hmem ht⟩
    · rw [hclient] at hkey
      obtain rfl := Except.ok.inj hkey
      exact validateTSKKey_used hl hs hcs hbounds hwithin hdistinct hclock

section Sample

/-- One segment of each kind. -/
def sampleLayout : TumblerMap where
  clientId := JsString.lit "c"
  sharedSecret := List.replicate 64 97
  keyLength := 32
  segments := [⟨JsString.lit "h", (0, 11), .hotp, none, some 7⟩,
    ⟨JsString.lit "t", (11, 15), .totp, some 30, none⟩,
    ⟨JsString.lit "s", (15, 20), .static, none, none⟩]
  checksum := (20, 32)
  createdAt := 0
  version := JsString.lit "1"
  label := none
  expiresAt := none
  maxRequests := none
  rotationWarningRequests := none
  hotpRotationWarningCounters := none
  requestCount := none
  lastUsedAt := none
  status := none

/-- Two counters ahead of the server. -/
def sampleClientCounters : OrderedMap JsString Int :=
  (∅ : OrderedMap JsString Int).set (JsString.lit "h") 9

theorem sampleLayout_tiled : TiledKey sampleLayout where
  tiled := by
    have htiled : Tiled 0 sampleLayout.segments 20 :=
      .cons rfl (by decide) (.cons rfl (by decide) (.cons rfl (by decide) (.nil 20)))
    rw [htiled.sortedSegments_eq]
    exact htiled
  checksum := rfl
  keyLength := rfl
  ids := by decide
  some_hotp := ⟨_, List.mem_cons_self, rfl⟩

theorem sampleLayout_distinct : DistinctInWindow mirrorHmac sampleLayout.sharedSecret 5
    sampleLayout.segments := by
  intro seg hmem ht c d hc hlt hd heq
  obtain rfl : seg = ⟨JsString.lit "h", (0, 11), .hotp, none, some 7⟩ := by
    simp only [sampleLayout, List.mem_cons, List.not_mem_nil, or_false] at hmem
    rcases hmem with rfl | rfl | rfl
    · rfl
    · cases ht
    · cases ht
  simp only [SegmentConfig.storedCounter, Option.getD_some] at hc hd
  have hsame := mirrorHmac_counter_unique (by decide) (by decide)
    (isUsable_iff.mpr ⟨by omega, by simp only [TSK_MAX_HOTP_COUNTER]; omega⟩)
    (isUsable_iff.mpr ⟨by omega, by simp only [TSK_MAX_HOTP_COUNTER]; omega⟩) heq
  omega

end Sample

/-- The clocks are half a minute apart. -/
theorem client_key_roundtrip_sample : ∃ key r,
    generateKeyFromClientPayload mirrorHmac sampleLayout.sharedSecret (toProvisionPayload sampleLayout)
      sampleClientCounters 30000 = .ok key ∧
    generateKeyFromMap mirrorHmac (sampleLayout.atCounters sampleClientCounters) 30000 = .ok key ∧
    validateTSKKey mirrorHmac key sampleLayout 0 {} = .ok r ∧ r.ok = true ∧
    r.counterMatches = [(JsString.lit "h", 9)] := by
  have hwithin : WithinLookahead ({} : TSKConfig).resolve.hotpLookahead sampleClientCounters
      sampleLayout.segments :=
    withinLookahead_of_far sampleLayout_tiled.some_hotp (by decide) (by decide)
  have hclock : ClockInTolerance ({} : TSKConfig).resolve.totpToleranceWindows sampleLayout.segments
      30000 0 := by
    unfold ClockInTolerance
    decide
  obtain ⟨hagree, -, hkey, hvalidates⟩ :=
    client_key_roundtrip sampleLayout_tiled (by decide) hwithin sampleLayout_distinct hclock
  obtain ⟨key, hkey⟩ := hkey rfl
  obtain ⟨r, hr, hok, hmatches⟩ := hvalidates key hkey
  exact ⟨key, r, hkey, hagree.symm.trans hkey, hr, hok, hmatches⟩

end TskProtocol
