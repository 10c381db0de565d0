import TskProtocol.Core.KeyGen
import TskProtocol.Core.ValidateLaws

namespace TskProtocol

variable {H : HmacSha256} {secret key : JsString} {counters : OrderedMap JsString Int}
  {nowMs now : Int} {cfg : RequiredTSKConfig} {map map' : TumblerMap}

/-- The counter a client holds for a segment. -/
def counterAt (counters : OrderedMap JsString Int) (id : JsString) : Int :=
  (counters.get? id).getD 0

/-- The client holds a usable counter for every HOTP segment. -/
def HoldsUsable (counters : OrderedMap JsString Int) (segments : List SegmentConfig) : Prop :=
  ∀ seg ∈ segments, seg.type = .hotp → counters.has seg.segmentId = true ∧
    isUsableHOTPDerivationCounter (counterAt counters seg.segmentId) = true

theorem clientCounter_toClient {seg : SegmentConfig} (h : counters.has seg.segmentId = true) :
    clientCounter counters seg.toClient = counterAt counters seg.segmentId := by
  obtain ⟨c, hc⟩ := OrderedMap.has_iff.mp h
  simp [clientCounter, counterAt, SegmentConfig.toClient, hc]

theorem clientDerivationInput_ok (nowMs : Int) {seg : SegmentConfig} (h : seg.type = .hotp →
    counters.has seg.segmentId = true ∧
      isUsableHOTPDerivationCounter (counterAt counters seg.segmentId) = true) :
    clientDerivationInput counters nowMs seg.toClient =
      .ok (seg.input (counterAt counters seg.segmentId) nowMs) := by
  have htype : seg.toClient.type = seg.type := rfl
  have hid : seg.toClient.segmentId = seg.segmentId := rfl
  cases ht : seg.type with
  | static => simp [clientDerivationInput, SegmentConfig.input, htype, hid, ht]
  | totp =>
    have hw : seg.toClient.windowSec = seg.windowSec := by simp [SegmentConfig.toClient, ht]
    simp [clientDerivationInput, SegmentConfig.input, htype, hid, ht, hw]
  | hotp =>
    obtain ⟨hhas, husable⟩ := h ht
    simp [clientDerivationInput, SegmentConfig.input, htype, hid, ht,
      clientCounter_toClient hhas, assertUsable_ok husable]

theorem clientParts_ok {segments : List SegmentConfig} (h : HoldsUsable counters segments) :
    clientParts H (bufferFromHex secret) counters nowMs (segments.map SegmentConfig.toClient) =
      .ok (segmentTexts H secret (counterAt counters) nowMs segments) := by
  induction segments with
  | nil => rfl
  | cons seg rest ih =>
    have hrest := ih (fun s hs => h s (List.mem_cons_of_mem _ hs))
    simp only [List.map_cons, clientParts,
      clientDerivationInput_ok nowMs (h seg List.mem_cons_self), hrest, bind_ok]
    rfl

/-- The body of the key a client assembles. -/
def keyBody (H : HmacSha256) (map : TumblerMap) (counters : JsString → Int) (nowMs : Int) :
    JsString :=
  (segmentTexts H map.sharedSecret counters nowMs map.segments).flatten

/-- The key a client assembles. -/
def keyText (H : HmacSha256) (map : TumblerMap) (counters : JsString → Int) (nowMs : Int) :
    JsString :=
  keyBody H map counters nowMs ++
    checksumText H map.sharedSecret (keyBody H map counters nowMs) CHECKSUM_LENGTH

theorem generateKey_ok (hl : GeneratedLayout map) (h : HoldsUsable counters map.segments) :
    generateKeyFromClientPayload H map.sharedSecret (toProvisionPayload map) counters nowMs =
      .ok (keyText H map (counterAt counters) nowMs) := by
  simp only [generateKeyFromClientPayload, hl.secret, bind_ok, toProvisionPayload,
    hl.tiled.sortedSegments_eq, clientParts_ok h, computeChecksumChars, hmac_ok hl.secret,
    pure_eq_ok]
  rfl

theorem length_checksumText (H : HmacSha256) (secret data : JsString) :
    (checksumText H secret data CHECKSUM_LENGTH).length = CHECKSUM_LENGTH := by
  simp [checksumText, JsString.slice, H.length_digest, CHECKSUM_LENGTH]

section Layout

variable (H : HmacSha256) (cs : JsString → Int) (nowMs : Int)

theorem length_keyBody (hl : GeneratedLayout map) :
    (keyBody H map cs nowMs).length = map.checksum.1 := by
  simpa [keyBody] using length_flatten_texts H map.sharedSecret cs nowMs hl.tiled

theorem length_keyText (hl : GeneratedLayout map) :
    (keyText H map cs nowMs).length = map.keyLength := by
  rw [keyText, List.length_append, length_keyBody H cs nowMs hl, length_checksumText, hl.keyLength,
    hl.checksum]

theorem slice_keyText (hl : GeneratedLayout map) {seg : SegmentConfig} (hmem : seg ∈ map.segments) :
    (keyText H map cs nowMs).slice seg.position.1 seg.position.2 =
      segmentText H map.sharedSecret (seg.input (cs seg.segmentId) nowMs) seg.length := by
  simpa [keyText, keyBody] using slice_flatten_texts H map.sharedSecret cs nowMs hl.tiled []
    (checksumText H map.sharedSecret
      (keyBody H map cs nowMs) CHECKSUM_LENGTH) rfl seg hmem

theorem slice_body (hl : GeneratedLayout map) :
    (keyText H map cs nowMs).slice 0 map.checksum.1 = keyBody H map cs nowMs := by
  have hlen := length_keyBody H cs nowMs hl
  rw [JsString.slice, List.drop_zero, keyText, List.take_append, hlen, Nat.sub_self,
    List.take_zero, List.append_nil, List.take_of_length_le hlen.le]

theorem slice_checksum (hl : GeneratedLayout map) :
    (keyText H map cs nowMs).slice map.checksum.1 map.checksum.2 =
      checksumText H map.sharedSecret (keyBody H map cs nowMs) CHECKSUM_LENGTH := by
  have hlen := length_keyBody H cs nowMs hl
  rw [JsString.slice, List.take_of_length_le (by rw [length_keyText H cs nowMs hl, hl.keyLength]),
    keyText, List.drop_append, hlen, Nat.sub_self, List.drop_zero,
    List.drop_of_length_le hlen.le, List.nil_append]

end Layout

theorem constantTimeEqual_refl (s : JsString) : constantTimeEqual s s = true :=
  constantTimeEqual_iff.mpr rfl

/-- A client key reads, at every HOTP segment, as the counter the client held. -/
theorem readsCounter_keyText (hl : GeneratedLayout map) {cs : JsString → Int} {seg : SegmentConfig}
    (hmem : seg ∈ map.segments) (ht : seg.type = .hotp) :
    ReadsCounter H map.sharedSecret (keyText H map cs nowMs) seg (cs seg.segmentId) := by
  have hinput : seg.input (cs seg.segmentId) nowMs = hotpInput seg.segmentId (cs seg.segmentId) := by
    simp [SegmentConfig.input, ht]
  rw [ReadsCounter, slice_keyText H cs nowMs hl hmem, hinput]
  exact constantTimeEqual_refl _

/-- The server's clock is in the same window as the client's, up to the tolerance. -/
def ClockInTolerance (tolerance : Int) (segments : List SegmentConfig) (nowMs now : Int) : Prop :=
  ∀ seg ∈ segments, seg.type = .totp → ∃ delta ∈ toleranceDeltas tolerance,
    (WindowNumber.at now (seg.windowSec.getD 60)).add delta =
      WindowNumber.at nowMs (seg.windowSec.getD 60)

theorem matchWindow_hit {seg : SegmentConfig} {provided : JsString} {T T' : WindowNumber}
    {deltas : List Int} (hs : validateHexSecret secret = .ok ())
    (hprovided : provided = segmentText H secret (totpInput seg.segmentId T') seg.length)
    (h : ∃ delta ∈ deltas, T.add delta = T') :
    matchWindow H secret seg provided T deltas = .ok true := by
  induction deltas with
  | nil => simp at h
  | cons delta rest ih =>
    simp only [matchWindow, deriveSegmentForWindow_ok hs, bind_ok]
    split
    · rfl
    · next hne =>
      obtain ⟨d, hd, hT⟩ := h
      rcases List.mem_cons.mp hd with rfl | hd
      · exact absurd (by rw [hprovided, hT]; exact constantTimeEqual_refl _) hne
      · exact ih ⟨d, hd, hT⟩

theorem matchCounter_hit {seg : SegmentConfig} {provided : JsString} {rounds : Nat} {c : Int}
    (hs : validateHexSecret secret = .ok ()) (hc : isUsableHOTPDerivationCounter c = true)
    (hrounds : 0 < rounds) (h : constantTimeEqual provided (hotpText H secret seg c) = true) :
    matchCounter H secret seg provided rounds c = .ok (some c) := by
  cases rounds with
  | zero => cases hrounds
  | succ rounds => simp [matchCounter, deriveSegmentForCounter_ok hs seg hc, h]

theorem checkSegment_generated {seg : SegmentConfig} (hs : validateHexSecret secret = .ok ())
    (hL : 0 ≤ cfg.hotpLookahead)
    (hclock : ClockInTolerance cfg.totpToleranceWindows [seg] nowMs now)
    (husable : seg.type = .hotp → isUsableHOTPDerivationCounter seg.storedCounter = true)
    (htext : key.slice seg.position.1 seg.position.2 =
      segmentText H secret (seg.input seg.storedCounter nowMs) seg.length) :
    ∃ matched, checkSegment H secret cfg now key seg = .ok (.checked true matched) := by
  cases ht : seg.type with
  | static =>
    have hvalue : deriveSegmentValue H secret seg now =
        .ok (segmentText H secret (staticInput seg.segmentId) seg.length) := by
      simp only [deriveSegmentValue, ht, toSecretBuf_ok hs]; rfl
    simp only [SegmentConfig.input, ht] at htext
    simp [checkSegment, ht, hvalue, htext, constantTimeEqual_refl]
  | totp =>
    simp only [SegmentConfig.input, ht] at htext
    have hmatch := matchWindow_hit hs htext (hclock seg (by simp) ht)
    simp [checkSegment, ht, hmatch]
  | hotp =>
    simp only [SegmentConfig.input, ht] at htext
    have hu := husable ht
    obtain ⟨h0, hlt⟩ := isUsable_iff.mp hu
    have hvalid : isValidHOTPStoredCounter seg.storedCounter = true :=
      isValid_iff.mpr ⟨h0, by omega⟩
    have hrounds : 0 < lookaheadRounds cfg.hotpLookahead seg.storedCounter := by
      simp only [lookaheadRounds]; omega
    have hreads : constantTimeEqual (key.slice seg.position.1 seg.position.2)
        (hotpText H secret seg seg.storedCounter) = true := htext ▸ constantTimeEqual_refl _
    have hmatch := matchCounter_hit hs hu hrounds hreads
    have hnot : ¬ TSK_MAX_HOTP_COUNTER ≤ seg.storedCounter := by omega
    simp [checkSegment, ht, hvalid, hnot, hmatch]

theorem scanSegments_ok {check : SegmentConfig → Except CoreError SegmentOutcome}
    {segments : List SegmentConfig} {start : SegmentScan} (hstart : start.allValid = true)
    (h : ∀ seg ∈ segments, ∃ matched, check seg = .ok (.checked true matched)) :
    ∃ final, scanSegments check start segments = .ok (.ok final) ∧ final.allValid = true := by
  induction segments generalizing start with
  | nil => exact ⟨start, rfl, hstart⟩
  | cons seg rest ih =>
    obtain ⟨matched, hmatched⟩ := h seg List.mem_cons_self
    have hpush : (start.push seg true matched).allValid = true := by simp [SegmentScan.push, hstart]
    obtain ⟨final, hfinal, hvalid⟩ := ih hpush (fun s hs => h s (List.mem_cons_of_mem _ hs))
    exact ⟨final, by simpa [scanSegments, hmatched] using hfinal, hvalid⟩

theorem Tiled.nonempty {start stop : Nat} {segments : List SegmentConfig}
    (h : Tiled start segments stop) : ∀ seg ∈ segments, seg.position.1 < seg.position.2 := by
  induction h with
  | nil => simp
  | cons hstart hlt _ ih =>
    intro seg hmem
    rcases List.mem_cons.mp hmem with rfl | hmem
    · omega
    · exact ih seg hmem

/-- The key limits of a configuration admit keys of this length. -/
structure ConfigAdmits (cfg : RequiredTSKConfig) (keyLength : Nat) : Prop where
  lookahead : isSafeInteger cfg.hotpLookahead = true ∧ 0 ≤ cfg.hotpLookahead
  length : cfg.minKeyLength ≤ keyLength ∧ keyLength ≤ cfg.maxKeyLength

/-- A key assembled by the client validates against a map at the same counters, when the two
clocks agree up to the tolerance. -/
theorem validateTSKKey_generated {config : TSKConfig} {cs : JsString → Int}
    (hl : GeneratedLayout map) (hcfg : ConfigAdmits config.resolve map.keyLength)
    (hclock : ClockInTolerance config.resolve.totpToleranceWindows map.segments nowMs now)
    (hcounters : ∀ seg ∈ map.segments, seg.type = .hotp → seg.storedCounter = cs seg.segmentId ∧
      isUsableHOTPDerivationCounter seg.storedCounter = true) :
    ∃ r, validateTSKKey H (keyText H map cs nowMs) map now config = .ok r ∧ r.ok = true := by
  obtain ⟨⟨hsafe, hL⟩, hmin, hmax⟩ := hcfg
  obtain ⟨hotp, hhotp, hhotpt⟩ := hl.some_hotp
  have hlen := length_keyText H cs nowMs hl
  have hchecked : ∀ seg ∈ map.segments, ∃ matched, checkSegment H map.sharedSecret config.resolve now
      (keyText H map cs nowMs) seg = .ok (.checked true matched) := by
    intro seg hmem
    have hclock' : ClockInTolerance config.resolve.totpToleranceWindows [seg] nowMs now :=
      fun s hs hst => by
        obtain rfl : s = seg := by simpa using hs
        exact hclock s hmem hst
    refine checkSegment_generated hl.secret hL hclock' (fun ht => (hcounters seg hmem ht).2) ?_
    rw [slice_keyText H cs nowMs hl hmem]
    by_cases ht : seg.type = .hotp
    · rw [(hcounters seg hmem ht).1]
    · cases hty : seg.type <;> simp_all [SegmentConfig.input]
  obtain ⟨final, hfinal, hvalid⟩ :
      ∃ final, scanSegments (checkSegment H map.sharedSecret config.resolve now
        (keyText H map cs nowMs)) {} map.segments = .ok (.ok final) ∧ final.allValid = true :=
    scanSegments_ok rfl hchecked
  simp only [validateTSKKey]
  rw [if_neg (by rw [hsafe]; simp; omega), if_neg (by
      simpa using List.ne_nil_of_mem hhotp), if_neg (by simpa using ⟨hotp, hhotp, hhotpt⟩),
    if_neg (by simpa using hl.tiled.nonempty), if_neg (by rw [hlen]; omega),
    if_neg (by rw [hlen]; simp)]
  simp only [slice_checksum H cs nowMs hl, slice_body H cs nowMs hl, computeChecksum_ok hl.secret, bind_ok,
    constantTimeEqual_refl, hfinal, hvalid]
  exact ⟨_, rfl, rfl⟩

end TskProtocol
