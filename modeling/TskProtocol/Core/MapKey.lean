import TskProtocol.Core.Agreement

namespace TskProtocol

/-- `keyBuffer`; `none` is a hole, which `join` leaves out. -/
abbrev KeyBuffer := List (Option UInt16)

/-- An assignment to an index, which may lie behind the end. -/
def KeyBuffer.writeAt (keyBuffer : KeyBuffer) (i : Nat) (c : UInt16) : KeyBuffer :=
  if i < keyBuffer.length then keyBuffer.set i (some c)
  else keyBuffer ++ List.replicate (i - keyBuffer.length) none ++ [some c]

def KeyBuffer.writeChars (keyBuffer : KeyBuffer) (start : Nat) : JsString → KeyBuffer
  | [] => keyBuffer
  | c :: cs => KeyBuffer.writeChars (keyBuffer.writeAt start c) (start + 1) cs

def KeyBuffer.join (keyBuffer : KeyBuffer) : JsString := keyBuffer.filterMap id

/-- The characters that a segment writes; `A` stands for what its value lacks. -/
def segmentChars (value : JsString) (length : Nat) : JsString :=
  (List.range length).map (fun i => (value[i]?).getD 65)

/-- The loop over the segments. -/
def writeSegments (H : HmacSha256) (sharedSecret : JsString) (nowMs : Int) :
    KeyBuffer → List SegmentConfig → Except CoreError KeyBuffer
  | keyBuffer, [] => .ok keyBuffer
  | keyBuffer, seg :: rest => do
    let value ← deriveSegmentValue H sharedSecret seg nowMs
    writeSegments H sharedSecret nowMs
      (keyBuffer.writeChars seg.position.1 (segmentChars value seg.length)) rest

/-- `full.slice(0, len)`, where a negative `len` counts from the end. -/
def computeChecksumCharsTo (H : HmacSha256) (sharedSecret data : JsString) (len : Int) :
    Except CoreError JsString := do
  let full ← hmac H sharedSecret (checksumInput data)
  return full.slice 0 (if 0 ≤ len then len else full.length + len).toNat

def generateKeyFromMap (H : HmacSha256) (map : TumblerMap) (nowMs : Int) :
    Except CoreError JsString := do
  let keyBuffer ← writeSegments H map.sharedSecret nowMs (List.replicate map.keyLength (some 0))
    map.segments
  let withoutChecksum := KeyBuffer.join (keyBuffer.take map.checksum.1)
  let checksum ← computeChecksumCharsTo H map.sharedSecret withoutChecksum
    (map.checksum.2 - map.checksum.1)
  return (keyBuffer.writeChars map.checksum.1 checksum).join

/-- The segments of a map cover its key, in whatever order they are listed, up to a checksum. -/
structure TiledKey (map : TumblerMap) : Prop where
  tiled : Tiled 0 (sortedSegments map.segments) map.checksum.1
  checksum : map.checksum.2 = map.checksum.1 + CHECKSUM_LENGTH
  keyLength : map.keyLength = map.checksum.2
  ids : (map.segments.map (·.segmentId)).Nodup
  some_hotp : ∃ seg ∈ map.segments, seg.type = .hotp

variable {H : HmacSha256} {secret : JsString} {nowMs : Int} {map : TumblerMap}

section Buffer

variable {keyBuffer : KeyBuffer} {text cs : JsString} {start : Nat}

theorem KeyBuffer.writeChars_eq (h : start + cs.length ≤ keyBuffer.length) :
    keyBuffer.writeChars start cs =
      keyBuffer.take start ++ cs.map some ++ keyBuffer.drop (start + cs.length) := by
  induction cs generalizing keyBuffer start with
  | nil => simp [writeChars]
  | cons c cs ih =>
    rw [List.length_cons] at h
    have hlt : start < keyBuffer.length := by omega
    rw [writeChars, writeAt, if_pos hlt, ih (by rw [List.length_set]; omega),
      List.take_succ_eq_append_getElem (by rw [List.length_set]; exact hlt), List.getElem_set_self,
      List.take_set_of_le le_rfl, List.drop_set_of_lt (by omega)]
    simp [Nat.add_assoc, Nat.add_comm 1]

theorem KeyBuffer.length_writeChars (h : start + cs.length ≤ keyBuffer.length) :
    (keyBuffer.writeChars start cs).length = keyBuffer.length := by
  rw [writeChars_eq h]
  simp only [List.length_append, List.length_take, List.length_map, List.length_drop]
  omega

/-- A part of `text` that is written in its place. -/
theorem KeyBuffer.getElem?_writeChars (hcs : cs = text.slice start (start + cs.length))
    (hlen : start + cs.length ≤ text.length) (h : text.length ≤ keyBuffer.length) (p : Nat) :
    (keyBuffer.writeChars start cs)[p]? =
      if start ≤ p ∧ p < start + cs.length then text[p]?.map some else keyBuffer[p]? := by
  have htake : (keyBuffer.take start).length = start := by
    rw [List.length_take]
    omega
  rw [writeChars_eq (hlen.trans h), List.append_assoc]
  rcases Nat.lt_or_ge p start with hlt | hge
  · rw [List.getElem?_append_left (by rw [htake]; exact hlt), List.getElem?_take_of_lt hlt,
      if_neg (by omega)]
  · rw [List.getElem?_append_right (by rw [htake]; exact hge), htake]
    rcases Nat.lt_or_ge p (start + cs.length) with hin | hout
    · rw [List.getElem?_append_left (by rw [List.length_map]; omega), if_pos ⟨hge, hin⟩,
        List.getElem?_map]
      congr 1
      rw [hcs, JsString.slice, List.getElem?_drop, List.getElem?_take_of_lt (by omega)]
      congr 1
      omega
    · rw [List.getElem?_append_right (by rw [List.length_map]; exact by omega), List.length_map,
        List.getElem?_drop, if_neg (by omega)]
      congr 1
      omega

theorem KeyBuffer.join_map (text : JsString) : KeyBuffer.join (text.map some) = text := by
  simp [join, List.filterMap_map]

theorem segmentChars_eq (value : JsString) : segmentChars value value.length = value := by
  refine List.ext_getElem (by simp [segmentChars]) fun i hi hi' => ?_
  simp [segmentChars, List.getElem?_eq_getElem hi']

end Buffer

/-- Every position of the key lies in a segment. -/
theorem Tiled.covers {start stop p : Nat} {segments : List SegmentConfig}
    (h : Tiled start segments stop) (hstart : start ≤ p) (hstop : p < stop) :
    ∃ seg ∈ segments, seg.position.1 ≤ p ∧ p < seg.position.2 := by
  induction h with
  | nil => omega
  | @cons start stop seg rest hpos hlt hrest ih =>
    rcases Nat.lt_or_ge p seg.position.2 with hin | hout
    · exact ⟨seg, List.mem_cons_self, by omega, hin⟩
    · obtain ⟨s, hs, hcover⟩ := ih hout hstop
      exact ⟨s, List.mem_cons_of_mem _ hs, hcover⟩

theorem Tiled.le_stop {start stop : Nat} {segments : List SegmentConfig}
    (h : Tiled start segments stop) : ∀ seg ∈ segments, seg.position.2 ≤ stop := by
  induction h with
  | nil => simp
  | cons hstart hlt hrest ih =>
    intro s hmem
    rcases List.mem_cons.mp hmem with rfl | hmem
    · exact hrest.le
    · exact ih s hmem

theorem deriveSegmentValue_ok {seg : SegmentConfig} (hs : validateHexSecret secret = .ok ())
    (nowMs : Int)
    (husable : seg.type = .hotp → isUsableHOTPDerivationCounter seg.storedCounter = true) :
    deriveSegmentValue H secret seg nowMs =
      .ok (segmentText H secret (seg.input seg.storedCounter nowMs) seg.length) := by
  cases ht : seg.type with
  | static =>
    simp only [deriveSegmentValue, ht, toSecretBuf_ok hs, SegmentConfig.input]
    rfl
  | totp =>
    simp only [deriveSegmentValue, ht, toSecretBuf_ok hs, SegmentConfig.input]
    rfl
  | hotp =>
    simp only [deriveSegmentValue, ht, toSecretBuf_ok hs, SegmentConfig.input,
      assertUsable_ok (husable ht)]
    rfl

/-- A segment whose value stands in `text` at its place. -/
structure StandsIn (H : HmacSha256) (secret text : JsString) (nowMs : Int) (seg : SegmentConfig) :
    Prop where
  usable : seg.type = .hotp → isUsableHOTPDerivationCounter seg.storedCounter = true
  nonempty : seg.position.1 < seg.position.2
  fits : seg.position.2 ≤ text.length
  slice : text.slice seg.position.1 seg.position.2 =
    segmentText H secret (seg.input seg.storedCounter nowMs) seg.length

/-- Each segment writes its part of `text`, and none of them undoes another's. -/
theorem writeSegments_ok {keyBuffer : KeyBuffer} {text : JsString} {segments : List SegmentConfig}
    (hs : validateHexSecret secret = .ok ()) (hlen : text.length ≤ keyBuffer.length)
    (h : ∀ seg ∈ segments, StandsIn H secret text nowMs seg) :
    ∃ out, writeSegments H secret nowMs keyBuffer segments = .ok out ∧
      out.length = keyBuffer.length ∧
      ∀ p, keyBuffer[p]? = text[p]?.map some ∨
        (∃ seg ∈ segments, seg.position.1 ≤ p ∧ p < seg.position.2) → out[p]? = text[p]?.map some := by
  induction segments generalizing keyBuffer with
  | nil => exact ⟨keyBuffer, rfl, rfl, by simp⟩
  | cons seg rest ih =>
    have hseg := h seg List.mem_cons_self
    have hne := hseg.nonempty
    have hfits := hseg.fits
    have hvalue := length_segmentText H secret (seg.input seg.storedCounter nowMs) seg.length
    have hchars := segmentChars_eq (segmentText H secret (seg.input seg.storedCounter nowMs) seg.length)
    rw [hvalue] at hchars
    have hstop : seg.position.1 + seg.length = seg.position.2 := by
      rw [SegmentConfig.length]
      omega
    have hwritten := KeyBuffer.getElem?_writeChars
      (show segmentText H secret (seg.input seg.storedCounter nowMs) seg.length = text.slice _ _ by
        rw [hvalue, hstop, hseg.slice])
      (by rw [hvalue, hstop]; exact hfits) hlen
    have hlength : (keyBuffer.writeChars seg.position.1
        (segmentText H secret (seg.input seg.storedCounter nowMs) seg.length)).length =
        keyBuffer.length := KeyBuffer.length_writeChars (by rw [hvalue, hstop]; omega)
    rw [hvalue, hstop] at hwritten
    obtain ⟨out, hout, houtlen, hagree⟩ := ih (by rw [hlength]; exact hlen)
      (fun s hmem => h s (List.mem_cons_of_mem _ hmem))
    refine ⟨out, ?_, houtlen.trans hlength, fun p hp => hagree p ?_⟩
    · simp only [writeSegments, deriveSegmentValue_ok hs nowMs hseg.usable, bind_ok, hchars]
      exact hout
    · rw [hwritten]
      split_ifs with hin
      · exact .inl rfl
      · rcases hp with hp | ⟨s, hmem, hcover⟩
        · exact .inl hp
        · rcases List.mem_cons.mp hmem with rfl | hmem
          · exact absurd hcover hin
          · exact .inr ⟨s, hmem, hcover⟩

theorem computeChecksumCharsTo_ok (hs : validateHexSecret secret = .ok ()) (data : JsString) (n : Nat) :
    computeChecksumCharsTo H secret data n = .ok (checksumText H secret data n) := by
  simp only [computeChecksumCharsTo, hmac_ok hs, bind_ok, Int.natCast_nonneg, if_true, Int.toNat_natCast]
  rfl

/-- The map with its segments in the order of their positions. -/
def TumblerMap.inOrder (map : TumblerMap) : TumblerMap :=
  { map with segments := sortedSegments map.segments }

@[simp] theorem TumblerMap.inOrder_sharedSecret (map : TumblerMap) :
    map.inOrder.sharedSecret = map.sharedSecret := rfl

@[simp] theorem TumblerMap.inOrder_segments (map : TumblerMap) :
    map.inOrder.segments = sortedSegments map.segments := rfl

theorem mem_inOrder {seg : SegmentConfig} : seg ∈ map.inOrder.segments ↔ seg ∈ map.segments :=
  List.mem_mergeSort

namespace TiledKey

variable {cs : JsString → Int}

theorem length_body (hl : TiledKey map) (H : HmacSha256) (nowMs : Int) (cs : JsString → Int) :
    (keyBody H map.inOrder cs nowMs).length = map.checksum.1 := by
  simpa [keyBody] using length_flatten_texts H map.sharedSecret cs nowMs hl.tiled

theorem slice_body (hl : TiledKey map) (H : HmacSha256) (nowMs : Int) (cs : JsString → Int)
    {seg : SegmentConfig} (hmem : seg ∈ map.segments) (back : JsString) :
    (keyBody H map.inOrder cs nowMs ++ back).slice seg.position.1 seg.position.2 =
      segmentText H map.sharedSecret (seg.input (cs seg.segmentId) nowMs) seg.length := by
  simpa [keyBody] using slice_flatten_texts H map.sharedSecret cs nowMs hl.tiled [] back rfl seg
    (mem_inOrder.mpr hmem)

theorem generateKeyFromMap_ok (hl : TiledKey map) (hs : validateHexSecret map.sharedSecret = .ok ())
    (h : ∀ seg ∈ map.segments, seg.type = .hotp → seg.storedCounter = cs seg.segmentId ∧
      isUsableHOTPDerivationCounter seg.storedCounter = true) :
    generateKeyFromMap H map nowMs = .ok (keyText H map.inOrder cs nowMs) := by
  have hlen := hl.length_body H nowMs cs
  have hstands : ∀ seg ∈ map.segments,
      StandsIn H map.sharedSecret (keyBody H map.inOrder cs nowMs) nowMs seg := by
    intro seg hmem
    refine ⟨fun ht => (h seg hmem ht).2, hl.tiled.nonempty seg (mem_inOrder.mpr hmem), ?_, ?_⟩
    · rw [hlen]
      exact hl.tiled.le_stop seg (mem_inOrder.mpr hmem)
    · have hslice := hl.slice_body H nowMs cs hmem []
      rw [List.append_nil] at hslice
      rw [hslice]
      cases ht : seg.type with
      | static => simp [SegmentConfig.input, ht]
      | totp => simp [SegmentConfig.input, ht]
      | hotp => rw [(h seg hmem ht).1]
  have hkey : map.keyLength = map.checksum.1 + CHECKSUM_LENGTH := hl.keyLength.trans hl.checksum
  obtain ⟨out, hout, houtlen, hagree⟩ := writeSegments_ok hs
    (show _ ≤ (List.replicate map.keyLength (some (0 : UInt16))).length by
      rw [hlen, List.length_replicate]
      omega) hstands
  rw [List.length_replicate] at houtlen
  have hbody : out.take map.checksum.1 = (keyBody H map.inOrder cs nowMs).map some := by
    apply List.ext_getElem?
    intro p
    rcases Nat.lt_or_ge p map.checksum.1 with hp | hp
    · obtain ⟨seg, hmem, hcover⟩ := hl.tiled.covers (Nat.zero_le p) hp
      rw [List.getElem?_take_of_lt hp, List.getElem?_map,
        hagree p (.inr ⟨seg, mem_inOrder.mp hmem, hcover⟩)]
    · rw [List.getElem?_eq_none (by rw [List.length_take]; omega),
        List.getElem?_eq_none (by rw [List.length_map, hlen]; exact hp)]
  have hdiff : (map.checksum.2 : Int) - map.checksum.1 = (CHECKSUM_LENGTH : Nat) := by
    rw [hl.checksum]
    push_cast
    omega
  have hcs := length_checksumText H map.sharedSecret (keyBody H map.inOrder cs nowMs)
  simp only [generateKeyFromMap, hout, bind_ok, hbody, KeyBuffer.join_map, hdiff,
    computeChecksumCharsTo_ok hs, pure_eq_ok, Except.ok.injEq]
  rw [KeyBuffer.writeChars_eq (by rw [hcs, houtlen, hkey]), hcs, List.drop_of_length_le (by omega), hbody,
    List.append_nil, ← List.map_append, KeyBuffer.join_map]
  rfl

end TiledKey

end TskProtocol
