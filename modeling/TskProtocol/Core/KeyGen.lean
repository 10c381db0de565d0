import TskProtocol.Lib.OrderedMap
import TskProtocol.Core.TumblerMap

namespace TskProtocol

/-- The client's copy of the padding loop. -/
def padOrTruncateClient (H : HmacSha256) (secretBuf : List UInt8) (s : JsString) (length : Nat) :
    JsString := padOrTruncate H secretBuf s length

def computeChecksumChars (H : HmacSha256) (sharedSecret data : JsString) (len : Nat) :
    Except CoreError JsString := do
  let full ← hmac H sharedSecret (checksumInput data)
  return full.slice 0 len

def clientCounter (counters : OrderedMap JsString Int) (seg : ClientSegmentConfig) : Int :=
  (counters.get? seg.segmentId).getD (seg.initialCounter.getD 0)

def clientDerivationInput (counters : OrderedMap JsString Int) (nowMs : Int)
    (seg : ClientSegmentConfig) : Except CoreError JsString :=
  match seg.type with
  | .static => pure (staticInput seg.segmentId)
  | .totp => pure (totpInput seg.segmentId (WindowNumber.at nowMs (seg.windowSec.getD 60)))
  | .hotp => do
    assertUsableHOTPDerivationCounter (clientCounter counters seg) (counterLabel seg.segmentId)
    pure (hotpInput seg.segmentId (clientCounter counters seg))

/-- The loop that fills `parts`. -/
def clientParts (H : HmacSha256) (secretBuf : List UInt8) (counters : OrderedMap JsString Int)
    (nowMs : Int) : List ClientSegmentConfig → Except CoreError (List JsString)
  | [] => pure []
  | seg :: rest => do
    let derivationInput ← clientDerivationInput counters nowMs seg
    let value :=
      padOrTruncateClient H secretBuf (hmacRaw H secretBuf derivationInput) seg.segmentLength
    let parts ← clientParts H secretBuf counters nowMs rest
    return value :: parts

def generateKeyFromClientPayload (H : HmacSha256) (sharedSecret : JsString)
    (payload : TSKProvisionPayload) (counters : OrderedMap JsString Int) (nowMs : Int) :
    Except CoreError JsString := do
  validateHexSecret sharedSecret
  let parts ← clientParts H (bufferFromHex sharedSecret) counters nowMs payload.clientSegments
  let body := parts.flatten
  let checksum ← computeChecksumChars H sharedSecret body payload.checksumLength
  return body ++ checksum

/-- The segments lie end to end from `start` on, each of them non-empty. -/
inductive Tiled : Nat → List SegmentConfig → Nat → Prop
  | nil (stop : Nat) : Tiled stop [] stop
  | cons {start stop : Nat} {seg : SegmentConfig} {rest : List SegmentConfig} :
      seg.position.1 = start → start < seg.position.2 → Tiled seg.position.2 rest stop →
      Tiled start (seg :: rest) stop

/-- The layout `generateTumblerMap` builds: distinct segments in positional order that cover
the key up to its checksum. -/
structure GeneratedLayout (map : TumblerMap) : Prop where
  tiled : Tiled 0 map.segments map.checksum.1
  checksum : map.checksum.2 = map.checksum.1 + CHECKSUM_LENGTH
  keyLength : map.keyLength = map.checksum.2
  ids : (map.segments.map (·.segmentId)).Nodup
  some_hotp : ∃ seg ∈ map.segments, seg.type = .hotp
  secret : validateHexSecret map.sharedSecret = .ok ()
  named : map.clientId ≠ []
  bounded : map.keyLength ≤ MAX_KEY_LENGTH

/-- The derivation input of a segment at a counter and a time. -/
def SegmentConfig.input (seg : SegmentConfig) (counter : Int) (nowMs : Int) : JsString :=
  match seg.type with
  | .static => staticInput seg.segmentId
  | .totp => totpInput seg.segmentId (WindowNumber.at nowMs (seg.windowSec.getD 60))
  | .hotp => hotpInput seg.segmentId counter

/-- The text of every segment when the HOTP segments are at `counters`. -/
def segmentTexts (H : HmacSha256) (secret : JsString) (counters : JsString → Int) (nowMs : Int)
    (segments : List SegmentConfig) : List JsString :=
  segments.map (fun seg =>
    segmentText H secret (seg.input (counters seg.segmentId) nowMs) seg.length)

theorem Tiled.start_le {start stop : Nat} {segments : List SegmentConfig}
    (h : Tiled start segments stop) : ∀ seg ∈ segments, start ≤ seg.position.1 := by
  induction h with
  | nil => simp
  | cons hstart hlt _ ih =>
    intro seg hmem
    rcases List.mem_cons.mp hmem with rfl | hmem
    · exact hstart.ge
    · have := ih seg hmem
      omega

theorem Tiled.sorted {start stop : Nat} {segments : List SegmentConfig}
    (h : Tiled start segments stop) :
    segments.Pairwise (fun a b => a.position.1 ≤ b.position.1) := by
  induction h with
  | nil => exact .nil
  | cons hstart hlt hrest ih =>
    refine List.Pairwise.cons (fun seg hmem => ?_) ih
    have := hrest.start_le seg hmem
    omega

theorem Tiled.sortedSegments_eq {start stop : Nat} {segments : List SegmentConfig}
    (h : Tiled start segments stop) : sortedSegments segments = segments :=
  List.mergeSort_of_pairwise (h.sorted.imp (by simp))

theorem Tiled.le {start stop : Nat} {segments : List SegmentConfig}
    (h : Tiled start segments stop) : start ≤ stop := by
  induction h with
  | nil => exact le_rfl
  | cons hstart hlt _ ih => omega

theorem length_flatten_texts (H : HmacSha256) (secret : JsString) (counters : JsString → Int)
    (nowMs : Int) {start stop : Nat} {segments : List SegmentConfig}
    (h : Tiled start segments stop) :
    (segmentTexts H secret counters nowMs segments).flatten.length = stop - start := by
  induction h with
  | nil => simp [segmentTexts]
  | @cons start stop seg rest hstart hlt hrest ih =>
    have hle := hrest.le
    simp only [segmentTexts, List.map_cons, List.flatten_cons, List.length_append,
      length_segmentText] at ih ⊢
    rw [ih, SegmentConfig.length]
    omega

/-- Every segment finds its own text at its position. -/
theorem slice_flatten_texts (H : HmacSha256) (secret : JsString) (counters : JsString → Int)
    (nowMs : Int) {start stop : Nat} {segments : List SegmentConfig}
    (h : Tiled start segments stop) (front back : JsString) (hfront : front.length = start) :
    ∀ seg ∈ segments,
      (front ++ (segmentTexts H secret counters nowMs segments).flatten ++ back).slice
        seg.position.1 seg.position.2 =
      segmentText H secret (seg.input (counters seg.segmentId) nowMs) seg.length := by
  induction h generalizing front with
  | nil => simp
  | @cons start stop seg rest hstart hlt hrest ih =>
    intro s hmem
    have htext : (segmentText H secret (seg.input (counters seg.segmentId) nowMs) seg.length).length
        = seg.length := length_segmentText ..
    have hlen : front.length + seg.length = seg.position.2 := by
      simp only [SegmentConfig.length]; omega
    simp only [segmentTexts, List.map_cons, List.flatten_cons]
    rcases List.mem_cons.mp hmem with rfl | hmem
    · rw [JsString.slice, List.append_assoc, List.append_assoc, List.take_append,
        List.take_of_length_le (by omega), List.drop_append, List.drop_of_length_le (by omega),
        List.take_append, List.take_of_length_le (by omega)]
      have hdrop : s.position.1 - front.length = 0 := by omega
      have htake : s.position.2 - front.length -
          (segmentText H secret (s.input (counters s.segmentId) nowMs) s.length).length = 0 := by
        omega
      simp [hdrop, htake]
    · have happ := ih (front ++ segmentText H secret (seg.input (counters seg.segmentId) nowMs)
        seg.length) (by rw [List.length_append, htext]; exact hlen) s hmem
      simpa [segmentTexts, List.append_assoc] using happ

end TskProtocol
