import Mathlib.Data.List.Sort
import TskProtocol.Core.Segment

namespace TskProtocol

def CHECKSUM_LENGTH : Nat := 12

def MAX_KEY_LENGTH : Nat := 512

/-- The array sort of the source is stable, as `mergeSort` is. -/
def sortedSegments (segments : List SegmentConfig) : List SegmentConfig :=
  segments.mergeSort (fun a b => a.position.1 ≤ b.position.1)

def SegmentConfig.toClient (seg : SegmentConfig) : ClientSegmentConfig where
  segmentId := seg.segmentId
  type := seg.type
  segmentLength := seg.length
  windowSec := if seg.type = .totp then seg.windowSec else none
  initialCounter := if seg.type = .hotp then some seg.storedCounter else none

def toProvisionPayload (map : TumblerMap) : TSKProvisionPayload where
  clientId := map.clientId
  clientSegments := (sortedSegments map.segments).map SegmentConfig.toClient
  keyLength := map.keyLength
  checksumLength := CHECKSUM_LENGTH
  createdAt := map.createdAt
  version := JsString.lit "1"

def checksumInput (data : JsString) : JsString := JsString.lit "checksum:" ++ data

def computeChecksum (H : HmacSha256) (sharedSecret keyWithoutChecksum : JsString) :
    Except CoreError JsString := do
  let full ← hmac H sharedSecret (checksumInput keyWithoutChecksum)
  return full.slice 0 CHECKSUM_LENGTH

def checksumText (H : HmacSha256) (sharedSecret data : JsString) (length : Nat) : JsString :=
  (H.digest (bufferFromHex sharedSecret) (checksumInput data)).slice 0 length

theorem hmac_ok {H : HmacSha256} {secret : JsString} (h : validateHexSecret secret = .ok ())
    (data : JsString) : hmac H secret data = .ok (H.digest (bufferFromHex secret) data) := by
  simp only [hmac, h]; rfl

theorem computeChecksum_ok {H : HmacSha256} {secret : JsString}
    (h : validateHexSecret secret = .ok ()) (data : JsString) :
    computeChecksum H secret data = .ok (checksumText H secret data CHECKSUM_LENGTH) := by
  simp only [computeChecksum, hmac_ok h]; rfl

/-- Any result of the checksum shows that the secret was a valid one. -/
theorem validateHexSecret_of_computeChecksum {H : HmacSha256} {secret data cs : JsString}
    (h : computeChecksum H secret data = .ok cs) : validateHexSecret secret = .ok () := by
  cases hv : validateHexSecret secret with
  | ok => rfl
  | error e => simp only [computeChecksum, hmac, hv] at h; cases h

end TskProtocol
