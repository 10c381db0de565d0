import TskProtocol.Core.KeyGen
import TskProtocol.Server.Middleware

namespace TskProtocol

structure TSKClient where
  clientId : JsString
  payload : TSKProvisionPayload
  sharedSecret : JsString
  counters : OrderedMap JsString Int

/-- The counter loop of `init`; `loadCounter` is the storage's answer. -/
def initCounters (loadCounter : JsString → Option Int) (counters : OrderedMap JsString Int) :
    List ClientSegmentConfig → Except CoreError (OrderedMap JsString Int)
  | [] => pure counters
  | seg :: rest =>
    if seg.type = .hotp then do
      let counter := (loadCounter seg.segmentId).getD (seg.initialCounter.getD 0)
      assertValidHOTPStoredCounter counter (counterLabel seg.segmentId)
      initCounters loadCounter (counters.set seg.segmentId counter) rest
    else initCounters loadCounter counters rest

def TSKClient.init (payload : TSKProvisionPayload) (sharedSecret : JsString)
    (loadCounter : JsString → Option Int) : Except CoreError TSKClient := do
  let counters ← initCounters loadCounter ∅ payload.clientSegments
  return ⟨payload.clientId, payload, sharedSecret, counters⟩

def assertUsableCounters (counters : OrderedMap JsString Int) :
    List ClientSegmentConfig → Except CoreError Unit
  | [] => pure ()
  | seg :: rest => do
    if seg.type = .hotp then
      assertUsableHOTPDerivationCounter (clientCounter counters seg) (counterLabel seg.segmentId)
    assertUsableCounters counters rest

def requestHeaders (clientId key : JsString) : TSKRequestData where
  headers := (((∅ : OrderedMap JsString HeaderValue).set TSK_HEADERS.CLIENT_ID
    (.single clientId)).set TSK_HEADERS.KEY (.single key)).set TSK_HEADERS.VERSION
      (.single TSK_PROTOCOL_VERSION)

/-- The headers, and the snapshot the commit function closes over. -/
def TSKClient.generateHeaders (H : HmacSha256) (client : TSKClient) (nowMs : Int) :
    Except CoreError (TSKRequestData × OrderedMap JsString Int) := do
  let snapshotCounters := client.counters
  assertUsableCounters snapshotCounters client.payload.clientSegments
  let key ← generateKeyFromClientPayload H client.sharedSecret client.payload snapshotCounters nowMs
  return (requestHeaders client.clientId key, snapshotCounters)

def nextCounterLabel (segmentId : JsString) : JsString :=
  JsString.lit "next HOTP counter for " ++ segmentId

/-- The first loop of `commitHOTPCounters`. -/
def nextCounters (snapshot : OrderedMap JsString Int) (next : OrderedMap JsString Int) :
    List ClientSegmentConfig → Except CoreError (OrderedMap JsString Int)
  | [] => pure next
  | seg :: rest =>
    if seg.type = .hotp then do
      let current := (snapshot.get? seg.segmentId).getD 0
      assertUsableHOTPDerivationCounter current (counterLabel seg.segmentId)
      assertValidHOTPStoredCounter (current + 1) (nextCounterLabel seg.segmentId)
      nextCounters snapshot (next.set seg.segmentId (current + 1)) rest
    else nextCounters snapshot next rest

/-- The loop that copies the saved counters into the client. -/
def adoptCounters (counters : OrderedMap JsString Int) :
    List (JsString × Int) → OrderedMap JsString Int
  | [] => counters
  | (segmentId, counter) :: rest => adoptCounters (counters.set segmentId counter) rest

/-- The commit function; `saved` says whether `saveCounters` resolved.  No client comes back
where the returned promise rejects. -/
def TSKClient.commitHOTPCounters (client : TSKClient) (snapshot : OrderedMap JsString Int)
    (saved : Bool) : Option TSKClient :=
  match nextCounters snapshot ∅ client.payload.clientSegments with
  | .error _ => none
  | .ok next =>
    if saved then some { client with counters := adoptCounters client.counters next.entries }
    else none

end TskProtocol
