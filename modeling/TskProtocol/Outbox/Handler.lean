import Mathlib.Data.Int.Log
import Mathlib.Data.Rat.Floor
import TskProtocol.Json.Parse
import TskProtocol.Outbox.Transport

namespace TskProtocol

def REQ_DOMAIN : JsString := JsString.lit "TSKv1-req"

/-- `KEY_ID_RE`. -/
def matchesKeyIdPattern (keyId : JsString) : Bool :=
  1 ≤ keyId.length && keyId.length ≤ 64 && keyId.all (fun c => isBase64Url c || c = 46)

/-- The nearest integer, and of two the even one. -/
def roundHalfEven (q : Rat) : Int :=
  if q - q.floor < 1 / 2 ∨ (q - q.floor = 1 / 2 ∧ q.floor % 2 = 0) then q.floor else q.floor + 1

/-- The nearest number of 53 significant bits, where the exponent is in range. -/
def nearestDouble (q : Rat) : Rat :=
  if q = 0 then 0
  else
    let exponent := max (Int.log 2 |q| - 52) (-1074)
    roundHalfEven (q / 2 ^ exponent) * 2 ^ exponent

namespace JsString

def digitsIn (base : Nat) (s : JsString) : Option Nat :=
  if s = [] then none
  else s.foldlM (fun n c => (hexValue c).bind fun d => if d < base then some (n * base + d) else none) 0

def signedDigits : JsString → Option Int
  | 43 :: digits => (digitsIn 10 digits).map Int.ofNat
  | 45 :: digits => (digitsIn 10 digits).map fun n => -Int.ofNat n
  | digits => (digitsIn 10 digits).map Int.ofNat

/-- The exact value of a decimal literal. -/
def unsignedDecimal (s : JsString) : Option Rat := do
  let whole := s.takeWhile isDecimalDigit
  let rest := s.dropWhile isDecimalDigit
  let fraction := if rest.head? = some 46 then rest.tail.takeWhile isDecimalDigit else []
  let digits ← digitsIn 10 (whole ++ fraction)
  let exponent ←
    match if rest.head? = some 46 then rest.tail.dropWhile isDecimalDigit else rest with
    | [] => some 0
    | c :: power => if c = 101 ∨ c = 69 then signedDigits power else none
  return digits * 10 ^ (exponent - fraction.length)

def numericLiteral : JsString → Option Rat
  | [] => some 0
  | 43 :: s => unsignedDecimal s
  | 45 :: s => (unsignedDecimal s).map fun value => -value
  | 48 :: c :: s =>
    if c = 120 ∨ c = 88 then (digitsIn 16 s).map Nat.cast
    else if c = 111 ∨ c = 79 then (digitsIn 8 s).map Nat.cast
    else if c = 98 ∨ c = 66 then (digitsIn 2 s).map Nat.cast
    else unsignedDecimal (48 :: c :: s)
  | s => unsignedDecimal s

/-- `Number(s)`, if that is a safe integer. -/
def toSafeInteger (s : JsString) : Option Int := do
  let value ← numericLiteral ((s.dropWhile isJsWhitespace).rdropWhile isJsWhitespace)
  let number := nearestDouble value
  if number.den = 1 ∧ isSafeInteger number.num then some number.num else none

example : ["1e3", " 0x10 ", "-7.50e1", "1.00000000000000000001", "9007199254740991.5", "1.5", "1e", ""].map
    (fun s => toSafeInteger (lit s)) =
    [some 1000, some 16, some (-75), some 1, none, none, none, some 0] := by decide +kernel

end JsString

/-- How the body of a request arrives. -/
inductive RequestBody
  | bytes (data : List UInt8)
  | timeout
  | failed

structure HttpRequest where
  method : JsString
  url : JsString
  contentType : Option JsString
  keyId : Option JsString
  ts : Option JsString
  nonce : Option JsString
  sig : Option JsString
  body : RequestBody

/-- A response of the receiver: its status, and the value that it is the canonical text of. -/
structure HttpReply where
  status : Nat
  payload : Json

def errorReply (status : Nat) (error : String) : HttpReply :=
  ⟨status, .obj [(JsString.lit "error", .str (JsString.lit error))]⟩

/-- What `posInt` lets through. -/
abbrev PosInt := { n : Int // isSafeInteger n = true ∧ 1 ≤ n }

/-- The two stores, with what each promises of its retention. -/
inductive ReplayNonceStore
  | memory (retentionMs : PosInt)
  | pg (retentionMs maxClockSkewMs : PosInt)

namespace ReplayNonceStore

def retentionMs : ReplayNonceStore → Int
  | .memory retentionMs => retentionMs
  | .pg retentionMs _ => retentionMs

def maxClockSkewMs : ReplayNonceStore → Int
  | .memory _ => 0
  | .pg _ maxClockSkewMs => maxClockSkewMs

end ReplayNonceStore

structure HttpOutboxReceiverOptions where
  expectedPath : JsString
  resolveRequestKey : JsString → Option (List UInt8)
  responseKeyId : JsString
  responseSecret : List UInt8
  nonceStore : ReplayNonceStore
  freshnessMs : PosInt
  nonceSafetyMs : PosInt
  maxBodyBytes : PosInt

/-- Options that `createHttpOutboxReceiver` does not throw on. -/
structure HttpOutboxReceiver extends HttpOutboxReceiverOptions where
  path_absolute : expectedPath.head? = some 47
  responseKeyId_valid : matchesKeyIdPattern responseKeyId = true
  responseSecret_long : 32 ≤ responseSecret.length
  /-- A nonce outlives every moment at which its request is fresh. -/
  horizon : 2 * freshnessMs.1 + nonceSafetyMs.1 ≤ nonceStore.retentionMs - 2 * nonceStore.maxClockSkewMs

def createHttpOutboxReceiver (opts : HttpOutboxReceiverOptions) : Option HttpOutboxReceiver :=
  if h : opts.expectedPath.head? = some 47 ∧ matchesKeyIdPattern opts.responseKeyId ∧
      32 ≤ opts.responseSecret.length ∧
      2 * opts.freshnessMs.1 + opts.nonceSafetyMs.1 ≤
        opts.nonceStore.retentionMs - 2 * opts.nonceStore.maxClockSkewMs then
    some ⟨opts, h.1, h.2.1, h.2.2.1, h.2.2.2⟩
  else none

/-- A request whose signature and timestamp the receiver has accepted. -/
structure SignedRequest where
  keyId : JsString
  url : JsString
  ts : JsString
  /-- `Number(ts)`. -/
  time : Int
  nonce : JsString
  body : List UInt8
  bodyDigest : JsString
  deriving DecidableEq

def readBodyCapped (maxBodyBytes : Int) : RequestBody → Except HttpReply (List UInt8)
  | .bytes data => do
    require (data.length ≤ maxBodyBytes) (errorReply 413 "body read failed")
    return data
  | .timeout => .error (errorReply 408 "body read failed")
  | .failed => .error (errorReply 413 "body read failed")

/-- What the request MAC is taken over. -/
def requestFrame (keyId url ts nonce bodyDigest : JsString) : List UInt8 :=
  framed [REQ_DOMAIN, keyId, JsString.lit "POST", url, ts, nonce, bodyDigest]

/-- The handler up to the nonce store; `now` is the clock at the check of the timestamp. -/
def authenticate (H : HmacBytes) (D : Sha256Bytes) (receiver : HttpOutboxReceiver) (now : Int)
    (req : HttpRequest) : Except HttpReply SignedRequest := do
  require (req.method = JsString.lit "POST") (errorReply 405 "method not allowed")
  require (req.url = receiver.expectedPath) (errorReply 404 "not found")
  require (isJsonMime req.contentType) (errorReply 415 "unsupported media type")
  let body ← readBodyCapped receiver.maxBodyBytes req.body
  let keyId ← orThrow req.keyId (errorReply 401 "unauthenticated")
  let ts ← orThrow req.ts (errorReply 401 "unauthenticated")
  let nonce ← orThrow req.nonce (errorReply 401 "unauthenticated")
  let sig ← orThrow req.sig (errorReply 401 "unauthenticated")
  require (ts ≠ [] ∧ sig ≠ [] ∧ matchesKeyIdPattern keyId ∧ matchesNoncePattern nonce)
    (errorReply 401 "unauthenticated")
  let secret ← orThrow (receiver.resolveRequestKey keyId) (errorReply 401 "unknown key")
  require (32 ≤ secret.length) (errorReply 500 "ingest failed")
  let time ← orThrow ts.toSafeInteger (errorReply 401 "stale or invalid timestamp")
  require (|now - time| ≤ receiver.freshnessMs.1) (errorReply 401 "stale or invalid timestamp")
  let bodyDigest := D.hex body
  require (Base64Url.decode sig = H.mac secret (requestFrame keyId req.url ts nonce bodyDigest))
    (errorReply 401 "bad signature")
  return ⟨keyId, req.url, ts, time, nonce, body, bodyDigest⟩

theorem authenticate_timed {H : HmacBytes} {D : Sha256Bytes} {receiver : HttpOutboxReceiver} {now : Int}
    {req : HttpRequest} {signed : SignedRequest} (h : authenticate H D receiver now req = .ok signed) :
    signed.ts.toSafeInteger = some signed.time ∧ |now - signed.time| ≤ receiver.freshnessMs.1 := by
  simp only [authenticate, bind_eq_ok, require_eq_ok, orThrow_eq_ok, pure_eq_ok, Except.ok.injEq] at h
  obtain ⟨_, -, _, -, _, -, body, -, keyId, -, ts, -, nonce, -, sig, -, _, -, secret, -, _, -, time, htime,
    _, hfresh, _, -, rfl⟩ := h
  exact ⟨htime, hfresh⟩

namespace Json

/-- The members of a record that `assertStreamHeadBinds` reads. -/
def toBoundHeader (record : Json) : Option OutboxRecordHeader := do
  let streamId ← record.strField "streamId"
  let sequence ← record.numField "sequence"
  let opDigest ← record.strField "opDigest"
  return ⟨[], streamId, [], sequence, [], opDigest⟩

/-- The members of a head that `assertStreamHeadBinds` reads. -/
def toBoundHead (head : Json) : Option SignedStreamHead := do
  let streamId ← head.strField "streamId"
  let sequence ← head.numField "sequence"
  let prevHeadDigest ← head.strField "prevHeadDigest"
  let opDigest ← head.strField "opDigest"
  let keyId ← head.strField "keyId"
  let alg ← head.strField "alg"
  let headDigest ← head.strField "headDigest"
  return ⟨streamId, sequence, prevHeadDigest, opDigest, keyId, alg, headDigest, []⟩

end Json

/-- The record and the head that the body holds. -/
def readDelivery (D : Sha256Bytes) (body : List UInt8) : Except HttpReply (Json × Json) := do
  let parsed ← orThrow (Json.parse (JsString.decodeUtf8 body)) (errorReply 400 "invalid json")
  let record ← orThrow (parsed.field "record") (errorReply 400 "invalid envelope")
  let head ← orThrow (parsed.field "head") (errorReply 400 "invalid envelope")
  require (record.isObject ∧ head.isObject) (errorReply 400 "invalid envelope")
  let header ← orThrow record.toBoundHeader (errorReply 400 "head does not bind record")
  let bound ← orThrow head.toBoundHead (errorReply 400 "head does not bind record")
  require (assertStreamHeadBinds D header bound = .ok ()) (errorReply 400 "head does not bind record")
  return (record, head)

/-- What the reply MAC is taken over. -/
def receiptFrame (keyId challenge requestDigest path canonical : JsString) : List UInt8 :=
  framed [ACK_DOMAIN, keyId, challenge, requestDigest, path, canonical]

/-- A receipt that went out, with the request it answers and what was received. -/
structure Acknowledgement where
  receiver : HttpOutboxReceiver
  request : SignedRequest
  record : Json
  head : Json
  receipt : TskAckReceipt
  canonical : JsString

namespace Acknowledgement

def sig (H : HmacBytes) (ack : Acknowledgement) : JsString :=
  Base64Url.encode (H.mac ack.receiver.responseSecret (receiptFrame ack.receiver.responseKeyId
    ack.request.nonce ack.request.bodyDigest ack.request.url ack.canonical))

def envelope (H : HmacBytes) (ack : Acknowledgement) : Json :=
  .obj [(JsString.lit "v", .str ACK_DOMAIN), (JsString.lit "keyId", .str ack.receiver.responseKeyId),
    (JsString.lit "challenge", .str ack.request.nonce),
    (JsString.lit "requestDigest", .str ack.request.bodyDigest),
    (JsString.lit "receipt", .ofReceipt ack.receipt), (JsString.lit "sig", .str (ack.sig H))]

end Acknowledgement

/-- The handler: `fresh` is the answer of the nonce store, `receive` the receipt that `opts.receive`
returns for the record and the head, if it does not throw. -/
def HttpOutboxReceiver.handle (H : HmacBytes) (D : Sha256Bytes) (receiver : HttpOutboxReceiver) (now : Int)
    (req : HttpRequest) (fresh : Bool) (receive : Json → Json → Option TskAckReceipt) :
    Except HttpReply Acknowledgement := do
  let request ← authenticate H D receiver now req
  require fresh (errorReply 401 "replay")
  let (record, head) ← readDelivery D request.body
  let receipt ← orThrow (receive record head) (errorReply 500 "ingest failed")
  let canonical ← orThrow (canonicalize (.ofReceipt receipt)) (errorReply 500 "ingest failed")
  let ack : Acknowledgement := ⟨receiver, request, record, head, receipt, canonical⟩
  require ((canonicalize (ack.envelope H)).isSome) (errorReply 500 "ingest failed")
  return ack

end TskProtocol
