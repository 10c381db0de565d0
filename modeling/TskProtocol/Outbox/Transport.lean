import Mathlib.Data.List.DropRight
import Mathlib.Data.Rat.Defs
import TskProtocol.Lib.Base64Url
import TskProtocol.Outbox.Delivery

namespace TskProtocol

def ACK_DOMAIN : JsString := JsString.lit "TSKv1-ack"
def CONTENT_TYPE : JsString := JsString.lit "application/json"
def CANON_MAX_TOTAL_BYTES : Nat := 1048576

def RECEIPT_KEYS : List String :=
  ["streamId", "sourceEpoch", "sequence", "opDigest", "decision", "receiverId", "keyId", "issuedAt",
    "signature"]

def ENVELOPE_KEYS : List String := ["v", "keyId", "challenge", "requestDigest", "receipt", "sig"]

/-- The platform's HMAC-SHA-256 over bytes. -/
structure HmacBytes where
  mac : List UInt8 → List UInt8 → List UInt8
  length_mac : ∀ secret data, (mac secret data).length = 32

/-- A stand-in for HMAC on concrete data: the checksum of the secret and the data. -/
def rollingHmac : HmacBytes where
  mac secret data := ((rollingSha256.hex (secret ++ data)).take 32).map (fun c => UInt8.ofNat c.toNat)
  length_mac secret data := by simp [rollingSha256.length_hex]

/-- No other lower case mapping leads to a letter of `CONTENT_TYPE`. -/
def isJsonMime : Option JsString → Bool
  | none => false
  | some ct =>
    (((ct.takeWhile (· ≠ 59)).dropWhile isJsWhitespace).rdropWhile isJsWhitespace).map
      toLowerAscii = CONTENT_TYPE

/-- `NONCE_RE`. -/
def matchesNoncePattern (nonce : JsString) : Bool :=
  16 ≤ nonce.length && nonce.length ≤ 128 && nonce.all isBase64Url

def isCanonicalText (s : JsString) : Bool :=
  !s.hasLoneSurrogate && s.utf8.length ≤ CANON_MAX_STRING_BYTES

mutual

/-- A value whose texts and numbers `canonicalize` takes. -/
def Json.isCanonical : Json → Bool
  | .null => true
  | .bool _ => true
  | .num n => isSafeInteger n
  | .dec _ => false
  | .str s => isCanonicalText s
  | .arr items => Json.areCanonical items
  | .obj members => Json.haveCanonical members

def Json.areCanonical : List Json → Bool
  | [] => true
  | item :: rest => item.isCanonical && Json.areCanonical rest

def Json.haveCanonical : List (JsString × Json) → Bool
  | [] => true
  | (key, value) :: rest => isCanonicalText key && value.isCanonical && Json.haveCanonical rest

end

/-- `canonicalize` of a value with few nodes. -/
def canonicalize (value : Json) : Option JsString :=
  if value.isCanonical && value.canonical.utf8.length ≤ CANON_MAX_TOTAL_BYTES then
    some value.canonical
  else none

namespace Json

def ofOutboxRecord (record : OutboxRecord) : Json := .obj
  [(JsString.lit "contractVersion", .str record.contractVersion),
    (JsString.lit "streamId", .str record.streamId),
    (JsString.lit "sourceEpoch", .str record.sourceEpoch),
    (JsString.lit "sequence", .num record.sequence),
    (JsString.lit "fenceToken", .str record.fenceToken),
    (JsString.lit "opDigest", .str record.opDigest),
    (JsString.lit "mutation", .ofHotpMutation record.mutation)]

def ofStreamHead (head : SignedStreamHead) : Json := .obj
  [(JsString.lit "streamId", .str head.streamId), (JsString.lit "sequence", .num head.sequence),
    (JsString.lit "prevHeadDigest", .str head.prevHeadDigest),
    (JsString.lit "opDigest", .str head.opDigest), (JsString.lit "keyId", .str head.keyId),
    (JsString.lit "alg", .str head.alg), (JsString.lit "headDigest", .str head.headDigest),
    (JsString.lit "signature", .str head.signature)]

def ofDelivery (record : OutboxRecord) (head : SignedStreamHead) : Json := .obj
  [(JsString.lit "record", ofOutboxRecord record), (JsString.lit "head", ofStreamHead head)]

def ofReceipt (receipt : TskAckReceipt) : Json := .obj
  [(JsString.lit "streamId", .str receipt.streamId),
    (JsString.lit "sourceEpoch", .str receipt.sourceEpoch),
    (JsString.lit "sequence", .num receipt.sequence), (JsString.lit "opDigest", .str receipt.opDigest),
    (JsString.lit "decision", .str receipt.decision),
    (JsString.lit "receiverId", .str receipt.receiverId), (JsString.lit "keyId", .str receipt.keyId),
    (JsString.lit "issuedAt", .str receipt.issuedAt), (JsString.lit "signature", .str receipt.signature)]

/-- An object with these keys and no others. -/
def hasExactKeys (value : Json) (keys : List String) : Bool :=
  match value with
  | .obj members => members.length = keys.length && keys.all (fun key => (value.field key).isSome)
  | _ => false

end Json

def strictReceipt (value : Json) : Option TskAckReceipt := do
  guard (value.hasExactKeys RECEIPT_KEYS)
  let streamId ← value.strField "streamId"
  let sourceEpoch ← value.strField "sourceEpoch"
  let sequence ← value.numField "sequence"
  let opDigest ← value.strField "opDigest"
  let decision ← value.strField "decision"
  let receiverId ← value.strField "receiverId"
  let keyId ← value.strField "keyId"
  let issuedAt ← value.strField "issuedAt"
  let signature ← value.strField "signature"
  return ⟨streamId, sourceEpoch, sequence, opDigest, decision, receiverId, keyId, issuedAt, signature⟩

/-- A well-formed reply of the domain `ACK_DOMAIN`. -/
structure AckEnvelope where
  keyId : JsString
  challenge : JsString
  requestDigest : JsString
  receipt : Json
  sig : JsString

def strictEnvelope (value : Json) : Option AckEnvelope := do
  guard (value.hasExactKeys ENVELOPE_KEYS)
  guard (value.strField "v" = some ACK_DOMAIN)
  let keyId ← value.strField "keyId"
  let challenge ← value.strField "challenge"
  let requestDigest ← value.strField "requestDigest"
  let receipt ← value.field "receipt"
  let sig ← value.strField "sig"
  return ⟨keyId, challenge, requestDigest, receipt, sig⟩

structure HttpOutboxTransportOptions where
  path : JsString
  resolveResponseKey : JsString → Option (List UInt8)
  verifyAck : TskAckReceipt → OutboxRecord → Bool
  maxResponseBytes : Nat
  maxRequestBytes : Nat

/-- The body of a response: no stream, one whose reading fails, or a text of some bytes with what
`JSON.parse` makes of it.  A number with a fraction stands as an integer out of the safe range,
which is treated like it everywhere. -/
inductive ReplyBody
  | noStream
  | broken
  | text (bytes : Nat) (parsed : Option Json)

structure FetchResponse where
  status : Int
  contentType : Option JsString
  /-- The finite number that the header reads as. -/
  contentLength : Option Rat
  body : ReplyBody

/-- How an attempt ends for the publisher; `fetch` may report a failure of the transport itself. -/
inductive FetchOutcome
  | failed (reported : Option TransportFailure)
  | deadline
  | response (response : FetchResponse)

/-- One call of `deliverAndAwaitAck`: its nonce, its clock if that gives a safe integer, and the
outcome. -/
structure HttpAttempt where
  nonce : JsString
  time : Option Int
  outcome : FetchOutcome

namespace TransportFailure

def terminal : TransportFailure := ⟨some false⟩
def transient : TransportFailure := ⟨some true⟩

/-- An error without a marker. -/
def plain : TransportFailure := ⟨none⟩

end TransportFailure

def isTransientStatus (status : Int) : Bool := 500 ≤ status || status = 408 || status = 429

def classifyStatus (status : Int) : TransportFailure :=
  if isTransientStatus status then .transient else .terminal

def readCapped (http : HttpOutboxTransportOptions) : ReplyBody → Except TransportFailure (Option Json)
  | .noStream => .error .terminal
  | .broken => .error .plain
  | .text bytes parsed => do
    require (bytes ≤ http.maxResponseBytes) .terminal
    return parsed

/-- What the response MAC is taken over. -/
def ackFrame (http : HttpOutboxTransportOptions) (keyId challenge requestDigest canonical : JsString) :
    List UInt8 :=
  framed [ACK_DOMAIN, keyId, challenge, requestDigest, http.path, canonical]

def verifyEnvelope (H : HmacBytes) (http : HttpOutboxTransportOptions) (parsed : Option Json)
    (record : OutboxRecord) (sentNonce sentBodyDigest : JsString) :
    Except TransportFailure TskAckReceipt := do
  let value ← orThrow parsed .terminal
  let env ← orThrow (strictEnvelope value) .terminal
  require (env.challenge = sentNonce ∧ env.requestDigest = sentBodyDigest) .terminal
  let secret ← orThrow (http.resolveResponseKey env.keyId) .terminal
  require (32 ≤ secret.length) .plain
  let receipt ← orThrow (strictReceipt env.receipt) .terminal
  let canonical ← orThrow (canonicalize (.ofReceipt receipt)) .plain
  require (Base64Url.decode env.sig =
    H.mac secret (ackFrame http env.keyId env.challenge env.requestDigest canonical)) .terminal
  require (receipt.streamId = record.streamId ∧ receipt.sourceEpoch = record.sourceEpoch ∧
    receipt.sequence = record.sequence ∧ receipt.opDigest = record.opDigest) .terminal
  require (http.verifyAck receipt record) .terminal
  return receipt

def readReply (H : HmacBytes) (http : HttpOutboxTransportOptions) (record : OutboxRecord)
    (sentNonce sentBodyDigest : JsString) : FetchOutcome → Except TransportFailure TskAckReceipt
  | .failed reported => .error (reported.getD .transient)
  | .deadline => .error .transient
  | .response res => do
    require (res.status = 200) (classifyStatus res.status)
    require (isJsonMime res.contentType) .terminal
    require (∀ length ∈ res.contentLength, length ≤ http.maxResponseBytes) .terminal
    let parsed ← readCapped http res.body
    verifyEnvelope H http parsed record sentNonce sentBodyDigest

def deliverAndAwaitAck (H : HmacBytes) (D : Sha256Bytes) (http : HttpOutboxTransportOptions)
    (record : OutboxRecord) (head : SignedStreamHead) (attempt : HttpAttempt) : Except TransportFailure TskAckReceipt := do
  let body ← orThrow (canonicalize (.ofDelivery record head)) .plain
  require (body.utf8.length ≤ http.maxRequestBytes) .terminal
  require (matchesNoncePattern attempt.nonce) .terminal
  require (attempt.time.isSome) .terminal
  readReply H http record attempt.nonce (D.hex body.utf8) attempt.outcome

/-- What can be wrong with the text of a reply. -/
inductive EnvelopeFault (H : HmacBytes) (http : HttpOutboxTransportOptions) (record : OutboxRecord)
    (sentNonce sentBodyDigest : JsString) : Option Json → Prop
  | notJson : EnvelopeFault H http record sentNonce sentBodyDigest none
  | malformed {value : Json} (h : strictEnvelope value = none) :
      EnvelopeFault H http record sentNonce sentBodyDigest (some value)
  | unbound {value : Json} {env : AckEnvelope} (henv : strictEnvelope value = some env)
      (h : ¬ (env.challenge = sentNonce ∧ env.requestDigest = sentBodyDigest)) :
      EnvelopeFault H http record sentNonce sentBodyDigest (some value)
  | unknownKey {value : Json} {env : AckEnvelope} (henv : strictEnvelope value = some env)
      (h : http.resolveResponseKey env.keyId = none) :
      EnvelopeFault H http record sentNonce sentBodyDigest (some value)
  | badReceipt {value : Json} {env : AckEnvelope} (henv : strictEnvelope value = some env)
      (h : strictReceipt env.receipt = none) :
      EnvelopeFault H http record sentNonce sentBodyDigest (some value)
  | badMac {value : Json} {env : AckEnvelope} {secret : List UInt8} {receipt : TskAckReceipt}
      {canonical : JsString} (henv : strictEnvelope value = some env)
      (hsecret : http.resolveResponseKey env.keyId = some secret)
      (hreceipt : strictReceipt env.receipt = some receipt)
      (hcanonical : canonicalize (.ofReceipt receipt) = some canonical)
      (h : Base64Url.decode env.sig ≠
        H.mac secret (ackFrame http env.keyId env.challenge env.requestDigest canonical)) :
      EnvelopeFault H http record sentNonce sentBodyDigest (some value)
  | otherRecord {value : Json} {env : AckEnvelope} {receipt : TskAckReceipt}
      (henv : strictEnvelope value = some env) (hreceipt : strictReceipt env.receipt = some receipt)
      (h : ¬ (receipt.streamId = record.streamId ∧ receipt.sourceEpoch = record.sourceEpoch ∧
        receipt.sequence = record.sequence ∧ receipt.opDigest = record.opDigest)) :
      EnvelopeFault H http record sentNonce sentBodyDigest (some value)
  | refused {value : Json} {env : AckEnvelope} {receipt : TskAckReceipt}
      (henv : strictEnvelope value = some env) (hreceipt : strictReceipt env.receipt = some receipt)
      (h : http.verifyAck receipt record = false) :
      EnvelopeFault H http record sentNonce sentBodyDigest (some value)

/-- The failures that are never retried. -/
inductive TerminalFailure (H : HmacBytes) (D : Sha256Bytes) (http : HttpOutboxTransportOptions)
    (record : OutboxRecord) (head : SignedStreamHead) (attempt : HttpAttempt) : Prop
  | requestTooLarge {body : JsString} (hbody : canonicalize (.ofDelivery record head) = some body)
      (h : http.maxRequestBytes < body.utf8.length)
  | badNonce (h : matchesNoncePattern attempt.nonce = false)
  | badClock (h : attempt.time = none)
  | reported {failure : TransportFailure} (houtcome : attempt.outcome = .failed (some failure))
      (h : isTerminalTransportError failure = true)
  | status {res : FetchResponse} (houtcome : attempt.outcome = .response res)
      (hne : res.status ≠ 200) (h : isTransientStatus res.status = false)
  | contentType {res : FetchResponse} (houtcome : attempt.outcome = .response res)
      (hstatus : res.status = 200) (h : isJsonMime res.contentType = false)
  | declaredLength {res : FetchResponse} {length : Rat} (houtcome : attempt.outcome = .response res)
      (hstatus : res.status = 200) (hlength : res.contentLength = some length)
      (h : (http.maxResponseBytes : Rat) < length)
  | noStream {res : FetchResponse} (houtcome : attempt.outcome = .response res)
      (hstatus : res.status = 200) (h : res.body = .noStream)
  | tooLarge {res : FetchResponse} {bytes : Nat} {parsed : Option Json}
      (houtcome : attempt.outcome = .response res) (hstatus : res.status = 200)
      (hbody : res.body = .text bytes parsed) (h : http.maxResponseBytes < bytes)
  | envelope {res : FetchResponse} {bytes : Nat} {parsed : Option Json} {body : JsString}
      (houtcome : attempt.outcome = .response res) (hstatus : res.status = 200)
      (hread : res.body = .text bytes parsed)
      (hbody : canonicalize (.ofDelivery record head) = some body)
      (h : EnvelopeFault H http record attempt.nonce (D.hex body.utf8) parsed)

theorem verifyEnvelope_terminal {H : HmacBytes} {http : HttpOutboxTransportOptions}
    {parsed : Option Json} {record : OutboxRecord} {sentNonce sentBodyDigest : JsString}
    {failure : TransportFailure}
    (h : verifyEnvelope H http parsed record sentNonce sentBodyDigest = .error failure)
    (hterminal : isTerminalTransportError failure = true) :
    EnvelopeFault H http record sentNonce sentBodyDigest parsed := by
  have hplain : failure ≠ .plain := by
    rintro rfl
    simp [isTerminalTransportError, TransportFailure.plain] at hterminal
  cases parsed with
  | none => exact .notJson
  | some value =>
    simp only [verifyEnvelope, bind_eq_error, require_eq_error, orThrow_eq_error, orThrow_eq_ok,
      require_eq_ok, reduceCtorEq, false_and, false_or, Option.some.injEq] at h
    obtain ⟨_, rfl, h⟩ := h
    rcases h with ⟨hnone, -⟩ | ⟨env, henv, h⟩
    · exact .malformed hnone
    rcases h with ⟨hunbound, -⟩ | ⟨_, -, h⟩
    · exact .unbound henv hunbound
    rcases h with ⟨hunknown, -⟩ | ⟨secret, hsecret, h⟩
    · exact .unknownKey henv hunknown
    rcases h with ⟨-, hshort⟩ | ⟨_, -, h⟩
    · exact absurd hshort.symm hplain
    rcases h with ⟨hbad, -⟩ | ⟨receipt, hreceipt, h⟩
    · exact .badReceipt henv hbad
    rcases h with ⟨-, hlong⟩ | ⟨canonical, hcanonical, h⟩
    · exact absurd hlong.symm hplain
    rcases h with ⟨hmac, -⟩ | ⟨_, -, h⟩
    · exact .badMac henv hsecret hreceipt hcanonical hmac
    rcases h with ⟨hother, -⟩ | ⟨_, -, h⟩
    · exact .otherRecord henv hreceipt hother
    rcases h with ⟨hrefused, -⟩ | ⟨_, -, h⟩
    · exact .refused henv hreceipt (by simpa using hrefused)
    cases h

theorem deliverAndAwaitAck_terminal {H : HmacBytes} {D : Sha256Bytes}
    {http : HttpOutboxTransportOptions} {record : OutboxRecord} {head : SignedStreamHead}
    {attempt : HttpAttempt} {failure : TransportFailure}
    (h : deliverAndAwaitAck H D http record head attempt = .error failure)
    (hterminal : isTerminalTransportError failure = true) :
    TerminalFailure H D http record head attempt := by
  have hplain : failure ≠ .plain := by
    rintro rfl
    simp [isTerminalTransportError, TransportFailure.plain] at hterminal
  have htransient : failure ≠ .transient := by
    rintro rfl
    simp [isTerminalTransportError, TransportFailure.transient] at hterminal
  simp only [deliverAndAwaitAck, bind_eq_error, require_eq_error, orThrow_eq_error, orThrow_eq_ok,
    require_eq_ok] at h
  rcases h with ⟨-, hbody⟩ | ⟨body, hbody, h⟩
  · exact absurd hbody.symm hplain
  rcases h with ⟨hlarge, -⟩ | ⟨_, -, h⟩
  · exact .requestTooLarge hbody (by omega)
  rcases h with ⟨hnonce, -⟩ | ⟨_, -, h⟩
  · exact .badNonce (by simpa using hnonce)
  rcases h with ⟨hclock, -⟩ | ⟨_, -, h⟩
  · exact .badClock (by simpa using hclock)
  generalize houtcome : attempt.outcome = outcome at h
  cases outcome with
  | failed reported =>
    obtain rfl := Except.error.inj h
    cases reported with
    | none => exact absurd rfl htransient
    | some failure => exact .reported houtcome hterminal
  | deadline => exact absurd (Except.error.inj h).symm htransient
  | response res =>
    simp only [readReply, bind_eq_error, require_eq_error, require_eq_ok] at h
    rcases h with ⟨hne, hstatus⟩ | ⟨_, hstatus, h⟩
    · refine .status houtcome hne ?_
      rw [classifyStatus] at hstatus
      split at hstatus
      · exact absurd hstatus.symm htransient
      · next hfinal => simpa using hfinal
    rcases h with ⟨hmime, -⟩ | ⟨_, -, h⟩
    · exact .contentType houtcome hstatus (by simpa using hmime)
    rcases h with ⟨hlength, -⟩ | ⟨_, -, h⟩
    · obtain ⟨length, hlength⟩ := not_forall.mp hlength
      obtain ⟨hsome, hlarge⟩ := Classical.not_imp.mp hlength
      exact .declaredLength houtcome hstatus hsome (Rat.not_le.mp hlarge)
    generalize hread : res.body = read at h
    cases read with
    | noStream => exact .noStream houtcome hstatus hread
    | broken =>
      rcases h with hbroken | ⟨_, hbroken, -⟩
      · exact absurd (Except.error.inj hbroken).symm hplain
      · cases hbroken
    | text bytes parsed =>
      simp only [readCapped, bind_eq_error, require_eq_error, bind_eq_ok, require_eq_ok] at h
      rcases h with (⟨hlarge, -⟩ | ⟨_, -, hreturn⟩) | ⟨_, ⟨_, -, hreturn⟩, h⟩
      · exact .tooLarge houtcome hstatus hread (by omega)
      · cases hreturn
      · obtain rfl := Except.ok.inj hreturn
        exact .envelope houtcome hstatus hread hbody (verifyEnvelope_terminal h hterminal)

theorem readReply_ok {H : HmacBytes} {http : HttpOutboxTransportOptions} {record : OutboxRecord}
    {sentNonce sentBodyDigest : JsString} {outcome : FetchOutcome} {receipt : TskAckReceipt}
    (h : readReply H http record sentNonce sentBodyDigest outcome = .ok receipt) :
    ∃ res bytes value env secret canonical, outcome = .response res ∧ res.status = 200 ∧
      res.body = .text bytes (some value) ∧ strictEnvelope value = some env ∧
      (env.challenge = sentNonce ∧ env.requestDigest = sentBodyDigest) ∧
      http.resolveResponseKey env.keyId = some secret ∧ strictReceipt env.receipt = some receipt ∧
      canonicalize (.ofReceipt receipt) = some canonical ∧ Base64Url.decode env.sig =
        H.mac secret (ackFrame http env.keyId env.challenge env.requestDigest canonical) ∧
      (receipt.streamId = record.streamId ∧ receipt.sourceEpoch = record.sourceEpoch ∧
        receipt.sequence = record.sequence ∧ receipt.opDigest = record.opDigest) ∧
      http.verifyAck receipt record = true := by
  cases outcome with
  | failed reported => cases h
  | deadline => cases h
  | response res =>
    simp only [readReply, bind_eq_ok, require_eq_ok] at h
    obtain ⟨_, hstatus, _, -, _, -, parsed, hread, h⟩ := h
    simp only [verifyEnvelope, bind_eq_ok, require_eq_ok, orThrow_eq_ok] at h
    obtain ⟨value, rfl, env, henv, _, hattempt, secret, hsecret, _, -, other, hreceipt, canonical,
      hcanonical, _, hmac, _, hrecord, _, hverified, h⟩ := h
    obtain rfl := Except.ok.inj h
    generalize hbodyEq : res.body = reply at hread
    cases reply with
    | noStream => cases hread
    | broken => cases hread
    | text bytes parsed =>
      simp only [readCapped, bind_eq_ok] at hread
      obtain ⟨_, -, hread⟩ := hread
      obtain rfl := Except.ok.inj hread
      exact ⟨res, bytes, value, env, secret, canonical, rfl, hstatus, hbodyEq, henv, hattempt, hsecret,
        hreceipt, hcanonical, hmac, hrecord, hverified⟩

theorem canonicalize_eq_some {v : Json} {text : JsString} (h : canonicalize v = some text) :
    v.canonical = text ∧ text.utf8.length ≤ CANON_MAX_TOTAL_BYTES := by
  rw [canonicalize] at h
  split at h
  · next hcanonical =>
    obtain rfl := Option.some.inj h
    rw [Bool.and_eq_true, decide_eq_true_eq] at hcanonical
    exact ⟨rfl, hcanonical.2⟩
  · cases h

/-- The reply of the receiver to an attempt. -/
def ackEnvelope (H : HmacBytes) (http : HttpOutboxTransportOptions) (responseKeyId : JsString)
    (responseSecret : List UInt8) (nonce bodyDigest : JsString) (receipt : TskAckReceipt) : Json :=
  .obj [(JsString.lit "v", .str ACK_DOMAIN), (JsString.lit "keyId", .str responseKeyId),
    (JsString.lit "challenge", .str nonce), (JsString.lit "requestDigest", .str bodyDigest),
    (JsString.lit "receipt", .ofReceipt receipt),
    (JsString.lit "sig", .str (Base64Url.encode (H.mac responseSecret
      (ackFrame http responseKeyId nonce bodyDigest (Json.ofReceipt receipt).canonical))))]

theorem strictReceipt_ofReceipt (receipt : TskAckReceipt) :
    strictReceipt (.ofReceipt receipt) = some receipt := by
  rfl

theorem strictEnvelope_ackEnvelope {H : HmacBytes} {http : HttpOutboxTransportOptions}
    {keyId nonce bodyDigest : JsString} {secret : List UInt8} {receipt : TskAckReceipt} :
    strictEnvelope (ackEnvelope H http keyId secret nonce bodyDigest receipt) =
      some ⟨keyId, nonce, bodyDigest, .ofReceipt receipt, Base64Url.encode (H.mac secret
        (ackFrame http keyId nonce bodyDigest (Json.ofReceipt receipt).canonical))⟩ := by
  rfl

/-- The transport takes the reply of the receiver, whatever the decision. -/
theorem verifyEnvelope_ackEnvelope {H : HmacBytes} {http : HttpOutboxTransportOptions}
    {keyId nonce bodyDigest canonical : JsString} {secret : List UInt8} {receipt : TskAckReceipt}
    {record : OutboxRecord} (hsecret : http.resolveResponseKey keyId = some secret)
    (hlength : 32 ≤ secret.length) (hcanonical : canonicalize (.ofReceipt receipt) = some canonical)
    (hrecord : receipt.streamId = record.streamId ∧ receipt.sourceEpoch = record.sourceEpoch ∧
      receipt.sequence = record.sequence ∧ receipt.opDigest = record.opDigest)
    (hverified : http.verifyAck receipt record = true) :
    verifyEnvelope H http (some (ackEnvelope H http keyId secret nonce bodyDigest receipt)) record
      nonce bodyDigest = .ok receipt := by
  have heq := (canonicalize_eq_some hcanonical).1
  simp only [verifyEnvelope, bind_eq_ok, require_eq_ok, orThrow_eq_ok]
  exact ⟨_, rfl, _, strictEnvelope_ackEnvelope, (), ⟨rfl, rfl⟩, secret, hsecret, (), hlength, receipt,
    strictReceipt_ofReceipt receipt, canonical, hcanonical, (),
    by rw [Base64Url.decode_encode, heq], (), hrecord, (), hverified, rfl⟩

end TskProtocol
