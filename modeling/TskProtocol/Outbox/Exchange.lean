import TskProtocol.Json.RoundTrip
import TskProtocol.Lib.Framing
import TskProtocol.Lib.Machine
import TskProtocol.Outbox.ReplayNonces

namespace TskProtocol

/-- A JavaScript string has fewer code units than this. -/
def MAX_STRING_LENGTH : Nat := 536870912

/-- A transport that its constructor has checked.  The path of a `URL` is percent-encoded. -/
structure HttpOutboxTransport extends HttpOutboxTransportOptions where
  requestKeyId : JsString
  requestSecret : List UInt8
  requestKeyId_valid : matchesKeyIdPattern requestKeyId = true
  requestSecret_long : 32 ≤ requestSecret.length
  path_ascii : path.all JsString.isAscii = true
  path_short : path.length < MAX_STRING_LENGTH

/-- An attempt whose request is on its way. -/
structure HttpExchange where
  http : HttpOutboxTransport
  record : OutboxRecord
  head : SignedStreamHead
  nonce : JsString
  time : Int
  body : JsString
  canonicalized : canonicalize (.ofDelivery record head) = some body
  nonce_valid : matchesNoncePattern nonce = true

/-- `deliverAndAwaitAck` up to `fetch`. -/
def HttpOutboxTransport.send (http : HttpOutboxTransport) (record : OutboxRecord) (head : SignedStreamHead)
    (nonce : JsString) (time : Option Int) : Except TransportFailure HttpExchange :=
  match hbody : canonicalize (.ofDelivery record head) with
  | none => .error .plain
  | some body =>
    if http.maxRequestBytes < body.utf8.length then .error .terminal
    else if hnonce : matchesNoncePattern nonce = true then
      match time with
      | none => .error .terminal
      | some time => .ok ⟨http, record, head, nonce, time, body, hbody, hnonce⟩
    else .error .terminal

namespace HttpExchange

variable (H : HmacBytes) (D : Sha256Bytes) (exchange : HttpExchange)

def bodyDigest : JsString := D.hex exchange.body.utf8

/-- What the request is signed over. -/
def message : List UInt8 :=
  requestFrame exchange.http.requestKeyId exchange.http.path (JsString.ofInt exchange.time) exchange.nonce
    (exchange.bodyDigest D)

/-- The request that goes out. -/
def request : HttpRequest where
  method := JsString.lit "POST"
  url := exchange.http.path
  contentType := some CONTENT_TYPE
  keyId := some exchange.http.requestKeyId
  ts := some (JsString.ofInt exchange.time)
  nonce := some exchange.nonce
  sig := some (Base64Url.encode (H.mac exchange.http.requestSecret (exchange.message D)))
  body := .bytes exchange.body.utf8

/-- `deliverAndAwaitAck` from `fetch` on. -/
def finish (outcome : FetchOutcome) : Except TransportFailure TskAckReceipt :=
  readReply H exchange.http.toHttpOutboxTransportOptions exchange.record exchange.nonce
    (exchange.bodyDigest D) outcome

end HttpExchange

/-- Both halves together. -/
theorem deliverAndAwaitAck_eq {H : HmacBytes} {D : Sha256Bytes} (http : HttpOutboxTransport)
    (record : OutboxRecord) (head : SignedStreamHead) (attempt : HttpAttempt) :
    deliverAndAwaitAck H D http.toHttpOutboxTransportOptions record head attempt =
      (http.send record head attempt.nonce attempt.time >>= fun exchange =>
        exchange.finish H D attempt.outcome) := by
  rw [deliverAndAwaitAck, HttpOutboxTransport.send]
  split
  · next hbody =>
    rw [hbody]
    rfl
  · next body hbody =>
    have hthrow : orThrow (canonicalize (.ofDelivery record head)) TransportFailure.plain = .ok body :=
      orThrow_eq_ok.mpr hbody
    rw [hthrow, bind_ok]
    by_cases hlarge : http.maxRequestBytes < body.utf8.length
    · rw [if_pos hlarge, require_neg (by omega)]
      rfl
    · rw [if_neg hlarge, require_pos (by omega), bind_ok]
      by_cases hnonce : matchesNoncePattern attempt.nonce = true
      · rw [dif_pos hnonce, require_pos hnonce, bind_ok]
        cases attempt.time with
        | none => rfl
        | some time => rfl
      · rw [dif_neg hnonce, require_neg hnonce]
        rfl

/-- The MAC that a reply is accepted or refused by. -/
structure ReplyCheck where
  keyId : JsString
  secret : List UInt8
  message : List UInt8
  tag : List UInt8

def replyCheck (http : HttpOutboxTransportOptions) : FetchOutcome → Option ReplyCheck
  | .response res =>
    match res.body with
    | .text _ (some value) => do
      let env ← strictEnvelope value
      let secret ← http.resolveResponseKey env.keyId
      let receipt ← strictReceipt env.receipt
      let canonical ← canonicalize (.ofReceipt receipt)
      return ⟨env.keyId, secret, ackFrame http env.keyId env.challenge env.requestDigest canonical,
        Base64Url.decode env.sig⟩
    | _ => none
  | _ => none

/-- All the attempts and answers of the honest parties, and the receipts that attempts ended with.  What
the network does with requests and replies is up to the labels. -/
structure HttpExchangeState where
  exchanges : List HttpExchange := []
  acks : List Acknowledgement := []
  returned : List (HttpExchange × TskAckReceipt) := []

inductive HttpExchangeLabel
  | send (http : HttpOutboxTransport) (record : OutboxRecord) (head : SignedStreamHead) (nonce : JsString)
      (time : Option Int)
  | handle (receiver : HttpOutboxReceiver) (now : Int) (req : HttpRequest) (fresh : Bool)
      (receive : Json → Json → Option TskAckReceipt)
  | reply (exchange : Nat) (outcome : FetchOutcome)

namespace HttpExchangeState

def step (H : HmacBytes) (D : Sha256Bytes) (st : HttpExchangeState) : HttpExchangeLabel → Option HttpExchangeState
  | .send http record head nonce time =>
    match http.send record head nonce time with
    | .ok exchange => some { st with exchanges := st.exchanges ++ [exchange] }
    | .error _ => some st
  | .handle receiver now req fresh receive =>
    match receiver.handle H D now req fresh receive with
    | .ok ack => some { st with acks := st.acks ++ [ack] }
    | .error _ => some st
  | .reply i outcome => st.exchanges[i]?.map fun exchange =>
    match exchange.finish H D outcome with
    | .ok receipt => { st with returned := st.returned ++ [(exchange, receipt)] }
    | .error _ => st

/-- The secrets and messages of all the tags that the honest parties have made. -/
def tagged (D : Sha256Bytes) (st : HttpExchangeState) : List (List UInt8 × List UInt8) :=
  st.exchanges.map (fun exchange => (exchange.http.requestSecret, exchange.message D)) ++
    st.acks.map fun ack => (ack.receiver.responseSecret, receiptFrame ack.receiver.responseKeyId
      ack.request.nonce ack.request.bodyDigest ack.request.url ack.canonical)

end HttpExchangeState

def httpExchanges (H : HmacBytes) (D : Sha256Bytes) : Machine HttpExchangeState HttpExchangeLabel where
  step := HttpExchangeState.step H D

/-- Nobody makes a tag that a response secret vouches for but the honest parties.  The texts of the
platform are strings of its kind: the target of a request has one byte for each code unit. -/
def NoForgery (H : HmacBytes) (D : Sha256Bytes) (st : HttpExchangeState) : HttpExchangeLabel → Prop
  | .send _ _ _ _ _ => True
  | .handle _ _ req _ _ => req.url.length < MAX_STRING_LENGTH ∧ ∀ c ∈ req.url, c.toNat < 256
  | .reply i outcome => ∀ exchange ∈ st.exchanges[i]?,
    ∀ check ∈ replyCheck exchange.http.toHttpOutboxTransportOptions outcome,
      check.keyId.length < MAX_STRING_LENGTH ∧
        (check.tag = H.mac check.secret check.message → (check.secret, check.message) ∈ st.tagged D)

section Frames

open JsString

/-- Text whose length fits the prefix of a frame. -/
def Fits (s : JsString) : Prop := s.utf8.length < 4294967296

theorem Fits.of_length {s : JsString} (h : s.length < MAX_STRING_LENGTH) : Fits s := by
  have hle := s.length_utf8_le
  unfold MAX_STRING_LENGTH at h
  unfold Fits
  omega

theorem framed_eq_prefixed (fields : List JsString) :
    framed fields = Framing.prefixed (fields.map utf8) := by
  rw [framed, Framing.prefixed, List.flatMap_map]
  rfl

theorem framed_inj {fields fields' : List JsString} (h : ∀ s ∈ fields, Fits s) (h' : ∀ s ∈ fields', Fits s)
    (heq : framed fields = framed fields') : fields.map utf8 = fields'.map utf8 := by
  rw [framed_eq_prefixed, framed_eq_prefixed] at heq
  apply Framing.prefixed_injective _ _ heq
  · exact List.forall_mem_map.mpr h
  · exact List.forall_mem_map.mpr h'

/-- The domains keep the messages of requests and of replies apart. -/
theorem requestFrame_ne_receiptFrame {keyId url ts nonce bodyDigest keyId' challenge requestDigest path
    canonical : JsString} : requestFrame keyId url ts nonce bodyDigest ≠
      receiptFrame keyId' challenge requestDigest path canonical := by
  intro heq
  rw [requestFrame, receiptFrame, framed_eq_prefixed, framed_eq_prefixed, List.map_cons, List.map_cons] at heq
  have hdomain := (Framing.prefixed_cons_inj (by decide) (by decide) heq).1
  have hne : utf8 REQ_DOMAIN ≠ utf8 ACK_DOMAIN := by decide
  exact hne hdomain

theorem isAscii_of_isLowerHexDigit {c : UInt16} (h : isLowerHexDigit c = true) : isAscii c = true := by
  simp only [isLowerHexDigit, Bool.or_eq_true, Bool.and_eq_true, decide_eq_true_eq,
    UInt16.le_iff_toNat_le, UInt16.reduceToNat] at h
  simp only [isAscii, decide_eq_true_eq, UInt16.lt_iff_toNat_lt, UInt16.reduceToNat]
  omega

theorem ascii_hex (D : Sha256Bytes) (data : List UInt8) : ∀ c ∈ D.hex data, isAscii c = true :=
  fun c hc => isAscii_of_isLowerHexDigit (D.lower_hex data c hc)

theorem ascii_nonce {nonce : JsString} (h : matchesNoncePattern nonce = true) :
    ∀ c ∈ nonce, isAscii c = true := by
  simp only [matchesNoncePattern, Bool.and_eq_true] at h
  exact fun c hc => isAscii_of_isBase64Url (List.all_eq_true.mp h.2 c hc)

theorem fits_nonce {nonce : JsString} (h : matchesNoncePattern nonce = true) : Fits nonce := by
  simp only [matchesNoncePattern, Bool.and_eq_true, decide_eq_true_eq] at h
  apply Fits.of_length
  unfold MAX_STRING_LENGTH
  omega

theorem fits_hex (D : Sha256Bytes) (data : List UInt8) : Fits (D.hex data) := by
  apply Fits.of_length
  rw [D.length_hex]
  decide

theorem fits_keyId {keyId : JsString} (h : matchesKeyIdPattern keyId = true) : Fits keyId := by
  simp only [matchesKeyIdPattern, Bool.and_eq_true, decide_eq_true_eq] at h
  apply Fits.of_length
  unfold MAX_STRING_LENGTH
  omega

theorem fits_canonical {v : Json} {text : JsString} (h : canonicalize v = some text) : Fits text := by
  have hle := (canonicalize_eq_some h).2
  unfold CANON_MAX_TOTAL_BYTES at hle
  unfold Fits
  omega

/-- Latin text has no surrogates. -/
theorem wellFormed_latin {s : JsString} (h : ∀ c ∈ s, c.toNat < 256) : s.WellFormed := by
  induction s with
  | nil => exact .nil
  | cons c rest ih =>
    rw [List.forall_mem_cons] at h
    refine .unit ?_ ?_ (ih h.2)
    · rw [Bool.eq_false_iff]
      intro hhigh
      have hge := (toNat_of_high hhigh).1
      omega
    · rw [Bool.eq_false_iff]
      intro hlow
      have hge := (toNat_of_low hlow).1
      omega

end Frames

section Values

theorem distinct_ofReceipt (receipt : TskAckReceipt) : (Json.ofReceipt receipt).Distinct := by
  refine ⟨?_, Json.membersDistinct_iff.mpr fun m hm => ?_⟩
  · change (RECEIPT_KEYS.map JsString.lit).Nodup
    decide +kernel
  · simp only [List.mem_cons, List.not_mem_nil, or_false] at hm
    rcases hm with rfl | rfl | rfl | rfl | rfl | rfl | rfl | rfl | rfl <;> trivial

/-- A receipt can be read off its canonical text. -/
theorem receipt_of_canonical {receipt receipt' : TskAckReceipt}
    (h : (Json.ofReceipt receipt).canonical = (Json.ofReceipt receipt').canonical) : receipt = receipt' := by
  have hsorted := Json.canonical_inj (distinct_ofReceipt receipt) (distinct_ofReceipt receipt') h
  have hstr (key : String) : (Json.ofReceipt receipt).strField key = (Json.ofReceipt receipt').strField key := by
    rw [← Json.strField_sorted (distinct_ofReceipt receipt) JsString.le, hsorted,
      Json.strField_sorted (distinct_ofReceipt receipt')]
  have hnum (key : String) : (Json.ofReceipt receipt).numField key = (Json.ofReceipt receipt').numField key := by
    rw [← Json.numField_sorted (distinct_ofReceipt receipt) JsString.le, hsorted,
      Json.numField_sorted (distinct_ofReceipt receipt')]
  have hkeys (receipt : TskAckReceipt) : (Json.ofReceipt receipt).hasExactKeys RECEIPT_KEYS = true := rfl
  have hread : strictReceipt (.ofReceipt receipt) = strictReceipt (.ofReceipt receipt') := by
    simp only [strictReceipt, hstr, hnum, hkeys]
  rw [strictReceipt_ofReceipt, strictReceipt_ofReceipt] at hread
  exact Option.some.inj hread

theorem distinct_ofDelivery (record : OutboxRecord) (head : SignedStreamHead) :
    (Json.ofDelivery record head).Distinct := by
  have hmutation : (Json.ofHotpMutation record.mutation).Distinct := by
    refine ⟨?_, trivial, trivial, trivial⟩
    change (["tumblerId", "counter"].map JsString.lit).Nodup
    decide +kernel
  have hrecord : (Json.ofOutboxRecord record).Distinct := by
    refine ⟨?_, trivial, trivial, trivial, trivial, trivial, trivial, hmutation, trivial⟩
    change (["contractVersion", "streamId", "sourceEpoch", "sequence", "fenceToken", "opDigest",
      "mutation"].map JsString.lit).Nodup
    decide +kernel
  have hhead : (Json.ofStreamHead head).Distinct := by
    refine ⟨?_, trivial, trivial, trivial, trivial, trivial, trivial, trivial, trivial, trivial⟩
    change (["streamId", "sequence", "prevHeadDigest", "opDigest", "keyId", "alg", "headDigest",
      "signature"].map JsString.lit).Nodup
    decide +kernel
  refine ⟨?_, hrecord, hhead, trivial⟩
  change (["record", "head"].map JsString.lit).Nodup
  decide +kernel

/-- The receiver reads the record and the head that the transport has sent. -/
theorem readDelivery_sent {D : Sha256Bytes} {record : OutboxRecord} {head : SignedStreamHead}
    {body : JsString} {received : Json × Json} (hbody : canonicalize (.ofDelivery record head) = some body)
    (h : readDelivery D body.utf8 = .ok received) :
    received = ((Json.ofOutboxRecord record).sorted JsString.le, (Json.ofStreamHead head).sorted JsString.le) := by
  have hdistinct := distinct_ofDelivery record head
  obtain ⟨rfl, -⟩ := canonicalize_eq_some hbody
  simp only [readDelivery, bind_eq_ok, require_eq_ok, orThrow_eq_ok,
    JsString.decodeUtf8_utf8 (Json.wellFormed_canonical _), Json.parse_canonical hdistinct, Option.some.injEq,
    pure_eq_ok, Except.ok.injEq] at h
  obtain ⟨_, rfl, read, hread, readHead, hreadHead, _, -, header, -, bound, -, _, -, rfl⟩ := h
  rw [Json.field_sorted hdistinct] at hread hreadHead
  have hrecord : (Json.ofDelivery record head).field "record" = some (.ofOutboxRecord record) := rfl
  have hhead : (Json.ofDelivery record head).field "head" = some (.ofStreamHead head) := rfl
  rw [hrecord, Option.map_some, Option.some.injEq] at hread
  rw [hhead, Option.map_some, Option.some.injEq] at hreadHead
  rw [hread, hreadHead]

end Values

variable {H : HmacBytes} {D : Sha256Bytes}

/-- What is true of a receipt that went out. -/
structure Acknowledgement.Produced (D : Sha256Bytes) (ack : Acknowledgement) : Prop where
  nonce : matchesNoncePattern ack.request.nonce = true
  digest : ack.request.bodyDigest = D.hex ack.request.body
  url_short : ack.request.url.length < MAX_STRING_LENGTH
  url_latin : ∀ c ∈ ack.request.url, c.toNat < 256
  delivery : readDelivery D ack.request.body = .ok (ack.record, ack.head)
  canonical : canonicalize (.ofReceipt ack.receipt) = some ack.canonical

theorem authenticate_request {receiver : HttpOutboxReceiver} {now : Int} {req : HttpRequest}
    {signed : SignedRequest} (h : authenticate H D receiver now req = .ok signed) :
    matchesNoncePattern signed.nonce = true ∧ signed.bodyDigest = D.hex signed.body ∧ signed.url = req.url := by
  simp only [authenticate, bind_eq_ok, require_eq_ok, orThrow_eq_ok, pure_eq_ok, Except.ok.injEq] at h
  obtain ⟨_, -, _, -, _, -, body, -, keyId, -, ts, -, nonce, -, sig, -, _, hformat, secret, -, _, -, time,
    -, _, -, _, -, rfl⟩ := h
  exact ⟨hformat.2.2.2, rfl, rfl⟩

theorem handle_produced {receiver : HttpOutboxReceiver} {now : Int} {req : HttpRequest} {fresh : Bool}
    {receive : Json → Json → Option TskAckReceipt} {ack : Acknowledgement}
    (h : receiver.handle H D now req fresh receive = .ok ack)
    (hurl : req.url.length < MAX_STRING_LENGTH ∧ ∀ c ∈ req.url, c.toNat < 256) : ack.Produced D := by
  simp only [HttpOutboxReceiver.handle, bind_eq_ok, require_eq_ok, orThrow_eq_ok, pure_eq_ok,
    Except.ok.injEq] at h
  obtain ⟨request, hrequest, _, -, received, hdelivery, receipt, -, canonical, hcanonical, _, -, rfl⟩ := h
  obtain ⟨hnonce, hdigest, heq⟩ := authenticate_request hrequest
  rw [← heq] at hurl
  exact ⟨hnonce, hdigest, hurl.1, hurl.2, hdelivery, hcanonical⟩

/-- The receipt was issued for the nonce, the path and the body digest of the attempt. -/
structure HttpExchange.Answered (D : Sha256Bytes) (exchange : HttpExchange) (receipt : TskAckReceipt)
    (ack : Acknowledgement) : Prop where
  receipt : ack.receipt = receipt
  nonce : ack.request.nonce = exchange.nonce
  url : ack.request.url = exchange.http.path
  digest : ack.request.bodyDigest = exchange.bodyDigest D

/-- Two equal messages of replies answer the same attempt. -/
theorem HttpExchange.Answered.of_receiptFrame {exchange : HttpExchange} {ack : Acknowledgement}
    {receipt : TskAckReceipt} {keyId canonical : JsString} (hproduced : ack.Produced D)
    (hkeyId : keyId.length < MAX_STRING_LENGTH)
    (hcanonical : canonicalize (.ofReceipt receipt) = some canonical)
    (h : receiptFrame keyId exchange.nonce (exchange.bodyDigest D) exchange.http.path canonical =
      receiptFrame ack.receiver.responseKeyId ack.request.nonce ack.request.bodyDigest ack.request.url
        ack.canonical) : exchange.Answered D receipt ack := by
  have hascii := List.all_eq_true.mp exchange.http.path_ascii
  have hdomain : Fits ACK_DOMAIN := .of_length (by decide)
  have hfields := framed_inj
    (by
      simp only [List.forall_mem_cons, List.not_mem_nil, false_imp_iff, implies_true, and_true]
      exact ⟨hdomain, .of_length hkeyId, fits_nonce exchange.nonce_valid, fits_hex D _,
        .of_length exchange.http.path_short, fits_canonical hcanonical⟩)
    (by
      simp only [List.forall_mem_cons, List.not_mem_nil, false_imp_iff, implies_true, and_true]
      exact ⟨hdomain, fits_keyId ack.receiver.responseKeyId_valid, fits_nonce hproduced.nonce,
        hproduced.digest ▸ fits_hex D _, .of_length hproduced.url_short,
        fits_canonical hproduced.canonical⟩) h
  simp only [List.map_cons, List.map_nil, List.cons.injEq, and_true, true_and] at hfields
  obtain ⟨-, hnonce, hdigest, hpath, htext⟩ := hfields
  obtain ⟨rfl, -⟩ := canonicalize_eq_some hcanonical
  have htext' := (canonicalize_eq_some hproduced.canonical).1
  refine ⟨?_, ?_, ?_, ?_⟩
  · rw [← htext'] at htext
    exact (receipt_of_canonical (JsString.utf8_injective (Json.wellFormed_canonical _)
      (Json.wellFormed_canonical _) htext)).symm
  · exact (JsString.utf8_inj_of_ascii (ascii_nonce exchange.nonce_valid) (ascii_nonce hproduced.nonce)
      hnonce).symm
  · exact (JsString.utf8_injective (.of_ascii hascii) (wellFormed_latin hproduced.url_latin) hpath).symm
  · rw [hproduced.digest] at hdigest ⊢
    exact (JsString.utf8_inj_of_ascii (ascii_hex D _) (ascii_hex D _) hdigest).symm

namespace HttpExchangeState

structure Sound (D : Sha256Bytes) (st : HttpExchangeState) : Prop where
  produced : ∀ ack ∈ st.acks, ack.Produced D
  answered : ∀ r ∈ st.returned, r.1 ∈ st.exchanges ∧ ∃ ack ∈ st.acks, r.1.Answered D r.2 ack

variable {st st' : HttpExchangeState}

/-- An attempt ends with a receipt that went out for it. -/
theorem Sound.finish (h : st.Sound D) {i : Nat} {exchange : HttpExchange} {outcome : FetchOutcome}
    {receipt : TskAckReceipt} (hexchange : st.exchanges[i]? = some exchange)
    (hnoforgery : NoForgery H D st (.reply i outcome)) (hfinish : exchange.finish H D outcome = .ok receipt) :
    ∃ ack ∈ st.acks, exchange.Answered D receipt ack := by
  obtain ⟨res, bytes, value, env, secret, canonical, rfl, -, hread, henv, ⟨hchallenge, hdigest⟩, hsecret,
    hreceipt, hcanonical, hmac, -, -⟩ := readReply_ok hfinish
  have hcheck : replyCheck exchange.http.toHttpOutboxTransportOptions (.response res) = some
      ⟨env.keyId, secret, ackFrame exchange.http.toHttpOutboxTransportOptions env.keyId env.challenge
        env.requestDigest canonical, Base64Url.decode env.sig⟩ := by
    simp only [replyCheck, hread, henv, hsecret, hreceipt, hcanonical, Option.bind_eq_bind, Option.bind_some,
      Option.pure_def]
  obtain ⟨hkeyId, htagged⟩ := hnoforgery exchange hexchange _ hcheck
  rcases List.mem_append.mp (htagged hmac) with hrequest | hreply
  · obtain ⟨other, -, heq⟩ := List.mem_map.mp hrequest
    exact (requestFrame_ne_receiptFrame (Prod.mk.inj heq).2).elim
  · obtain ⟨ack, hack, heq⟩ := List.mem_map.mp hreply
    have hframe := (Prod.mk.inj heq).2.symm
    simp only [ackFrame, hchallenge, hdigest] at hframe
    exact ⟨ack, hack, .of_receiptFrame (h.produced ack hack) hkeyId hcanonical hframe⟩

theorem Sound.step {l : HttpExchangeLabel} (h : st.Sound D) (hnoforgery : NoForgery H D st l)
    (hstep : (httpExchanges H D).step st l = some st') : st'.Sound D := by
  cases l with
  | send http record head nonce time =>
    simp only [httpExchanges, HttpExchangeState.step] at hstep
    cases hsend : http.send record head nonce time with
    | error failure =>
      rw [hsend] at hstep
      obtain rfl := Option.some.inj hstep
      exact h
    | ok exchange =>
      rw [hsend] at hstep
      obtain rfl := Option.some.inj hstep
      exact ⟨h.produced, fun r hr => ⟨List.mem_append_left _ (h.answered r hr).1, (h.answered r hr).2⟩⟩
  | handle receiver now req fresh receive =>
    simp only [httpExchanges, HttpExchangeState.step] at hstep
    cases hhandle : receiver.handle H D now req fresh receive with
    | error reply =>
      rw [hhandle] at hstep
      obtain rfl := Option.some.inj hstep
      exact h
    | ok ack =>
      rw [hhandle] at hstep
      obtain rfl := Option.some.inj hstep
      refine ⟨?_, ?_⟩
      · intro other hmem
        rcases List.mem_append.mp hmem with hmem | hmem
        · exact h.produced other hmem
        · rw [List.mem_singleton.mp hmem]
          exact handle_produced hhandle hnoforgery
      · intro r hr
        obtain ⟨hexchange, other, hother, hanswered⟩ := h.answered r hr
        exact ⟨hexchange, other, List.mem_append_left _ hother, hanswered⟩
  | reply i outcome =>
    simp only [httpExchanges, HttpExchangeState.step] at hstep
    obtain ⟨exchange, hexchange, hstep⟩ := Option.map_eq_some_iff.mp hstep
    cases hfinish : exchange.finish H D outcome with
    | error failure =>
      rw [hfinish] at hstep
      rw [← hstep]
      exact h
    | ok receipt =>
      rw [hfinish] at hstep
      rw [← hstep]
      refine ⟨h.produced, ?_⟩
      intro r hr
      rcases List.mem_append.mp hr with hr | hr
      · exact h.answered r hr
      · rw [List.mem_singleton.mp hr]
        exact ⟨List.mem_of_getElem? hexchange, h.finish hexchange hnoforgery hfinish⟩

/-- The digest tells the bodies of the attempts and the bodies that were answered apart. -/
def NoCollision (D : Sha256Bytes) (st : HttpExchangeState) : Prop :=
  ∀ exchange ∈ st.exchanges, ∀ ack ∈ st.acks,
    D.hex exchange.body.utf8 = D.hex ack.request.body → exchange.body.utf8 = ack.request.body

end HttpExchangeState

/-- Whatever the network makes of requests and replies, an attempt ends with a receipt only if a receiver
has issued it for the nonce, the path and the body of the attempt, and so for its record and its head. -/
theorem receipt_of_attempt {ls : List HttpExchangeLabel} {st : HttpExchangeState}
    (hrun : (httpExchanges H D).Runs (NoForgery H D) {} ls st) (hcollision : st.NoCollision D)
    {exchange : HttpExchange} {receipt : TskAckReceipt} (hreturned : (exchange, receipt) ∈ st.returned) :
    ∃ ack ∈ st.acks, ack.receipt = receipt ∧ ack.request.nonce = exchange.nonce ∧
      ack.request.url = exchange.http.path ∧ ack.request.body = exchange.body.utf8 ∧
      ack.record = (Json.ofOutboxRecord exchange.record).sorted JsString.le ∧
      ack.head = (Json.ofStreamHead exchange.head).sorted JsString.le := by
  have hsound : st.Sound D := by
    apply hrun.invariant
    · intro before l after hsound hnoforgery hstep
      exact hsound.step hnoforgery hstep
    · exact ⟨fun _ h => (by cases h), fun _ h => (by cases h)⟩
  obtain ⟨hexchange, ack, hack, hanswered⟩ := hsound.answered _ hreturned
  have hproduced := hsound.produced ack hack
  have hbody : exchange.body.utf8 = ack.request.body := by
    apply hcollision exchange hexchange ack hack
    rw [← hproduced.digest]
    exact hanswered.digest.symm
  have hdelivery := hproduced.delivery
  rw [← hbody] at hdelivery
  have hread := readDelivery_sent exchange.canonicalized hdelivery
  rw [Prod.mk.injEq] at hread
  exact ⟨ack, hack, hanswered.receipt, hanswered.nonce, hanswered.url, hbody.symm, hread.1, hread.2⟩

section Sample

instance (st : HttpExchangeState) (l : HttpExchangeLabel) : Decidable (NoForgery H D st l) :=
  match l with
  | .send _ _ _ _ _ => inferInstanceAs (Decidable True)
  | .handle _ _ req _ _ =>
    have : Decidable (∀ c ∈ req.url, c.toNat < 256) := List.decidableBAll _ _
    inferInstanceAs (Decidable (_ ∧ ∀ c ∈ req.url, c.toNat < 256))
  | .reply i outcome => inferInstanceAs (Decidable (∀ exchange ∈ st.exchanges[i]?,
      ∀ check ∈ replyCheck exchange.http.toHttpOutboxTransportOptions outcome,
        check.keyId.length < MAX_STRING_LENGTH ∧
          (check.tag = H.mac check.secret check.message → (check.secret, check.message) ∈ st.tagged D)))

instance instDecidableExchangeNoCollision (st : HttpExchangeState) : Decidable (st.NoCollision D) :=
  inferInstanceAs (Decidable (∀ exchange ∈ st.exchanges, ∀ ack ∈ st.acks, _ → _))

theorem sampleKeyId_valid : matchesKeyIdPattern (JsString.lit "a") = true := by decide

theorem samplePath_ascii : (JsString.lit "/ingest").all JsString.isAscii = true := by decide

theorem samplePath_short : (JsString.lit "/ingest").length < MAX_STRING_LENGTH := by decide

theorem sampleRequestSecret_long : 32 ≤ sampleRequestSecret.length := Nat.le_refl 32

def sampleTransport : HttpOutboxTransport where
  path := JsString.lit "/ingest"
  resolveResponseKey _ := some (List.replicate 32 9)
  verifyAck _ _ := true
  maxResponseBytes := 4096
  maxRequestBytes := 4096
  requestKeyId := JsString.lit "a"
  requestSecret := sampleRequestSecret
  requestKeyId_valid := sampleKeyId_valid
  requestSecret_long := sampleRequestSecret_long
  path_ascii := samplePath_ascii
  path_short := samplePath_short

def sampleSentRecord : OutboxRecord where
  contractVersion := HA_OUTBOX_CONTRACT_VERSION
  streamId := JsString.lit "s"
  sourceEpoch := JsString.lit "e"
  sequence := 1
  fenceToken := JsString.lit "1"
  opDigest := GENESIS_HEAD
  mutation := ⟨JsString.lit "t", 1⟩

def sampleSentHead : SignedStreamHead where
  streamId := JsString.lit "s"
  sequence := 1
  prevHeadDigest := GENESIS_HEAD
  opDigest := GENESIS_HEAD
  keyId := JsString.lit "k"
  alg := JsString.lit "ed25519"
  headDigest := rollingSha256.hex (framed [HA_OUTBOX_DIGEST_DOMAIN ++ JsString.lit "/tsk-stream-head",
    HA_OUTBOX_CONTRACT_VERSION, JsString.lit "s", JsString.lit "1", GENESIS_HEAD, GENESIS_HEAD,
    JsString.lit "k", JsString.lit "ed25519"])
  signature := JsString.lit "h"

def sampleSentReceipt : TskAckReceipt where
  streamId := JsString.lit "s"
  sourceEpoch := JsString.lit "e"
  sequence := 1
  opDigest := GENESIS_HEAD
  decision := JsString.lit "applied"
  receiverId := JsString.lit "r"
  keyId := JsString.lit "k"
  issuedAt := JsString.lit "100"
  signature := JsString.lit "g"

theorem canonicalize_sample : canonicalize (.ofDelivery sampleSentRecord sampleSentHead) =
    some (Json.ofDelivery sampleSentRecord sampleSentHead).canonical := by decide +kernel

def sampleExchange : HttpExchange where
  http := sampleTransport
  record := sampleSentRecord
  head := sampleSentHead
  nonce := JsString.lit "0123456789abcdef"
  time := 100
  body := (Json.ofDelivery sampleSentRecord sampleSentHead).canonical
  canonicalized := canonicalize_sample
  nonce_valid := by decide

def sampleAck : Acknowledgement where
  receiver := samplePgReceiver
  request := ⟨JsString.lit "a", JsString.lit "/ingest", JsString.lit "100", 100, sampleExchange.nonce,
    sampleExchange.body.utf8, sampleExchange.bodyDigest rollingSha256⟩
  record := .null
  head := .null
  receipt := sampleSentReceipt
  canonical := (Json.ofReceipt sampleSentReceipt).canonical

/-- An attempt, its answer, and a reply to it. -/
theorem receipt_of_attempt_sample : ∃ (st : HttpExchangeState) (exchange : HttpExchange) (receipt : TskAckReceipt),
    (exchange, receipt) ∈ st.returned ∧ receipt = sampleSentReceipt ∧ ∃ ack ∈ st.acks, ack.receipt = receipt ∧
      ack.request.nonce = exchange.nonce ∧ ack.request.url = exchange.http.path ∧
      ack.request.body = exchange.body.utf8 ∧
      ack.record = (Json.ofOutboxRecord exchange.record).sorted JsString.le ∧
      ack.head = (Json.ofStreamHead exchange.head).sorted JsString.le := by
  obtain ⟨st, hrun, hobserved⟩ := Machine.Runs.of_observed (M := httpExchanges rollingHmac rollingSha256)
    (C := NoForgery rollingHmac rollingSha256) {}
    [.send sampleTransport sampleSentRecord sampleSentHead (JsString.lit "0123456789abcdef") (some 100),
      .handle samplePgReceiver 100 (sampleExchange.request rollingHmac rollingSha256) true
        (fun _ _ => some sampleSentReceipt),
      .reply 0 (.response ⟨200, some CONTENT_TYPE, none, .text 2000 (some (sampleAck.envelope rollingHmac))⟩)]
    (fun st => (st.returned.map Prod.snd, decide (st.NoCollision rollingSha256)))
    (show _ = some ([sampleSentReceipt], true) by decide +kernel)
  rw [Prod.mk.injEq, decide_eq_true_eq] at hobserved
  obtain ⟨⟨exchange, receipt⟩, hreturned, hreceipt⟩ : ∃ r ∈ st.returned, r.2 = sampleSentReceipt := by
    apply List.mem_map.mp
    rw [hobserved.1]
    exact List.mem_cons_self
  exact ⟨st, exchange, receipt, hreturned, hreceipt, receipt_of_attempt hrun hobserved.2 hreturned⟩

end Sample

end TskProtocol
