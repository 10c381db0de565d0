import TskProtocol.Outbox.Ledger
import TskProtocol.SourceFence.Lease
import TskProtocol.SourceFence.Witness

namespace TskProtocol

/-- A check of the outbox contract made by the source fence. -/
def liftContract {α : Type} (x : Except ContractError α) : Except FenceError α :=
  x.mapError .contract

@[simp] theorem liftContract_eq_ok {α : Type} {x : Except ContractError α} {a : α} :
    liftContract x = .ok a ↔ x = .ok a := by
  cases x <;> simp [liftContract, Except.mapError]

/-- The resolver and the signature check of a stream head. -/
def verifyHeadSignature (E : Ed25519) (headResolver : SourceVerifyKeyResolver E) (keyId : JsString)
    (headDigest signature : JsString) : Except FenceError Unit := do
  require (matchesBase64Url signature) .invalidSignatureEncoding
  let pub ← orThrow (headResolver keyId) .unknownKeyId
  require (E.verify pub headDigest.utf8 signature) .invalidSignature

/-- The header and the head that the columns of a row are read into. -/
def OutboxEntry.header (streamId : JsString) (entry : OutboxEntry) : OutboxRecordHeader where
  contractVersion := HA_OUTBOX_CONTRACT_VERSION
  streamId := streamId
  sourceEpoch := entry.1.sourceEpoch
  sequence := entry.1.sequence
  fenceToken := entry.1.fenceToken
  opDigest := entry.1.opDigest

def OutboxEntry.signedHead (streamId : JsString) (entry : OutboxEntry) : SignedStreamHead where
  streamId := streamId
  sequence := entry.1.sequence
  prevHeadDigest := entry.2.prevHeadDigest
  opDigest := entry.1.opDigest
  keyId := entry.2.keyId
  alg := entry.2.alg
  headDigest := entry.2.headDigest
  signature := entry.2.signature

/-- The head digest of a row and the one before it. -/
def verifyOneOutboxRow (E : Ed25519) (D : Sha256Bytes) (headResolver : SourceVerifyKeyResolver E)
    (streamId epoch : JsString) (expectSeq : Nat) (entry : OutboxEntry) :
    Except FenceError (JsString × JsString) := do
  require (1 ≤ entry.1.sequence ∧ entry.1.sequence ≤ MAX_SEQ) (.outOfRange "outbox row sequence")
  require (entry.1.sequence = expectSeq) .ledgerSequence
  require (entry.1.sourceEpoch = epoch) .ledgerSourceEpoch
  require (matchesHex64 entry.2.headDigest) (.invalidDigest "outbox head")
  require (matchesHex64 entry.2.prevHeadDigest) (.invalidDigest "outbox head_prev")
  require (matchesHex64 entry.1.opDigest) (.invalidDigest "outbox op_digest")
  liftContract (assertStreamHeadBinds D (entry.header streamId) (entry.signedHead streamId))
  require (entry.2.alg = JsString.lit "ed25519") .ledgerAlg
  verifyHeadSignature E headResolver entry.2.keyId entry.2.headDigest entry.2.signature
  return (entry.2.headDigest, entry.2.prevHeadDigest)

/-- The loop over the rows of a range; `prev` is the head digest before the first of them, and
`expectSeq` its number. -/
def verifyOutboxRows (E : Ed25519) (D : Sha256Bytes) (headResolver : SourceVerifyKeyResolver E)
    (streamId epoch : JsString) : JsString → Nat → List OutboxEntry → Except FenceError JsString
  | prev, _, [] => .ok prev
  | prev, expectSeq, entry :: rest => do
    let (headDigest, headPrev) ←
      verifyOneOutboxRow E D headResolver streamId epoch expectSeq entry
    require (headPrev = prev) .ledgerLink
    verifyOutboxRows E D headResolver streamId epoch headDigest (expectSeq + 1) rest

/-- The rows of one source epoch with a sequence in `(fromSeq, toSeq]`, in their order. -/
def rowsBetween (entries : List OutboxEntry) (epoch : JsString) (fromSeq toSeq : Nat) :
    List OutboxEntry :=
  entries.filter (fun entry =>
    entry.1.sourceEpoch = epoch ∧ fromSeq < entry.1.sequence ∧ entry.1.sequence ≤ toSeq)

def verifyOutboxLedgerRange (E : Ed25519) (D : Sha256Bytes)
    (headResolver : SourceVerifyKeyResolver E) (entries : List OutboxEntry)
    (streamId epoch : JsString) (fromSeq : Nat) (fromHeadDigest : JsString) (toSeq : Nat) :
    Except FenceError JsString := do
  require (fromSeq ≤ toSeq) .ledgerGap
  if toSeq = fromSeq then return fromHeadDigest
  let rows := rowsBetween entries epoch fromSeq toSeq
  require (rows.length = toSeq - fromSeq) .ledgerGap
  verifyOutboxRows E D headResolver streamId epoch fromHeadDigest (fromSeq + 1) rows

/-- `Buffer.compare`, as an order. -/
def bytesLe : List UInt8 → List UInt8 → Bool
  | [], _ => true
  | _ :: _, [] => false
  | a :: s, b :: t => a < b || (a = b && bytesLe s t)

/-- A tumbler with its latest counter. -/
abbrev StatePair := JsString × Int

/-- Sorted by the bytes of the tumbler ids. -/
def sortPairs (pairs : List StatePair) : List StatePair :=
  pairs.insertionSort (fun a b => bytesLe a.1.utf8 b.1.utf8 = true)

/-- For each tumbler its row with the highest sequence. -/
def latestRows (entries : List OutboxEntry) : List StatePair :=
  (entries.map (·.1.mutation.tumblerId)).dedup.filterMap (fun tumblerId =>
    (entries.reverse.find? (fun entry => entry.1.mutation.tumblerId = tumblerId)).map
      (fun entry => (tumblerId, entry.1.mutation.counter)))

/-- Without a source epoch the rows of all epochs count. -/
def readSourceStatePairs (entries : List OutboxEntry) (n : Nat) (sourceEpoch : Option JsString) :
    Except FenceError (List StatePair) := do
  let rows := entries.filter (fun entry =>
    (∀ epoch ∈ sourceEpoch, entry.1.sourceEpoch = epoch) ∧ entry.1.sequence ≤ (n : Int))
  let pairs := latestRows rows
  require (∀ pair ∈ pairs, 1 ≤ pair.2 ∧ pair.2 ≤ 2147483647) (.outOfRange "hotp_counter")
  return sortPairs pairs

def stateDigestFromPairs (D : Sha256Bytes) (streamId : JsString) (n : Nat)
    (pairs : List StatePair) : JsString :=
  D.hex (frame ([some (JsString.lit "tsk_source_state/v1"), some streamId, num n,
    num (sortPairs pairs).length] ++
    (sortPairs pairs).flatMap (fun pair => [some pair.1, some (JsString.ofInt pair.2)])))

def computeSourceStateDigest (D : Sha256Bytes) (entries : List OutboxEntry) (streamId : JsString)
    (n : Nat) (sourceEpoch : Option JsString) : Except FenceError JsString := do
  let s ← vId streamId (matchesStreamId 512) "streamId"
  let n ← vInt n "n" 0 MAX_SEQ
  let pairs ← readSourceStatePairs entries n sourceEpoch
  return stateDigestFromPairs D s n pairs

/-- The head at `n` with which the checkpoint has to agree; a ledger without rows is frozen at its
genesis. -/
def frozenHead (E : Ed25519) (D : Sha256Bytes) (headResolver : SourceVerifyKeyResolver E)
    (entries : List OutboxEntry) (streamId : JsString) (cp : OutboxCheckpoint) (n : Nat) :
    Except FenceError JsString :=
  if 1 ≤ n then do
    let head ← verifyOutboxLedgerRange E D headResolver entries streamId cp.sourceEpoch 0
      GENESIS_HEAD_ZERO n
    require (cp.headDigest = head) .checkpointDiverges
    return head
  else return GENESIS_HEAD_ZERO

/-- What a freeze derives from the ledger. -/
def freezeLedger (E : Ed25519) (D : Sha256Bytes) (headResolver : SourceVerifyKeyResolver E)
    (db : SourceDb) (streamId : JsString) : Except FenceError FrozenLedger := do
  let cp ← orThrow db.checkpoint .freezeNoCheckpoint
  require (0 ≤ cp.sequence ∧ cp.sequence ≤ MAX_SEQ) (.outOfRange "source sequence")
  let n := cp.sequence.toNat
  let headDigest ← frozenHead E D headResolver db.entries streamId cp n
  let stateDigest ← computeSourceStateDigest D db.entries streamId n (some cp.sourceEpoch)
  return { n, headDigest, stateDigest }

end TskProtocol
