import TskProtocol.SourceFence.Freeze

namespace TskProtocol

structure CheckpointIssueOptions (E : Ed25519) where
  sourceKeyId : JsString
  sourcePrivateKey : E.PrivateKey
  leaseResolver : SourceVerifyKeyResolver E
  headResolver : SourceVerifyKeyResolver E
  priorWitnessSeq : Nat

structure SignedLedgerHead where
  epoch : JsString
  n : Nat
  headN : JsString
  deriving DecidableEq, Repr

/-- The mutable checkpoint has to agree with the signed ledger behind it. -/
def deriveSignedLedgerHead (E : Ed25519) (D : Sha256Bytes) (headResolver : SourceVerifyKeyResolver E)
    (db : SourceDb) (streamId : JsString) : Except FenceError SignedLedgerHead := do
  let cp ← orThrow db.checkpoint .freezeNoCheckpoint
  require (0 ≤ cp.sequence ∧ cp.sequence ≤ MAX_SEQ) (.outOfRange "cp sequence")
  let n := cp.sequence.toNat
  require (1 ≤ n) .checkpointAtGenesis
  let headN ← verifyOutboxLedgerRange E D headResolver db.entries streamId cp.sourceEpoch 0
    GENESIS_HEAD_ZERO n
  require (matchesHex64 cp.headDigest) (.invalidDigest "cp head")
  require (cp.headDigest = headN) .checkpointDiverges
  return { epoch := cp.sourceEpoch, n, headN }

/-- The head that a receipt is anchored at. -/
def priorWitnessHead (E : Ed25519) (D : Sha256Bytes) (headResolver : SourceVerifyKeyResolver E)
    (entries : List OutboxEntry) (streamId epoch : JsString) (priorW : Nat) : Except FenceError JsString :=
  if 1 ≤ priorW then do
    let wRow ← orThrow (entries.find? (fun entry =>
      entry.1.sourceEpoch = epoch ∧ entry.1.sequence = (priorW : Int))) .witnessedRowMissing
    let (headDigest, _) ← verifyOneOutboxRow E D headResolver streamId epoch priorW wRow
    return headDigest
  else return GENESIS_HEAD_ZERO

/-- `systemId` is what the database says of itself. -/
def issueSourceCheckpointReceipt (E : Ed25519) (D : Sha256Bytes) (systemId : JsString)
    (source : FencedSource) (streamId : JsString) (opts : CheckpointIssueOptions E) :
    Except FenceError SourceCheckpointReceipt := do
  let s ← vId streamId (matchesStreamId 512) "streamId"
  let priorW ← vInt opts.priorWitnessSeq "priorWitnessSeq" 0 MAX_SEQ
  let lease ← orThrow (← readSourceLease E D opts.leaseResolver s source.leases) .noLease
  let derived ← deriveSignedLedgerHead E D opts.headResolver source.outbox s
  require (priorW ≤ derived.n) .witnessedHeightAhead
  let priorHeadDigest ← priorWitnessHead E D opts.headResolver source.outbox.entries s derived.epoch priorW
  let headAtN ← verifyOutboxLedgerRange E D opts.headResolver source.outbox.entries s derived.epoch priorW
    priorHeadDigest derived.n
  require (headAtN = derived.headN) .checkpointDiverges
  signSourceCheckpointReceipt E D opts.sourceKeyId opts.sourcePrivateKey {
    streamId := s
    sourceSystemId := systemId
    sourceSeq := derived.n
    sourceHeadDigest := derived.headN
    grantSeq := lease.seq
    priorSeq := priorW
    priorHeadDigest }

/-- In the epoch of the checkpoint, the ledger has `head` at the height `n`. -/
def SourceDb.HeadAt (db : SourceDb) (n : Nat) (head : JsString) : Prop :=
  ∃ cp ∈ db.checkpoint, (n : Int) ≤ cp.sequence ∧ ∃ entry ∈ db.entries,
    entry.1.sourceEpoch = cp.sourceEpoch ∧ entry.1.sequence = n ∧ entry.2.headDigest = head

/-- The key of `tsk_outbox_rows`. -/
def SourceDb.Keyed (db : SourceDb) : Prop :=
  ∀ a ∈ db.entries, ∀ b ∈ db.entries, a.1.sourceEpoch = b.1.sourceEpoch →
    a.1.sequence = b.1.sequence → a = b

/-- The number of the installed grant. -/
def FencedSource.grantSeq (s : FencedSource) : Nat := (s.leases.head.map (·.seq)).getD 0

variable {E : Ed25519} {D : Sha256Bytes} {headResolver : SourceVerifyKeyResolver E}
  {streamId epoch systemId prev head : JsString} {entries : List OutboxEntry} {entry : OutboxEntry}
  {db db' : SourceDb} {n : Nat}

theorem verifyOneOutboxRow_ok {heads : JsString × JsString}
    (h : verifyOneOutboxRow E D headResolver streamId epoch n entry = .ok heads) :
    entry.1.sequence = n ∧ entry.1.sourceEpoch = epoch ∧ matchesHex64 entry.2.headDigest = true ∧
      heads = (entry.2.headDigest, entry.2.prevHeadDigest) := by
  simp only [verifyOneOutboxRow, bind_eq_ok, require_eq_ok, pure_eq_ok, Except.ok.injEq] at h
  obtain ⟨_, -, _, hseq, _, hepoch, _, hhead, _, -, _, -, _, -, _, -, _, -, rfl⟩ := h
  exact ⟨hseq, hepoch, hhead, rfl⟩

/-- Verified rows lead to the head of the last one. -/
theorem verifyOutboxRows_ok {rows : List OutboxEntry} (hne : rows ≠ [])
    (h : verifyOutboxRows E D headResolver streamId epoch prev n rows = .ok head) :
    ∃ entry ∈ rows, entry.1.sequence + 1 = (n + rows.length : Nat) ∧ entry.1.sourceEpoch = epoch ∧
      entry.2.headDigest = head := by
  induction rows generalizing prev n with
  | nil => exact absurd rfl hne
  | cons row rest ih =>
    simp only [verifyOutboxRows, bind_eq_ok, require_eq_ok] at h
    obtain ⟨heads, hrow, _, -, hrest⟩ := h
    obtain ⟨hseq, hepoch, -, rfl⟩ := verifyOneOutboxRow_ok hrow
    by_cases hnil : rest = []
    · subst hnil
      rw [verifyOutboxRows, Except.ok.injEq] at hrest
      refine ⟨row, by simp, ?_, hepoch, hrest⟩
      rw [hseq]
      simp
    · obtain ⟨entry, hentry, hlast, hat, hhead⟩ := ih hnil hrest
      refine ⟨entry, List.mem_cons_of_mem _ hentry, ?_, hat, hhead⟩
      rw [hlast, List.length_cons]
      omega

theorem verifyOutboxLedgerRange_ok {fromSeq : Nat} (hlt : fromSeq < n)
    (h : verifyOutboxLedgerRange E D headResolver entries streamId epoch fromSeq prev n = .ok head) :
    ∃ entry ∈ entries, entry.1.sourceEpoch = epoch ∧ entry.1.sequence = n ∧ entry.2.headDigest = head := by
  simp only [verifyOutboxLedgerRange, bind_eq_ok, require_eq_ok, if_neg hlt.ne'] at h
  obtain ⟨_, -, _, hlength, hrows⟩ := h
  have hne : rowsBetween entries epoch fromSeq n ≠ [] := by
    intro hnil
    rw [hnil, List.length_nil] at hlength
    omega
  obtain ⟨entry, hentry, hseq, hepoch, hhead⟩ := verifyOutboxRows_ok hne hrows
  refine ⟨entry, (List.mem_filter.mp hentry).1, hepoch, ?_, hhead⟩
  rw [hlength] at hseq
  omega

theorem deriveSignedLedgerHead_ok {derived : SignedLedgerHead}
    (h : deriveSignedLedgerHead E D headResolver db streamId = .ok derived) :
    1 ≤ derived.n ∧ (∃ cp ∈ db.checkpoint, cp.sequence = derived.n ∧ cp.sourceEpoch = derived.epoch) ∧
      db.HeadAt derived.n derived.headN := by
  simp only [deriveSignedLedgerHead, bind_eq_ok, orThrow_eq_ok, require_eq_ok, pure_eq_ok,
    Except.ok.injEq] at h
  obtain ⟨cp, hcp, _, ⟨hpos, -⟩, _, hn, headN, hrange, _, -, _, -, rfl⟩ := h
  have hseq : cp.sequence = cp.sequence.toNat := (Int.toNat_of_nonneg hpos).symm
  exact ⟨hn, ⟨cp, hcp, hseq, rfl⟩, cp, hcp, hseq.ge, verifyOutboxLedgerRange_ok hn hrange⟩

/-- Where a receipt is anchored: at the genesis, or at a row of the ledger. -/
structure AnchoredIn (db : SourceDb) (r : SourceCheckpointReceipt) : Prop where
  genesis : r.priorSeq = 0 → r.priorHeadDigest = GENESIS_HEAD_ZERO
  row : 1 ≤ r.priorSeq → db.HeadAt r.priorSeq r.priorHeadDigest

theorem priorWitnessHead_ok {priorW : Nat} {cp : OutboxCheckpoint} (hcp : cp ∈ db.checkpoint)
    (hle : (priorW : Int) ≤ cp.sequence)
    (h : priorWitnessHead E D headResolver db.entries streamId cp.sourceEpoch priorW = .ok head) :
    (priorW = 0 → head = GENESIS_HEAD_ZERO) ∧ (1 ≤ priorW → db.HeadAt priorW head) := by
  simp only [priorWitnessHead] at h
  split at h
  · next hpos =>
    simp only [bind_eq_ok, orThrow_eq_ok, pure_eq_ok, Except.ok.injEq] at h
    obtain ⟨wRow, hfind, heads, hrow, rfl⟩ := h
    obtain ⟨hseq, hepoch, -, rfl⟩ := verifyOneOutboxRow_ok hrow
    exact ⟨fun hzero => by omega, fun _ => ⟨cp, hcp, hle, wRow, List.mem_of_find?_eq_some hfind,
      hepoch, hseq, rfl⟩⟩
  · next hzero =>
    simp only [pure_eq_ok, Except.ok.injEq] at h
    exact ⟨fun _ => h.symm, fun hpos => absurd hpos hzero⟩

theorem signSourceCheckpointReceipt_ok {keyId : JsString} {key : E.PrivateKey} {b : BareCheckpointReceipt}
    {r : SourceCheckpointReceipt} (h : signSourceCheckpointReceipt E D keyId key b = .ok r) :
    r.toBareCheckpointReceipt = b ∧ r.sourceSeq ≤ MAX_SEQ ∧ r.grantSeq ≤ MAX_SEQ ∧
      matchesHex64 r.sourceHeadDigest = true ∧
      ∀ resolver : SourceVerifyKeyResolver E, resolver keyId = some (E.publicKey key) →
        verifySourceCheckpointReceipt E D resolver r = .ok () := by
  simp only [signSourceCheckpointReceipt, bind_eq_ok, vId_eq_ok, vInt_eq_ok, require_eq_ok, pure_eq_ok,
    Except.ok.injEq] at h
  obtain ⟨_, -, _, -, _, ⟨⟨-, hsource⟩, -⟩, _, ⟨⟨-, hgrant⟩, -⟩, _, -, _, hhead, _, -, signature, hsign,
    rfl⟩ := h
  refine ⟨rfl, hsource, hgrant, hhead, fun resolver hresolve => ?_⟩
  simp only [verifySourceCheckpointReceipt, bind_eq_ok, require_eq_ok]
  exact ⟨(), trivial, verifySig_of_sign hsign hresolve⟩

/-- What an issued receipt says of the source, and of its anchor. -/
structure CheckpointIssued (E : Ed25519) (D : Sha256Bytes) (systemId : JsString) (source : FencedSource)
    (streamId : JsString) (opts : CheckpointIssueOptions E) (r : SourceCheckpointReceipt) : Prop where
  stream : matchesStreamId 512 streamId = true ∧ r.streamId = streamId
  system : r.sourceSystemId = systemId
  grantSeq : r.grantSeq = source.grantSeq
  height : 1 ≤ r.sourceSeq ∧ ∃ cp ∈ source.outbox.checkpoint, cp.sequence = r.sourceSeq
  head : source.outbox.HeadAt r.sourceSeq r.sourceHeadDigest
  prior : r.priorSeq = opts.priorWitnessSeq
  anchored : AnchoredIn source.outbox r
  signed : signSourceCheckpointReceipt E D opts.sourceKeyId opts.sourcePrivateKey
    r.toBareCheckpointReceipt = .ok r

theorem issueSourceCheckpointReceipt_ok {source : FencedSource} {opts : CheckpointIssueOptions E}
    {r : SourceCheckpointReceipt}
    (h : issueSourceCheckpointReceipt E D systemId source streamId opts = .ok r) :
    CheckpointIssued E D systemId source streamId opts r := by
  simp only [issueSourceCheckpointReceipt, bind_eq_ok, vId_eq_ok, vInt_eq_ok, orThrow_eq_ok,
    require_eq_ok] at h
  obtain ⟨_, ⟨hstream, rfl⟩, _, ⟨-, rfl⟩, cur, hcur, lease, hlease, derived, hderived, _, hprior, anchor,
    hanchor, _, -, _, -, hsign⟩ := h
  obtain ⟨hn, ⟨cp, hcp, hseq, hepoch⟩, hhead⟩ := deriveSignedLedgerHead_ok hderived
  have hbare := (signSourceCheckpointReceipt_ok hsign).1
  rw [← hbare] at hsign
  obtain ⟨b, digest, keyId, signature⟩ := r
  obtain rfl : b = _ := hbare
  rw [← hepoch] at hanchor
  obtain ⟨hgenesis, hrow⟩ := priorWitnessHead_ok hcp (by omega) hanchor
  refine ⟨⟨hstream, rfl⟩, rfl, ?_, ⟨hn, cp, hcp, hseq⟩, hhead, rfl, ⟨hgenesis, hrow⟩, hsign⟩
  rw [FencedSource.grantSeq, head_of_readSourceLease hcur, hlease]
  rfl

end TskProtocol
