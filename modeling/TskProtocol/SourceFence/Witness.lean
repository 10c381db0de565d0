import TskProtocol.Lib.Machine
import TskProtocol.SourceFence.Grant

namespace TskProtocol

def GENESIS_HEAD_ZERO : JsString := List.replicate 64 48

structure BareCheckpointReceipt where
  streamId : JsString
  sourceSystemId : JsString
  sourceSeq : Nat
  sourceHeadDigest : JsString
  grantSeq : Nat
  priorSeq : Nat
  priorHeadDigest : JsString
  deriving DecidableEq, Repr

structure SourceCheckpointReceipt extends BareCheckpointReceipt where
  receiptDigest : JsString
  sourceKeyId : JsString
  sourceSignature : JsString
  deriving DecidableEq, Repr

def checkpointReceiptMsg (b : BareCheckpointReceipt) (digest : JsString) : List UInt8 :=
  frame [some (JsString.lit "tsk_source_checkpoint/v1"), some b.streamId, some b.sourceSystemId,
    num b.sourceSeq, some b.sourceHeadDigest, num b.grantSeq, num b.priorSeq,
    some b.priorHeadDigest, some digest]

/-- Signs whatever checkpoint it is given. -/
def signSourceCheckpointReceipt (E : Ed25519) (D : Sha256Bytes) (sourceKeyId : JsString)
    (sourcePrivateKey : E.PrivateKey) (b : BareCheckpointReceipt) :
    Except FenceError SourceCheckpointReceipt := do
  let _ ← vId b.streamId (matchesStreamId 512) "streamId"
  let _ ← vId b.sourceSystemId matchesId "sourceSystemId"
  let _ ← vInt b.sourceSeq "sourceSeq" 0 MAX_SEQ
  let _ ← vInt b.grantSeq "grantSeq" 0 MAX_SEQ
  let _ ← vInt b.priorSeq "priorSeq" 0 MAX_SEQ
  require (matchesHex64 b.sourceHeadDigest) (.invalidDigest "sourceHeadDigest")
  require (matchesHex64 b.priorHeadDigest) (.invalidDigest "priorHeadDigest")
  let receiptDigest := D.hex (checkpointReceiptMsg b [])
  let sourceSignature ← edSignB64u E sourceKeyId sourcePrivateKey
    (checkpointReceiptMsg b receiptDigest)
  return { b with receiptDigest, sourceKeyId, sourceSignature }

def verifySourceCheckpointReceipt (E : Ed25519) (D : Sha256Bytes)
    (resolver : SourceVerifyKeyResolver E) (r : SourceCheckpointReceipt) :
    Except FenceError Unit := do
  require (D.hex (checkpointReceiptMsg r.toBareCheckpointReceipt []) = r.receiptDigest)
    .checkpointReceiptDigestMismatch
  verifySig E resolver r.sourceKeyId
    (checkpointReceiptMsg r.toBareCheckpointReceipt r.receiptDigest) r.sourceSignature

/-- The columns of a witness row that are not links. -/
structure WitnessColumns where
  sourceSystemId : JsString
  maxGrantSeq : Nat
  maxSourceSeq : Nat
  sourceHeadDigest : JsString
  deriving DecidableEq, Repr

abbrev WitnessRecord := Linked WitnessColumns JsString (JsString × JsString)

/-- `tsk_source_witness` and its history, the rows of one stream. -/
abbrev SourceWitnessTable := SignedTable WitnessColumns JsString (JsString × JsString)

def witnessMsg (s : JsString) (c : WitnessColumns) (wseq : Nat) (prev : Option JsString)
    (digest : JsString) : List UInt8 :=
  frame [some (JsString.lit "tsk_source_witness/v1"), some s, some c.sourceSystemId,
    num c.maxGrantSeq, num c.maxSourceSeq, some c.sourceHeadDigest, num wseq, prev, some digest]

def witnessReader (E : Ed25519) (D : Sha256Bytes) (resolver : SourceVerifyKeyResolver E)
    (streamId : JsString) : ChainReader WitnessColumns JsString (JsString × JsString) where
  readable l :=
    l.body.maxGrantSeq ≤ MAX_SEQ && l.body.maxSourceSeq ≤ MAX_SEQ &&
      matchesHex64 l.body.sourceHeadDigest && 1 ≤ l.seq && l.seq ≤ MAX_SEQ &&
      l.prev.all matchesHex64 && matchesHex64 l.digest
  digestOf c seq prev := D.hex (witnessMsg streamId c seq prev [])
  verifies l :=
    verifySig E resolver l.signature.1 (witnessMsg streamId l.body l.seq l.prev l.digest)
      l.signature.2 = .ok ()

def verifiedWitnessHead (E : Ed25519) (D : Sha256Bytes) (resolver : SourceVerifyKeyResolver E)
    (streamId : JsString) (row : WitnessRecord) : Except FenceError WitnessRecord := do
  chainCheck "witness head" ((witnessReader E D resolver streamId).verifyHead row)
  return row

def verifyWitnessHistoryChain (E : Ed25519) (D : Sha256Bytes) (resolver : SourceVerifyKeyResolver E)
    (streamId : JsString) (rows : List WitnessRecord) (head : Option WitnessRecord) : Except FenceError Unit :=
  chainCheck "witness history" ((witnessReader E D resolver streamId).verifyHistory rows head)

/-- A history without a head is refused here. -/
def readSourceWitness (E : Ed25519) (D : Sha256Bytes) (resolver : SourceVerifyKeyResolver E)
    (streamId : JsString) (t : SourceWitnessTable) : Except FenceError (Option WitnessRecord) := do
  let _ ← vId streamId (matchesStreamId 512) "streamId"
  match t.read (witnessReader E D resolver streamId) with
  | .error _ => throw (.history "source witness")
  | .ok none => do
    require (t.history.isEmpty) (.history "source witness")
    return none
  | .ok (some head) => return some head

/-- The key that a control authority signs its witness with. -/
structure WitnessGuard (E : Ed25519) where
  keyId : JsString
  privateKey : E.PrivateKey

/-- What a receipt has to show of the witness it advances. -/
def checkContinuity (cur : Option WitnessRecord) (receipt : SourceCheckpointReceipt) :
    Except FenceError Unit :=
  match cur with
  | some c => do
    require (receipt.sourceSystemId = c.body.sourceSystemId) .witnessSystemChanged
    require (c.body.maxGrantSeq ≤ receipt.grantSeq) .witnessGrantRegresses
    require (c.body.maxSourceSeq ≤ receipt.sourceSeq) .witnessHeightRegresses
    -- the head of the receipt at its own height is compared with nothing
    require (receipt.priorSeq = c.body.maxSourceSeq) .witnessPriorSeq
    require (receipt.priorHeadDigest = c.body.sourceHeadDigest) .witnessPriorHead
  | none => do
    require (receipt.priorSeq = 0) .witnessPriorSeq
    require (receipt.priorHeadDigest = GENESIS_HEAD_ZERO) .witnessPriorHead

def SourceCheckpointReceipt.columns (r : SourceCheckpointReceipt) : WitnessColumns where
  sourceSystemId := r.sourceSystemId
  maxGrantSeq := r.grantSeq
  maxSourceSeq := r.sourceSeq
  sourceHeadDigest := r.sourceHeadDigest

/-- The witness that the advance leaves as the result, and the tables after it. -/
def advanceSourceWitnessInTx (E : Ed25519) (D : Sha256Bytes) (resolver : SourceVerifyKeyResolver E)
    (guard : WitnessGuard E) (t : SourceWitnessTable) (receipt : SourceCheckpointReceipt) :
    Except FenceError (WitnessRecord × SourceWitnessTable) := do
  require (matchesKeyId guard.keyId) .invalidKeyId
  verifySourceCheckpointReceipt E D resolver receipt
  let s ← vId receipt.streamId (matchesStreamId 512) "streamId"
  let cur ← readSourceWitness E D resolver s t
  match cur.filter (fun c => c.body = receipt.columns) with
  | some c => return (c, t)
  | none => do
    checkContinuity cur receipt
    require (matchesHex64 receipt.sourceHeadDigest) .constraintViolation
    let sign := fun c seq prev digest =>
      (guard.keyId, E.sign guard.privateKey
        (withKey "tsk_src_key" guard.keyId (witnessMsg s c seq prev digest)))
    let record := t.next (witnessReader E D resolver s) sign receipt.columns
    return (record, t.append record)

/-- `assertSourceWitnessConsistent`: the live state of a source against its witness. -/
def assertSourceWitnessConsistent (witness : Option WitnessRecord) (live : WitnessColumns) :
    Except FenceError Unit :=
  match witness with
  | none => return ()
  | some w => do
    require (live.sourceSystemId = w.body.sourceSystemId) .witnessSystemChanged
    require (w.body.maxGrantSeq ≤ live.maxGrantSeq) .witnessGrantRegresses
    require (w.body.maxSourceSeq ≤ live.maxSourceSeq) .witnessHeightRegresses
    if live.maxSourceSeq = w.body.maxSourceSeq then do
      require (matchesHex64 live.sourceHeadDigest) (.invalidDigest "live.headDigest")
      require (live.sourceHeadDigest = w.body.sourceHeadDigest) .witnessPriorHead

/-- The witness tables of a control database, one for each stream. -/
abbrev SourceWitnesses := JsString → SourceWitnessTable

/-- Receipts offered one after the other; a refused one changes nothing. -/
def witnessAdvances (E : Ed25519) (D : Sha256Bytes) (resolver : SourceVerifyKeyResolver E)
    (guard : WitnessGuard E) : Machine SourceWitnesses SourceCheckpointReceipt where
  step db r := some <|
    match advanceSourceWitnessInTx E D resolver guard (db r.streamId) r with
    | .ok (_, t) => Function.update db r.streamId t
    | .error _ => db

/-- Heights do not decrease, and every height stands for one head. -/
structure OneHeadPerHeight (t : SourceWitnessTable) : Prop where
  heights : t.bodies.Pairwise (fun a b => a.maxSourceSeq ≤ b.maxSourceSeq)
  heads : ∀ a ∈ t.bodies, ∀ b ∈ t.bodies, a.maxSourceSeq = b.maxSourceSeq →
    a.sourceHeadDigest = b.sourceHeadDigest

/-- A receipt that does not just repeat the witness, and is for the height that it is anchored
at, names the head that it is anchored at. -/
def Anchored (t : SourceWitnessTable) (r : SourceCheckpointReceipt) : Prop :=
  ∀ c ∈ t.head, c.body ≠ r.columns → r.sourceSeq = r.priorSeq →
    r.sourceHeadDigest = r.priorHeadDigest

variable {E : Ed25519} {D : Sha256Bytes} {resolver : SourceVerifyKeyResolver E}
  {guard : WitnessGuard E} {t t' : SourceWitnessTable} {r : SourceCheckpointReceipt}
  {record : WitnessRecord}

theorem head_of_readSourceWitness {s : JsString} {cur : Option WitnessRecord}
    (h : readSourceWitness E D resolver s t = .ok cur) : t.head = cur := by
  simp only [readSourceWitness, bind_eq_ok, vId_eq_ok] at h
  obtain ⟨_, -, h⟩ := h
  split at h
  · cases h
  · next hread =>
    simp only [bind_eq_ok, require_eq_ok, pure_eq_ok] at h
    obtain ⟨_, -, h⟩ := h
    cases h
    exact SignedTable.head_of_read hread
  · next hread =>
    cases h
    exact SignedTable.head_of_read hread

theorem verifiedWitnessHead_eq_ok {s : JsString} {row row' : WitnessRecord} :
    verifiedWitnessHead E D resolver s row = .ok row' ↔
      (witnessReader E D resolver s).verifyHead row = .ok () ∧ row = row' := by
  simp [verifiedWitnessHead, bind_eq_ok]

theorem readSourceWitness_eq_ok {s : JsString} {cur : Option WitnessRecord} :
    readSourceWitness E D resolver s t = .ok cur ↔
      matchesStreamId 512 s = true ∧ t.head = cur ∧
        (∀ row ∈ cur, verifiedWitnessHead E D resolver s row = .ok row) ∧
        verifyWitnessHistoryChain E D resolver s t.history cur = .ok () := by
  have hread : readSourceWitness E D resolver s t = .ok cur ↔ matchesStreamId 512 s = true ∧
      t.read (witnessReader E D resolver s) = .ok cur ∧ (cur = none → t.history = []) := by
    simp only [readSourceWitness, bind_eq_ok, vId_eq_ok]
    cases t.read (witnessReader E D resolver s) with
    | error fault => simp
    | ok row => cases row <;> cases cur <;> simp [bind_eq_ok]
  rw [hread, SignedTable.read_eq_ok]
  simp only [verifiedWitnessHead_eq_ok, verifyWitnessHistoryChain, chainCheck_eq_ok, and_true]

/-- A receipt that goes on from the witness, or that opens it. -/
inductive Continues (cur : Option WitnessRecord) (r : SourceCheckpointReceipt) : Prop
  | on (c : WitnessRecord) : cur = some c → c.body.maxSourceSeq ≤ r.sourceSeq →
      r.priorSeq = c.body.maxSourceSeq → r.priorHeadDigest = c.body.sourceHeadDigest →
      Continues cur r
  | first : cur = none → r.priorSeq = 0 → Continues cur r

theorem continues_of_checkContinuity {cur : Option WitnessRecord}
    (h : checkContinuity cur r = .ok ()) : Continues cur r := by
  cases cur with
  | none =>
    simp only [checkContinuity, bind_eq_ok, require_eq_ok] at h
    obtain ⟨_, hseq, -⟩ := h
    exact .first rfl hseq
  | some c =>
    simp only [checkContinuity, bind_eq_ok, require_eq_ok] at h
    obtain ⟨_, -, _, -, _, hheight, _, hseq, hhead⟩ := h
    exact .on c rfl hheight hseq hhead

theorem readSourceWitness_of_sound {s : JsString} (hs : matchesStreamId 512 s = true)
    (h : t.Sound (witnessReader E D resolver s)) : readSourceWitness E D resolver s t = .ok t.head := by
  obtain ⟨-, hrow, hhistory⟩ := SignedTable.read_eq_ok.mp ⟨h.read, h.headed.history_eq_nil⟩
  rw [readSourceWitness_eq_ok]
  simp only [verifiedWitnessHead_eq_ok, verifyWitnessHistoryChain, chainCheck_eq_ok, and_true]
  exact ⟨hs, trivial, hrow, hhistory⟩

/-- A head that is read has a number in range. -/
theorem seq_le_of_readSourceWitness {s : JsString} {cur : Option WitnessRecord}
    (h : readSourceWitness E D resolver s t = .ok cur) : (t.head.map (·.seq)).getD 0 ≤ MAX_SEQ := by
  obtain ⟨-, rfl, hrow, -⟩ := readSourceWitness_eq_ok.mp h
  cases hhead : t.head with
  | none => exact Nat.zero_le _
  | some row =>
    have hreadable := (ChainReader.verifyHead_eq_ok.mp (verifiedWitnessHead_eq_ok.mp (hrow row hhead)).1).1
    simp only [witnessReader, Bool.and_eq_true, decide_eq_true_eq] at hreadable
    exact hreadable.1.1.2

/-- The row that an advance adds. -/
def nextWitnessRecord (E : Ed25519) (D : Sha256Bytes) (resolver : SourceVerifyKeyResolver E)
    (guard : WitnessGuard E) (t : SourceWitnessTable) (r : SourceCheckpointReceipt) : WitnessRecord :=
  t.next (witnessReader E D resolver r.streamId) (fun c seq prev digest =>
    (guard.keyId, E.sign guard.privateKey
      (withKey "tsk_src_key" guard.keyId (witnessMsg r.streamId c seq prev digest)))) r.columns

/-- An advance finds the checkpoint at the head, or it adds a row that goes on from the head. -/
theorem advanceSourceWitnessInTx_eq_ok :
    advanceSourceWitnessInTx E D resolver guard t r = .ok (record, t') ↔
      matchesKeyId guard.keyId = true ∧ verifySourceCheckpointReceipt E D resolver r = .ok () ∧
        readSourceWitness E D resolver r.streamId t = .ok t.head ∧
        (t.head = some record ∧ record.body = r.columns ∧ t' = t ∨
          (∀ c ∈ t.head, c.body ≠ r.columns) ∧ checkContinuity t.head r = .ok () ∧
            matchesHex64 r.sourceHeadDigest = true ∧ record = nextWitnessRecord E D resolver guard t r ∧
            t' = t.append record) := by
  simp only [advanceSourceWitnessInTx, bind_eq_ok, require_eq_ok, vId_eq_ok]
  constructor
  · rintro ⟨_, hkey, _, hverify, _, ⟨-, rfl⟩, cur, hcur, h⟩
    obtain rfl := head_of_readSourceWitness hcur
    refine ⟨hkey, hverify, hcur, ?_⟩
    split at h
    · next c hc =>
      obtain ⟨hhead, hbody⟩ := Option.filter_eq_some_iff.mp hc
      cases h
      exact .inl ⟨hhead, of_decide_eq_true hbody, rfl⟩
    · next hnone =>
      simp only [bind_eq_ok, require_eq_ok] at h
      obtain ⟨_, hcontinuity, _, hhex, h⟩ := h
      cases h
      refine .inr ⟨fun c hc hbody => ?_, hcontinuity, hhex, rfl, rfl⟩
      simpa [hbody] using Option.filter_eq_none_iff.mp hnone c hc
  · rintro ⟨hkey, hverify, hcur, hrest⟩
    have hstream := (readSourceWitness_eq_ok.mp hcur).1
    refine ⟨(), hkey, (), hverify, _, ⟨hstream, rfl⟩, _, hcur, ?_⟩
    rcases hrest with ⟨hhead, hbody, rfl⟩ | ⟨hnew, hcontinuity, hhex, rfl, rfl⟩
    · have hfilter : t'.head.filter (fun c => c.body = r.columns) = some record :=
        Option.filter_eq_some_iff.mpr ⟨hhead, decide_eq_true hbody⟩
      simp only [hfilter, pure_eq_ok]
    · have hfilter : t.head.filter (fun c => c.body = r.columns) = none :=
        Option.filter_eq_none_iff.mpr fun c hc => by simpa using hnew c hc
      rw [hfilter]
      simp only [bind_eq_ok, require_eq_ok]
      exact ⟨(), hcontinuity, (), hhex, rfl⟩

theorem advanceSourceWitnessInTx_ok
    (h : advanceSourceWitnessInTx E D resolver guard t r = .ok (record, t')) :
    record.body = r.columns ∧ (t' = t ∧ t.head = some record ∨
      (∀ c ∈ t.head, c.body ≠ r.columns) ∧ Continues t.head r ∧ t' = t.append record) := by
  obtain ⟨-, -, -, ⟨hhead, hbody, rfl⟩ | ⟨hnew, hcontinuity, -, rfl, rfl⟩⟩ :=
    advanceSourceWitnessInTx_eq_ok.mp h
  · exact ⟨hbody, .inl ⟨rfl, hhead⟩⟩
  · exact ⟨rfl, .inr ⟨hnew, continues_of_checkContinuity hcontinuity, rfl⟩⟩

/-- The step lemma: behind the head of its height comes nothing but that head again. -/
theorem OneHeadPerHeight.append (h : OneHeadPerHeight t) (hheaded : t.Headed)
    (hbody : record.body = r.columns) (hcontinues : Continues t.head r)
    (hnew : ∀ c ∈ t.head, c.body ≠ r.columns) (hanchored : Anchored t r) :
    OneHeadPerHeight (t.append record) := by
  have hbehind : ∀ a ∈ t.bodies, a.maxSourceSeq ≤ r.sourceSeq ∧
      (a.maxSourceSeq = r.sourceSeq → a.sourceHeadDigest = r.sourceHeadDigest) := by
    intro a ha
    obtain ⟨c, hc⟩ := hheaded.exists_head ha
    have hle := hheaded.rel_of_pairwise h.heights (fun _ => le_rfl) hc ha
    cases hcontinues with
    | first hnone => simp [hc] at hnone
    | on c' hc' hheight hseq hhead =>
      obtain rfl := Option.some.inj (hc.symm.trans hc')
      refine ⟨hle.trans hheight, fun hsame => ?_⟩
      have hprior : r.sourceSeq = r.priorSeq := by omega
      rw [hanchored c hc (hnew c hc) hprior, hhead]
      exact h.heads a ha c.body (hheaded.mem_bodies hc) (by omega)
  refine ⟨?_, ?_⟩
  · rw [SignedTable.bodies_append, List.pairwise_append]
    refine ⟨h.heights, List.pairwise_singleton _ _, fun a ha b hb => ?_⟩
    rw [List.mem_singleton.mp hb, hbody]
    exact (hbehind a ha).1
  · intro a ha b hb hsame
    simp only [SignedTable.bodies_append, List.mem_append, List.mem_singleton, hbody] at ha hb
    rcases ha with ha | rfl <;> rcases hb with hb | rfl
    · exact h.heads a ha b hb hsame
    · exact (hbehind a ha).2 hsame
    · exact ((hbehind b hb).2 hsame.symm).symm
    · rfl

/-- A receipt that names another head at its anchor leaves two heads at one height. -/
theorem not_oneHeadPerHeight_append (hheaded : t.Headed) (hbody : record.body = r.columns)
    (hcontinues : Continues t.head r) (hanchored : ¬ Anchored t r) :
    ¬ OneHeadPerHeight (t.append record) := by
  intro h
  simp only [Anchored, not_forall] at hanchored
  obtain ⟨c, hc, -, hprior, hother⟩ := hanchored
  cases hcontinues with
  | first hnone => simp [hnone] at hc
  | on c' hc' hheight hseq hhead =>
    obtain rfl := Option.some.inj (hc.symm.trans hc')
    refine hother ?_
    have hold : c.body ∈ (t.append record).bodies := by
      simp [hheaded.mem_bodies hc]
    have hrow : r.columns ∈ (t.append record).bodies := by
      simp [hbody]
    rw [hhead]
    exact h.heads r.columns hrow c.body hold (hprior.trans hseq)

/-- What a table of witnesses keeps while only anchored receipts are offered. -/
theorem oneHead_of_runs {rs : List SourceCheckpointReceipt} {db : SourceWitnesses}
    (h : (witnessAdvances E D resolver guard).Runs (fun db r => Anchored (db r.streamId) r)
      (fun _ => {}) rs db) (s : JsString) : (db s).Headed ∧ OneHeadPerHeight (db s) := by
  revert s
  refine h.invariant (I := fun db => ∀ s, (db s).Headed ∧ OneHeadPerHeight (db s)) ?_
    (fun _ => ⟨SignedTable.headed_empty, .nil, by simp⟩)
  intro db r db' hdb hanchored hstep s
  simp only [witnessAdvances, Option.some.injEq] at hstep
  split at hstep
  · next record t hok =>
    subst hstep
    by_cases hs : s = r.streamId
    · subst hs
      rw [Function.update_self]
      obtain ⟨hheaded, hone⟩ := hdb r.streamId
      obtain ⟨hbody, ⟨rfl, -⟩ | ⟨hnew, hcontinues, rfl⟩⟩ := advanceSourceWitnessInTx_ok hok
      · exact ⟨hheaded, hone⟩
      · exact ⟨SignedTable.headed_append _ _, hone.append hheaded hbody hcontinues hnew hanchored⟩
    · rw [Function.update_of_ne hs]
      exact hdb s
  · rw [← hstep]
    exact hdb s

/-- While every receipt offered names the head it is anchored at wherever it is for that
height, heights do not decrease and each has one head, so that a receipt with another head is
refused; and the first receipt taken that does not is the end of that. -/
theorem witness_heads_single {rs : List SourceCheckpointReceipt} {db : SourceWitnesses}
    (h : (witnessAdvances E D resolver guard).Runs (fun db r => Anchored (db r.streamId) r)
      (fun _ => {}) rs db) :
    (∀ s, OneHeadPerHeight (db s)) ∧
    (∀ r, Anchored (db r.streamId) r →
      (∃ a ∈ (db r.streamId).bodies, a.maxSourceSeq = r.sourceSeq ∧
        a.sourceHeadDigest ≠ r.sourceHeadDigest) →
      ∃ e, advanceSourceWitnessInTx E D resolver guard (db r.streamId) r = .error e) ∧
    ∀ r record t, advanceSourceWitnessInTx E D resolver guard (db r.streamId) r = .ok (record, t) →
      r.columns ∈ t.bodies ∧ (OneHeadPerHeight t ↔ Anchored (db r.streamId) r) := by
  have hkept : ∀ r record t,
      advanceSourceWitnessInTx E D resolver guard (db r.streamId) r = .ok (record, t) →
      r.columns ∈ t.bodies ∧ (∀ a ∈ (db r.streamId).bodies, a ∈ t.bodies) ∧
        (OneHeadPerHeight t ↔ Anchored (db r.streamId) r) := by
    intro r record t hok
    obtain ⟨hheaded, hone⟩ := oneHead_of_runs h r.streamId
    obtain ⟨hbody, ⟨rfl, hhead⟩ | ⟨hnew, hcontinues, rfl⟩⟩ := advanceSourceWitnessInTx_ok hok
    · refine ⟨hbody ▸ hheaded.mem_bodies hhead, fun a ha => ha,
        fun _ c hc hother => absurd ?_ hother, fun _ => hone⟩
      rw [← hbody, Option.some.inj (hc.symm.trans hhead)]
    · refine ⟨by simp [hbody], fun a ha => by simp [ha], fun hone' => ?_,
        hone.append hheaded hbody hcontinues hnew⟩
      by_contra hanchored
      exact not_oneHeadPerHeight_append hheaded hbody hcontinues hanchored hone'
  refine ⟨fun s => (oneHead_of_runs h s).2, fun r hanchored hfork => ?_,
    fun r record t hok => ⟨(hkept r record t hok).1, (hkept r record t hok).2.2⟩⟩
  obtain ⟨a, ha, hheight, hother⟩ := hfork
  cases hok : advanceSourceWitnessInTx E D resolver guard (db r.streamId) r with
  | error e => exact ⟨e, rfl⟩
  | ok result =>
    obtain ⟨record, t⟩ := result
    obtain ⟨hrow, hold, hiff⟩ := hkept r record t hok
    exact absurd ((hiff.mpr hanchored).heads a (hold a ha) r.columns hrow hheight) hother

section Sample

def sampleHead (c : UInt16) : JsString := List.replicate 64 c

/-- A receipt for the height `seq`, anchored at `priorSeq`, signed by the key that `k` names. -/
def sampleCheckpointReceipt (seq : Nat) (head : JsString) (priorSeq : Nat) (priorHead : JsString) :
    SourceCheckpointReceipt :=
  let bare : BareCheckpointReceipt := {
    streamId := JsString.lit "s"
    sourceSystemId := JsString.lit "1"
    sourceSeq := seq
    sourceHeadDigest := head
    grantSeq := 1
    priorSeq := priorSeq
    priorHeadDigest := priorHead }
  let digest := rollingSha256.hex (checkpointReceiptMsg bare [])
  { bare with
    receiptDigest := digest
    sourceKeyId := JsString.lit "k"
    sourceSignature := rollingSha256.hex ([3] ++
      withKey "tsk_src_key" (JsString.lit "k") (checkpointReceiptMsg bare digest)) }

def sampleWitnesses : Machine SourceWitnesses SourceCheckpointReceipt :=
  witnessAdvances sampleEd25519 rollingSha256 (fun _ => some [3])
    { keyId := JsString.lit "k", privateKey := ([3] : List UInt8) }

/-- The second receipt is for the witnessed height, and names another head there. -/
def sampleFork : List SourceCheckpointReceipt :=
  [sampleCheckpointReceipt 1 (sampleHead 97) 0 GENESIS_HEAD_ZERO,
    sampleCheckpointReceipt 1 (sampleHead 98) 1 (sampleHead 97)]

theorem sample_fork : ∃ db, sampleWitnesses.Reaches (fun _ => {}) sampleFork db ∧
    (db (JsString.lit "s")).bodies.map (fun c => (c.maxSourceSeq, c.sourceHeadDigest)) =
      [(1, sampleHead 97), (1, sampleHead 98)] :=
  Machine.Runs.of_observed _ _ (fun db : SourceWitnesses =>
    (db (JsString.lit "s")).bodies.map (fun c => (c.maxSourceSeq, c.sourceHeadDigest)))
    (by decide +kernel)

def sampleAnchored : List SourceCheckpointReceipt :=
  [sampleCheckpointReceipt 1 (sampleHead 97) 0 GENESIS_HEAD_ZERO,
    sampleCheckpointReceipt 3 (sampleHead 98) 1 (sampleHead 97)]

instance (t : SourceWitnessTable) (r : SourceCheckpointReceipt) : Decidable (Anchored t r) := by
  unfold Anchored
  infer_instance

theorem sample_anchored : ∃ db, sampleWitnesses.Runs (fun db r => Anchored (db r.streamId) r)
    (fun _ => {}) sampleAnchored db ∧
    (db (JsString.lit "s")).bodies.map (·.maxSourceSeq) = [1, 3] :=
  Machine.Runs.of_observed _ _ (fun db : SourceWitnesses =>
    (db (JsString.lit "s")).bodies.map (·.maxSourceSeq)) (by decide +kernel)

end Sample

/-- Both receipts are signed by the source, and the witness takes them one after the other. -/
theorem same_height_fork_accepted : ∃ db, sampleWitnesses.Reaches (fun _ => {}) sampleFork db ∧
    (∀ r ∈ sampleFork, signSourceCheckpointReceipt sampleEd25519 rollingSha256 (JsString.lit "k") [3]
      r.toBareCheckpointReceipt = .ok r) ∧
    ¬ OneHeadPerHeight (db (JsString.lit "s")) := by
  obtain ⟨db, hrun, hrows⟩ := sample_fork
  have hsigned : ∀ r ∈ sampleFork, (signSourceCheckpointReceipt sampleEd25519 rollingSha256
      (JsString.lit "k") [3] r.toBareCheckpointReceipt).toOption = some r := by
    decide +kernel
  refine ⟨db, hrun, fun r hr => toOption_eq_some.mp (hsigned r hr), fun h => ?_⟩
  obtain ⟨a, rest, hbodies, ha, hrest⟩ := List.map_eq_cons_iff.mp hrows
  obtain ⟨b, rest', rfl, hb, -⟩ := List.map_eq_cons_iff.mp hrest
  have hheads := h.heads a (by simp [hbodies]) b (by simp [hbodies])
  simp only [Prod.mk.injEq] at ha hb
  rw [ha.1, ha.2, hb.1, hb.2] at hheads
  exact absurd (hheads rfl) (by decide)

/-- A source that grows past its witness. -/
theorem witness_heads_single_sample : ∃ db : SourceWitnesses,
    (db (JsString.lit "s")).bodies.map (·.maxSourceSeq) = [1, 3] ∧
    OneHeadPerHeight (db (JsString.lit "s")) := by
  obtain ⟨db, hrun, hheights⟩ := sample_anchored
  exact ⟨db, hheights, (witness_heads_single hrun).1 _⟩

end TskProtocol
