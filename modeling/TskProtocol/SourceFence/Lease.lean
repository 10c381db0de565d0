import TskProtocol.SourceFence.Grant

namespace TskProtocol

/-- The columns of a lease row that are not links. -/
structure LeaseColumns where
  leaseEpoch : Nat
  leaseStatus : LeaseStatus
  holderNodeId : JsString
  leaseId : JsString
  commandId : JsString
  leaseExpiresAtMs : Nat
  deriving DecidableEq, Repr

/-- A row; its signature is the key id of the guard with the signature text. -/
abbrev LeaseRecord := Linked LeaseColumns JsString (JsString × JsString)

/-- `tsk_source_lease` and its history, the rows of one stream. -/
abbrev SourceLeaseTable := SignedTable LeaseColumns JsString (JsString × JsString)

def LeaseColumns.bare (streamId : JsString) (c : LeaseColumns) (seq : Nat)
    (prev : Option JsString) : BareLeaseGrant where
  streamId := streamId
  leaseEpoch := c.leaseEpoch
  leaseStatus := c.leaseStatus
  holderNodeId := c.holderNodeId
  leaseId := c.leaseId
  commandId := c.commandId
  leaseExpiresAtMs := c.leaseExpiresAtMs
  leaseGrantSeq := seq
  prevGrantDigest := prev

def LeaseGrant.record (g : LeaseGrant) : LeaseRecord where
  body := {
    leaseEpoch := g.leaseEpoch
    leaseStatus := g.leaseStatus
    holderNodeId := g.holderNodeId
    leaseId := g.leaseId
    commandId := g.commandId
    leaseExpiresAtMs := g.leaseExpiresAtMs }
  seq := g.leaseGrantSeq
  prev := g.prevGrantDigest
  digest := g.grantDigest
  signature := (g.guardKeyId, g.guardSignature)

theorem LeaseGrant.bare_record (g : LeaseGrant) :
    g.record.body.bare g.streamId g.record.seq g.record.prev = g.toBareLeaseGrant := rfl

/-- `rowToLease`, with the digest and the signature of the row. -/
def leaseReader (E : Ed25519) (D : Sha256Bytes) (resolver : SourceVerifyKeyResolver E)
    (streamId : JsString) : ChainReader LeaseColumns JsString (JsString × JsString) where
  readable l :=
    l.body.leaseEpoch ≤ MAX_EPOCH && l.body.leaseExpiresAtMs ≤ MAX_MS && 1 ≤ l.seq &&
      l.seq ≤ MAX_SEQ && l.prev.all matchesHex64 && matchesHex64 l.digest
  digestOf c seq prev := grantDigestOf D (c.bare streamId seq prev)
  verifies l :=
    verifySig E resolver l.signature.1 (leaseGrantMsg (l.body.bare streamId l.seq l.prev) l.digest)
      l.signature.2 = .ok ()

/-- A head row on its own. -/
def verifiedLeaseHead (E : Ed25519) (D : Sha256Bytes) (resolver : SourceVerifyKeyResolver E)
    (streamId : JsString) (row : LeaseRecord) : Except FenceError LeaseRecord := do
  chainCheck "lease head" ((leaseReader E D resolver streamId).verifyHead row)
  return row

/-- The rows of the history, in their order, next to a head that has been verified. -/
def verifyLeaseHistoryChain (E : Ed25519) (D : Sha256Bytes) (resolver : SourceVerifyKeyResolver E)
    (streamId : JsString) (rows : List LeaseRecord) (head : Option LeaseRecord) : Except FenceError Unit :=
  chainCheck "lease history" ((leaseReader E D resolver streamId).verifyHistory rows head)

/-- A history without a head is refused here.  The signature of a row is checked before its
links, which is the same as what the reader accepts. -/
def readSourceLease (E : Ed25519) (D : Sha256Bytes) (resolver : SourceVerifyKeyResolver E)
    (streamId : JsString) (t : SourceLeaseTable) : Except FenceError (Option LeaseRecord) := do
  let _ ← vId streamId (matchesStreamId 512) "streamId"
  match t.read (leaseReader E D resolver streamId) with
  | .error _ => throw (.history "source lease")
  | .ok none => do
    require (t.history.isEmpty) (.history "source lease")
    return none
  | .ok (some head) => return some head

/-- The record that the install leaves as the result, and the tables after it. -/
def installLeaseGrant (E : Ed25519) (D : Sha256Bytes) (resolver : SourceVerifyKeyResolver E)
    (t : SourceLeaseTable) (g : LeaseGrant) : Except FenceError (LeaseRecord × SourceLeaseTable) := do
  verifyLeaseGrant E D resolver g
  let cur ← readSourceLease E D resolver g.streamId t
  if cur.any (fun c => c.seq = g.leaseGrantSeq ∧ c.digest = g.grantDigest) then
    return (cur.getD g.record, t)
  match t.history.find? (fun l => l.body.commandId = g.commandId) with
  | some byCmd => do
    require (byCmd.digest = g.grantDigest) .leaseCommandReused
    return (byCmd, t)
  | none => do
    require (∀ c ∈ cur, c.body.leaseEpoch ≤ g.leaseEpoch) .leaseEpochRegresses
    let firstAtEpoch := t.history.find? (fun l => l.body.leaseEpoch = g.leaseEpoch)
    require (∀ first ∈ firstAtEpoch, first.body.holderNodeId = g.holderNodeId ∧
      first.body.leaseId = g.leaseId) .leaseIdentityChanges
    if g.leaseStatus = .active then
      require (∀ l ∈ t.history, ¬ (l.body.leaseEpoch = g.leaseEpoch ∧
        l.body.leaseStatus = .revoked)) .leaseEpochRevoked
    require (g.leaseGrantSeq = (cur.map (·.seq)).getD 0 + 1) .leaseSeqNotNext
    require (g.prevGrantDigest = cur.map (·.digest)) .leasePrevNotHead
    return (g.record, t.append g.record)

/-- The identity a writer has been authorized for. -/
structure LeaseBinding where
  holderNodeId : JsString
  leaseId : JsString
  grantDigest : JsString
  deriving DecidableEq, Repr

/-- The gate reads the head alone; `nowMs` is the database's own clock. -/
def assertSourceLeaseWritable (E : Ed25519) (D : Sha256Bytes) (resolver : SourceVerifyKeyResolver E)
    (streamId : JsString) (t : SourceLeaseTable) (expectedEpoch controlToASkewBoundMs nowMs : Nat)
    (bound : LeaseBinding) : Except FenceError LeaseRecord := do
  let s ← vId streamId (matchesStreamId 512) "streamId"
  let epoch ← vInt expectedEpoch "expectedEpoch" 0 MAX_EPOCH
  let skew ← vInt controlToASkewBoundMs "controlToASkewBoundMs" 0 MAX_SKEW_MS
  let _ ← vId bound.holderNodeId matchesId "bound.holderNodeId"
  let _ ← vId bound.leaseId matchesId "bound.leaseId"
  require (matchesHex64 bound.grantDigest) (.invalidDigest "bound.grantDigest")
  let st ← orThrow t.head .noLease
  require ((leaseReader E D resolver s).readable st = true ∧
    (leaseReader E D resolver s).verifyRecord st = .ok ()) (.history "source lease")
  require (st.body.leaseStatus = .active) .leaseNotActive
  require (st.body.leaseEpoch = epoch) .leaseEpochMismatch
  let now ← vInt nowMs "A clock now" 0 MAX_MS
  require (now + skew < st.body.leaseExpiresAtMs) .leaseElapsed
  require (st.body.holderNodeId = bound.holderNodeId) .leaseHolderMismatch
  require (st.body.leaseId = bound.leaseId) .leaseIdMismatch
  require (st.digest = bound.grantDigest) .leaseGrantMismatch
  return st

/-- What the verification of the signed ledger derives in the same transaction. -/
structure FrozenLedger where
  n : Nat
  headDigest : JsString
  stateDigest : JsString
  deriving DecidableEq, Repr

structure FreezeInput where
  streamId : JsString
  commandId : JsString
  epoch : Nat
  sourceNodeId : JsString
  deriving DecidableEq, Repr

/-- `ledger` is the outcome of verifying the signed ledger up to its checkpoint. -/
def emitSourceFrozenReceipt (E : Ed25519) (D : Sha256Bytes) (leaseResolver : SourceVerifyKeyResolver E)
    (sourceKeyId : JsString) (sourcePrivateKey : E.PrivateKey) (t : SourceLeaseTable)
    (ledger : Except FenceError FrozenLedger) (input : FreezeInput) :
    Except FenceError SourceFrozenReceipt := do
  let s ← vId input.streamId (matchesStreamId 512) "streamId"
  let commandId ← vId input.commandId matchesId "commandId"
  let epoch ← vInt input.epoch "epoch" 0 MAX_EPOCH
  let sourceNodeId ← vId input.sourceNodeId matchesId "sourceNodeId"
  let lease ← orThrow (← readSourceLease E D leaseResolver s t) .noLease
  require (lease.body.leaseEpoch = epoch) .freezeEpochMismatch
  require (lease.body.leaseStatus = .revoked) .freezeNotRevoked
  require (lease.body.holderNodeId = sourceNodeId) .freezeHolderMismatch
  let frozen ← ledger
  let bare : SourceFrozenReceipt := {
    streamId := s, commandId, epoch, n := frozen.n
    signedHeadDigestAtN := frozen.headDigest
    sourceStateDigestAtN := frozen.stateDigest
    sourceNodeId
    revokeCommandId := lease.body.commandId
    leaseId := lease.body.leaseId
    leaseGrantDigest := lease.digest
    receiptDigest := [], sourceKeyId, sourceSignature := [] }
  let receiptDigest := D.hex (frozenReceiptMsg bare [])
  let sourceSignature ← edSignB64u E sourceKeyId sourcePrivateKey (frozenReceiptMsg bare receiptDigest)
  return { bare with receiptDigest, sourceSignature }

variable {E : Ed25519} {D : Sha256Bytes} {resolver : SourceVerifyKeyResolver E}
  {t t' : SourceLeaseTable} {g : LeaseGrant} {record : LeaseRecord}

theorem head_of_readSourceLease {s : JsString} {cur : Option LeaseRecord}
    (h : readSourceLease E D resolver s t = .ok cur) : t.head = cur := by
  simp only [readSourceLease, bind_eq_ok, vId_eq_ok] at h
  obtain ⟨_, -, h⟩ := h
  split at h
  · cases h
  · next hread =>
    simp only [bind_eq_ok, require_eq_ok, pure_eq_ok] at h
    obtain ⟨_, -, h⟩ := h
    cases h
    exact SignedTable.head_of_read hread
  · next hread =>
    cases h
    exact SignedTable.head_of_read hread

theorem verifiedLeaseHead_eq_ok {s : JsString} {row row' : LeaseRecord} :
    verifiedLeaseHead E D resolver s row = .ok row' ↔
      (leaseReader E D resolver s).verifyHead row = .ok () ∧ row = row' := by
  simp [verifiedLeaseHead, bind_eq_ok]

/-- What is read is a head that passes on its own, in front of a history that ends with it. -/
theorem readSourceLease_eq_ok {s : JsString} {head : Option LeaseRecord} :
    readSourceLease E D resolver s t = .ok head ↔
      matchesStreamId 512 s = true ∧ t.head = head ∧
        (∀ row ∈ head, verifiedLeaseHead E D resolver s row = .ok row) ∧
        verifyLeaseHistoryChain E D resolver s t.history head = .ok () := by
  have hread : readSourceLease E D resolver s t = .ok head ↔ matchesStreamId 512 s = true ∧
      t.read (leaseReader E D resolver s) = .ok head ∧ (head = none → t.history = []) := by
    simp only [readSourceLease, bind_eq_ok, vId_eq_ok]
    cases t.read (leaseReader E D resolver s) with
    | error fault => simp
    | ok row => cases row <;> cases head <;> simp [bind_eq_ok]
  rw [hread, SignedTable.read_eq_ok]
  simp only [verifiedLeaseHead_eq_ok, verifyLeaseHistoryChain, chainCheck_eq_ok, and_true]

theorem readSourceLease_of_sound {s : JsString} (hs : matchesStreamId 512 s = true)
    (h : t.Sound (leaseReader E D resolver s)) : readSourceLease E D resolver s t = .ok t.head := by
  rw [readSourceLease, (vId_eq_ok (w := s)).mpr ⟨hs, rfl⟩, bind_ok, h.read]
  cases hhead : t.head with
  | none =>
    have hnil : t.history = [] := by
      simpa [SignedTable.Headed, hhead, eq_comm] using h.headed
    simp [hnil, require]
  | some last => rfl

/-- The row of a grant that verifies passes on its own. -/
theorem valid_of_verifyLeaseGrant (h : verifyLeaseGrant E D resolver g = .ok ()) :
    (leaseReader E D resolver g.streamId).Valid g.record := by
  obtain ⟨hconf, hdigest⟩ := verifyLeaseGrant_ok h
  have hhex : matchesHex64 g.grantDigest = true := by
    rw [← hdigest, grantDigestOf, matchesHex64_hex]
  have hprev : g.prevGrantDigest.all matchesHex64 = true :=
    (Option.all_eq_true _ _).mpr hconf.prevGrantDigest
  refine ⟨?_, hdigest, ?_⟩
  · simp [leaseReader, LeaseGrant.record, hconf.leaseEpoch, hconf.leaseExpiresAtMs,
      hconf.leaseGrantSeq.1, hconf.leaseGrantSeq.2, hhex, hprev]
  · simp only [verifyLeaseGrant, bind_eq_ok] at h
    obtain ⟨_, -, _, -, hsig⟩ := h
    simp only [leaseReader, LeaseGrant.bare_record]
    exact decide_eq_true hsig

/-- What lets a new grant in. -/
structure Installs (t : SourceLeaseTable) (g : LeaseGrant) : Prop where
  fresh : ∀ l ∈ t.history, l.body.commandId ≠ g.commandId
  epoch : ∀ c ∈ t.head, c.body.leaseEpoch ≤ g.leaseEpoch
  identity : ∀ first ∈ t.history.find? (fun l => l.body.leaseEpoch = g.leaseEpoch),
    first.body.holderNodeId = g.holderNodeId ∧ first.body.leaseId = g.leaseId
  unrevoked : g.leaseStatus = .active → ∀ l ∈ t.history,
    ¬ (l.body.leaseEpoch = g.leaseEpoch ∧ l.body.leaseStatus = .revoked)
  seq : g.leaseGrantSeq = (t.head.map (·.seq)).getD 0 + 1
  prev : g.prevGrantDigest = t.head.map (·.digest)

/-- An install finds the grant among the rows, or it appends the grant behind the head. -/
theorem installLeaseGrant_ok (h : installLeaseGrant E D resolver t g = .ok (record, t')) :
    (t' = t ∧ record.digest = g.grantDigest ∧ (t.head = some record ∨ record ∈ t.history)) ∨
    Installs t g ∧ record = g.record ∧ t' = t.append g.record := by
  simp only [installLeaseGrant, bind_eq_ok] at h
  obtain ⟨_, -, cur, hcur, h⟩ := h
  obtain rfl := head_of_readSourceLease hcur
  split at h
  · next hany =>
    obtain ⟨c, hc, hsame⟩ := Option.any_eq_true _ _ |>.mp hany
    simp only [decide_eq_true_eq] at hsame
    simp only [hc, Option.getD_some, pure_eq_ok] at h
    cases h
    exact .inl ⟨rfl, hsame.2, .inl hc⟩
  · split at h
    · next byCmd hfind =>
      simp only [bind_eq_ok, require_eq_ok, pure_eq_ok] at h
      obtain ⟨_, hdigest, h⟩ := h
      cases h
      exact .inl ⟨rfl, hdigest, .inr (List.mem_of_find?_eq_some hfind)⟩
    · next hfind =>
      simp only [bind_eq_ok, require_eq_ok, pure_eq_ok] at h
      obtain ⟨_, hepoch, _, hidentity, h⟩ := h
      have hfresh : ∀ l ∈ t.history, l.body.commandId ≠ g.commandId := by
        simpa using hfind
      split at h
      · simp only [bind_eq_ok, require_eq_ok] at h
        obtain ⟨_, hunrevoked, _, hseq, _, hprev, h⟩ := h
        cases h
        exact .inr ⟨⟨hfresh, hepoch, hidentity, fun _ => hunrevoked, hseq, hprev⟩, rfl, rfl⟩
      · next hactive =>
        simp only [bind_eq_ok, require_eq_ok] at h
        obtain ⟨_, hseq, _, hprev, h⟩ := h
        cases h
        exact .inr ⟨⟨hfresh, hepoch, hidentity, fun hg => absurd hg hactive, hseq, hprev⟩, rfl, rfl⟩

/-- A grant that is not there yet is let in. -/
theorem installLeaseGrant_of_installs (hverified : verifyLeaseGrant E D resolver g = .ok ())
    (hread : readSourceLease E D resolver g.streamId t = .ok t.head) (h : Installs t g) :
    installLeaseGrant E D resolver t g = .ok (g.record, t.append g.record) := by
  have hcur : ¬ (t.head.any (fun c => c.seq = g.leaseGrantSeq ∧ c.digest = g.grantDigest)) = true := by
    rw [Option.any_eq_true]
    rintro ⟨c, hc, hsame⟩
    have hseq := h.seq
    simp only [decide_eq_true_eq] at hsame
    simp only [hc, Option.map_some, Option.getD_some] at hseq
    omega
  have hfind : t.history.find? (fun l => l.body.commandId = g.commandId) = none := by
    simpa using h.fresh
  simp only [installLeaseGrant, hverified, hread, bind_ok, if_neg hcur, hfind, require, if_pos h.epoch,
    if_pos h.identity, ← h.seq, if_true, ← h.prev]
  split
  · next hactive => simp only [if_pos (h.unrevoked hactive), bind_ok, pure_eq_ok]
  · rfl

end TskProtocol
