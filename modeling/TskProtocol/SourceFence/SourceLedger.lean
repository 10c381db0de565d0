import TskProtocol.Outbox.Delivery
import TskProtocol.SourceFence.StatePairs

namespace TskProtocol

/-- What happens to the ledger of a source. -/
inductive LedgerLabel
  | append (input : AppendInput) (leaseWritable : Bool)
  | fence (token : Nat)
  /-- The publisher marks rows. -/
  | mark (acked quarantined : OutboxRow → Bool)

/-- A transaction that throws changes nothing. -/
def SourceDb.ledgerStep (D : Sha256Bytes) (opts : PgTskOutboxOptions) (db : SourceDb) :
    LedgerLabel → Option SourceDb
  | .append input leaseWritable => some <|
    match appendInTx D opts leaseWritable db input with
    | .ok (_, db') => db'
    | .error _ => db
  | .fence token => some { db with fence := some token }
  | .mark acked quarantined => some { db with
      rows := db.rows.map (fun row => { row with acked := acked row, quarantined := quarantined row }) }

def ledgerMachine (D : Sha256Bytes) (opts : PgTskOutboxOptions) : Machine SourceDb LedgerLabel where
  step := SourceDb.ledgerStep D opts

variable {E : Ed25519} {D : Sha256Bytes} {opts : PgTskOutboxOptions} {sanitize : PayloadSanitizer}
  {headResolver : SourceVerifyKeyResolver E} {sourceEpoch : JsString} {db db' : SourceDb}
  {entries : List OutboxEntry} {entry : OutboxEntry} {checkpoint : OutboxCheckpoint}

/-- The outbox signs with a key that the resolver knows, and exports through a sanitizer that leaves
alone what it has made. -/
structure ExportParties (E : Ed25519) (opts : PgTskOutboxOptions) (sanitize : PayloadSanitizer)
    (headResolver : SourceVerifyKeyResolver E) : Prop where
  alg : opts.signer.alg = JsString.lit "ed25519"
  signs : ∃ key, headResolver opts.signer.keyId = some (E.publicKey key) ∧
    ∀ digest, opts.signer.sign digest = E.sign key digest.utf8
  reads : ∀ mutation, sanitize (.ofStoredMutation mutation) = opts.sanitizer.sanitize mutation
  idempotent : ∀ raw clean, opts.sanitizer.sanitize raw = some clean →
    opts.sanitizer.sanitize clean = some clean

/-- What an append has seen to, besides the record that it has built. -/
structure AppendAdmitted (opts : PgTskOutboxOptions) (entry : OutboxEntry) : Prop where
  sanitized : ∃ raw, opts.sanitizer.sanitize raw = some entry.1.mutation
  signature : entry.2.signature.length ≤ 4096

/-- The ledger of a source since its provisioning. -/
structure SourceLedger (D : Sha256Bytes) (opts : PgTskOutboxOptions) (sourceEpoch : JsString)
    (db : SourceDb) : Prop where
  ledger : ∃ checkpoint, db.checkpoint = some checkpoint ∧
    Ledger D opts (.genesis sourceEpoch) db.entries checkpoint
  admitted : ∀ entry ∈ db.entries, AppendAdmitted opts entry

theorem admitted_of_appendInTx {leaseWritable : Bool} {input : AppendInput} {row : OutboxRow}
    (h : appendInTx D opts leaseWritable db input = .ok (row, db')) : AppendAdmitted opts row.entry := by
  simp only [appendInTx, bind_eq_ok, require_eq_ok, orThrow_eq_ok] at h
  obtain ⟨_, -, fence, -, _, -, _, -, _, -, checkpoint, -, _, -, mutation, hmutation, _, -, built, hbuilt,
    _, hinsertable, hreturn⟩ := h
  obtain ⟨rfl, rfl⟩ := Prod.mk.inj (Except.ok.inj hreturn)
  simp only [OutboxRow.insertable, Bool.and_eq_true, decide_eq_true_eq] at hinsertable
  exact ⟨⟨_, by rw [OutboxRow.entry, buildRow_mutation hbuilt]; exact hmutation⟩, hinsertable.1.2⟩

namespace SourceLedger

theorem start (hrows : db.rows = []) (hcheckpoint : db.checkpoint = some (.genesis sourceEpoch)) :
    SourceLedger D opts sourceEpoch db := by
  have hentries : db.entries = [] := by rw [SourceDb.entries, hrows, List.map_nil]
  refine ⟨⟨_, hcheckpoint, ?_⟩, ?_⟩
  · rw [hentries]
    exact .nil
  · simp [hentries]

theorem append {leaseWritable : Bool} {input : AppendInput} {row : OutboxRow}
    (h : SourceLedger D opts sourceEpoch db)
    (happend : appendInTx D opts leaseWritable db input = .ok (row, db')) :
    SourceLedger D opts sourceEpoch db' := by
  have hadmitted := admitted_of_appendInTx happend
  obtain ⟨⟨fence, checkpoint, -, hcheckpoint, hbuilt⟩, -, rfl⟩ := appendInTx_ok happend
  obtain ⟨checkpoint', hcheckpoint', hledger⟩ := h.ledger
  obtain rfl : checkpoint' = checkpoint := Option.some.inj (hcheckpoint'.symm.trans hcheckpoint)
  have hentries : SourceDb.entries { db with
      rows := db.rows ++ [row], checkpoint := some row.entry.checkpoint } =
      db.entries ++ [row.entry] := by simp [SourceDb.entries]
  refine ⟨⟨_, rfl, by rw [hentries]; exact hledger.snoc hbuilt⟩, fun entry hmem => ?_⟩
  rw [hentries] at hmem
  rcases List.mem_append.mp hmem with hold | hnew
  · exact h.admitted entry hold
  · exact List.mem_singleton.mp hnew ▸ hadmitted

theorem step {l : LedgerLabel} (h : SourceLedger D opts sourceEpoch db)
    (hstep : (ledgerMachine D opts).step db l = some db') : SourceLedger D opts sourceEpoch db' := by
  cases l with
  | append input leaseWritable =>
    obtain rfl := Option.some.inj hstep
    split
    · next happend => exact h.append happend
    · exact h
  | fence token =>
    obtain rfl := Option.some.inj hstep
    exact ⟨h.ledger, h.admitted⟩
  | mark acked quarantined =>
    obtain rfl := Option.some.inj hstep
    have hentries : SourceDb.entries { db with rows := db.rows.map (fun row =>
        { row with acked := acked row, quarantined := quarantined row }) } = db.entries := by
      simp [SourceDb.entries, OutboxRow.entry]
    exact ⟨by rw [hentries]; exact h.ledger, by rw [hentries]; exact h.admitted⟩

theorem reaches {ls : List LedgerLabel} (h : SourceLedger D opts sourceEpoch db)
    (hrun : (ledgerMachine D opts).Reaches db ls db') : SourceLedger D opts sourceEpoch db' :=
  hrun.invariant (fun _ _ _ hI _ hstep => hI.step hstep) h

end SourceLedger

/-- The record that a row is exported as. -/
def OutboxEntry.exported (entry : OutboxEntry) : ExportedSourceRecord where
  sequence := entry.1.sequence
  sourceEpoch := entry.1.sourceEpoch
  fenceToken := entry.1.fenceToken
  opDigest := entry.1.opDigest
  prevHeadDigest := entry.2.prevHeadDigest
  headDigest := entry.2.headDigest
  keyId := entry.2.keyId
  alg := entry.2.alg
  signature := entry.2.signature
  payload := mutationText entry.1.mutation

namespace Built

variable {fence : Nat}

/-- The checks that the digest of an operation has passed. -/
theorem identified (h : Built D opts fence checkpoint entry) :
    matchesIdPattern opts.streamId = true ∧ matchesIdPattern entry.1.sourceEpoch = true ∧
      matchesFenceTokenPattern entry.1.fenceToken = true ∧ 1 ≤ entry.1.sequence ∧
      canonicalizeMutation entry.1.mutation = .ok (mutationText entry.1.mutation) ∧
      matchesHex64 entry.1.opDigest = true := by
  have hdigest := h.digest
  simp only [canonicalOpDigest, assertId, assertSequence, assertFenceToken, bind_eq_ok, require_eq_ok,
    pure_eq_ok, Except.ok.injEq] at hdigest
  obtain ⟨_, hstream, _, hepoch, _, hseq, _, hfence, canonical, hcanonical, hop⟩ := hdigest
  rw [h.streamId] at hstream
  refine ⟨hstream, hepoch, hfence, hseq.2, ?_, hop ▸ matchesHex64_hex D _⟩
  rw [hcanonical, canonicalizeMutation_ok hcanonical]

/-- The checks that the head of an operation has passed. -/
theorem headed (h : Built D opts fence checkpoint entry) :
    matchesHex64 entry.2.prevHeadDigest = true ∧ matchesHex64 entry.2.headDigest = true ∧
      matchesIdPattern entry.2.keyId = true := by
  have hbinds := h.binds
  simp only [assertStreamHeadBinds, streamHeadDigest, bind_eq_ok, require_eq_ok, pure_eq_ok,
    Except.ok.injEq] at hbinds
  obtain ⟨_, -, _, -, _, -, _, -, _, hkey, head, ⟨_, -, _, -, _, hprev, _, -, _, -, _, -, rfl⟩, hhead⟩ := hbinds
  exact ⟨hprev, hhead ▸ matchesHex64_hex D _, hkey⟩

/-- The next operation links to the head of this one. -/
theorem head_checkpoint (h : Built D opts fence checkpoint entry) :
    entry.checkpoint.head = entry.2.headDigest := by
  have hne : entry.checkpoint.headDigest ≠ [] := by
    intro hnil
    have hhex := h.headed.2.1
    rw [show entry.2.headDigest = [] from hnil] at hhex
    cases hhex
  rw [OutboxCheckpoint.head, if_neg hne]
  rfl

/-- The payload of a row is read back as its mutation. -/
theorem payload (_h : Built D opts fence checkpoint entry) (hadmitted : AppendAdmitted opts entry)
    (hparties : ExportParties E opts sanitize headResolver) :
    Json.parse (mutationText entry.1.mutation) = some (.ofStoredMutation entry.1.mutation) ∧
      sanitize (.ofStoredMutation entry.1.mutation) = some entry.1.mutation := by
  obtain ⟨raw, hraw⟩ := hadmitted.sanitized
  refine ⟨parse_mutationText _, ?_⟩
  rw [hparties.reads]
  exact hparties.idempotent raw _ hraw

theorem exportRecord_ok (h : Built D opts fence checkpoint entry) (hadmitted : AppendAdmitted opts entry)
    (hparties : ExportParties E opts sanitize headResolver) (hseq : entry.1.sequence ≤ (MAX_SEQ : Int)) :
    exportRecord sanitize entry = .ok entry.exported := by
  obtain ⟨-, -, -, hpos, hcanonical, hop⟩ := h.identified
  obtain ⟨hprev, hhead, -⟩ := h.headed
  obtain ⟨hparse, hsanitize⟩ := h.payload hadmitted hparties
  simp only [exportRecord, stringify_ofStoredMutation, bind_eq_ok, orThrow_eq_ok, require_eq_ok, pure_eq_ok, Except.ok.injEq,
    liftContract_eq_ok]
  exact ⟨_, hparse, _, hsanitize, _, hcanonical, (), ⟨hpos, hseq⟩, (), hop, (), hprev, (), hhead, rfl⟩

/-- An exported record replays behind the head that its row was linked to. -/
theorem replays (h : Built D opts fence checkpoint entry) (hadmitted : AppendAdmitted opts entry)
    (hparties : ExportParties E opts sanitize headResolver) (hseq : entry.1.sequence ≤ (MAX_SEQ : Int)) :
    RecordReplays E D sanitize headResolver opts.streamId entry.1.sourceEpoch entry.1.sequence checkpoint.head
      entry.exported entry.1.mutation := by
  obtain ⟨-, -, -, hpos, hcanonical, -⟩ := h.identified
  obtain ⟨hparse, hsanitize⟩ := h.payload hadmitted hparties
  obtain ⟨key, hresolve, hsign⟩ := hparties.signs
  have hdigest := h.digest
  rw [h.streamId] at hdigest
  have hbinds := h.binds
  have hhead : entry.exported.signedHead opts.streamId entry.exported.opDigest = entry.2 := by
    simp only [assertStreamHeadBinds, bind_eq_ok, require_eq_ok] at hbinds
    obtain ⟨_, hstream, _, hsequence, _, hop, -⟩ := hbinds
    simp only [ExportedSourceRecord.signedHead, OutboxEntry.exported, ← hsequence, ← hop, ← h.streamId,
      ← hstream]
  refine ⟨rfl, ⟨hpos, hseq⟩, rfl, ?_, hcanonical, hdigest, ?_, h.alg.trans hparties.alg, ?_, h.prevHead⟩
  · rw [OutboxEntry.exported, hparse, Option.bind_some, hsanitize]
  · rw [hhead, ← h.streamId]
    exact hbinds
  · simp only [verifyHeadSignature, OutboxEntry.exported, h.keyId, h.signed, hsign, bind_eq_ok,
      require_eq_ok, orThrow_eq_ok]
    exact ⟨(), E.base64url_sign _ _, _, hresolve, E.verify_sign _ _⟩

end Built

theorem replayRecords_append {streamId epoch prev head : JsString} {n : Int}
    {state state' : OrderedMap JsString Int} {rs rest : List ExportedSourceRecord}
    (h : replayRecords E D sanitize headResolver streamId epoch n prev state rs = .ok (head, state')) :
    replayRecords E D sanitize headResolver streamId epoch n prev state (rs ++ rest) =
      replayRecords E D sanitize headResolver streamId epoch (n + rs.length) head state' rest := by
  induction rs generalizing n prev state with
  | nil =>
    simp only [replayRecords, Except.ok.injEq, Prod.mk.injEq] at h
    obtain ⟨rfl, rfl⟩ := h
    simp
  | cons r rs ih =>
    simp only [replayRecords, bind_eq_ok] at h
    obtain ⟨mutation, hr, hrest⟩ := h
    simp only [List.cons_append, replayRecords, hr, bind_ok, ih hrest, List.length_cons]
    rw [Int.natCast_add, Int.add_comm (rs.length : Int), Int.add_assoc]
    rfl

namespace Ledger

theorem built {genesis : OutboxCheckpoint} (h : Ledger D opts genesis entries checkpoint)
    (hmem : entry ∈ entries) : ∃ fence c, Built D opts fence c entry := by
  induction h with
  | nil => cases hmem
  | @snoc es c fence last _ hbuilt ih =>
    rcases List.mem_append.mp hmem with hold | hnew
    · exact ih hold
    · exact ⟨fence, c, List.mem_singleton.mp hnew ▸ hbuilt⟩

/-- The whole ledger replays, up to the head of its checkpoint. -/
theorem replays (h : Ledger D opts (.genesis sourceEpoch) entries checkpoint)
    (hadmitted : ∀ entry ∈ entries, AppendAdmitted opts entry)
    (hparties : ExportParties E opts sanitize headResolver) (hmax : entries.length ≤ MAX_SEQ) :
    replayRecords E D sanitize headResolver opts.streamId sourceEpoch 1 GENESIS_HEAD_ZERO ∅
      (entries.map OutboxEntry.exported) = .ok (checkpoint.head, collected entries) := by
  induction h with
  | nil => rfl
  | @snoc es c fence entry hledger hbuilt ih =>
    rw [List.length_append, List.length_singleton] at hmax
    have hrest := ih (fun e he => hadmitted e (List.mem_append_left _ he)) (by omega)
    have hsequence : entry.1.sequence = 1 + (es.map OutboxEntry.exported).length := by
      rw [hbuilt.sequence, hledger.sequence_eq, List.length_map]
      simp only [OutboxCheckpoint.genesis]
      omega
    have hepoch : entry.1.sourceEpoch = sourceEpoch := hbuilt.sourceEpoch.trans hledger.sourceEpoch_eq
    have hreplay := hbuilt.replays (hadmitted entry (by simp)) hparties (by
      rw [hsequence, List.length_map]
      omega)
    rw [hsequence, hepoch] at hreplay
    rw [List.map_append, List.map_singleton, replayRecords_append hrest]
    simp only [replayRecords, replayRecord_eq_ok.mpr hreplay, bind_ok]
    rw [hbuilt.head_checkpoint, collected_snoc]
    rfl

end Ledger

/-- An operation that an outbox can take at any height of its ledger. -/
structure Acceptable (opts : PgTskOutboxOptions) (sourceEpoch : JsString) (input : AppendInput)
    (mutation : TskHotpMutation) : Prop where
  stream : input.streamId = opts.streamId
  sanitized : opts.sanitizer.sanitize input.rawMutation = some mutation
  checked : checkMutation mutation = .ok ()
  canonical : (canonicalizeMutation mutation).toBool = true
  storable : mutation.tumblerId.fitsIdColumn = true
  streamId : matchesIdPattern opts.streamId = true
  sourceEpoch : matchesIdPattern sourceEpoch = true
  fenceToken : matchesFenceTokenPattern (fenceTokenToDecimal input.fenceToken) = true
  keyId : matchesIdPattern opts.signer.keyId = true
  alg : opts.signer.alg ∈ STREAM_HEAD_ALGS
  signature : ∀ digest, 1 ≤ (opts.signer.sign digest).length ∧ (opts.signer.sign digest).length ≤ 4096

theorem Ledger.matchesHex64_head (h : Ledger D opts (.genesis sourceEpoch) entries checkpoint) :
    matchesHex64 checkpoint.head = true := by
  cases h with
  | nil =>
    have hgenesis : matchesHex64 GENESIS_HEAD = true := by decide
    exact hgenesis
  | snoc _ hbuilt =>
    rw [hbuilt.head_checkpoint]
    exact hbuilt.headed.2.1

/-- A row can be built behind every checkpoint below the last safe sequence. -/
theorem Acceptable.buildRow_ok {input : AppendInput} {mutation : TskHotpMutation}
    (h : Acceptable opts sourceEpoch input mutation) (hepoch : checkpoint.sourceEpoch = sourceEpoch)
    (hhead : matchesHex64 checkpoint.head = true) (hpos : 0 ≤ checkpoint.sequence)
    (hlast : checkpoint.sequence < MAX_SAFE_INTEGER) :
    ∃ row, buildRow D opts input.fenceToken checkpoint mutation = .ok row ∧
      row.sequence = checkpoint.sequence + 1 ∧
      row.head.signature = opts.signer.sign row.head.headDigest := by
  have hsequence : isSafeInteger (checkpoint.sequence + 1) = true ∧ 1 ≤ checkpoint.sequence + 1 := by
    refine ⟨?_, by omega⟩
    simp only [isSafeInteger, Bool.and_eq_true, decide_eq_true_eq]
    have hmax : MAX_SAFE_INTEGER = 9007199254740991 := rfl
    omega
  obtain ⟨canonical, hcanonical⟩ := exists_ok_of_toBool h.canonical
  have hepoch : matchesIdPattern checkpoint.sourceEpoch = true := hepoch ▸ h.sourceEpoch
  obtain ⟨opDigest, hop, hopHex⟩ : ∃ opDigest, canonicalOpDigest D opts.streamId checkpoint.sourceEpoch
      (checkpoint.sequence + 1) (fenceTokenToDecimal input.fenceToken) mutation = .ok opDigest ∧
      matchesHex64 opDigest = true :=
    ⟨_, bind_eq_ok.mpr ⟨(), require_pos h.streamId, bind_eq_ok.mpr ⟨(), require_pos hepoch,
      bind_eq_ok.mpr ⟨(), require_pos hsequence, bind_eq_ok.mpr ⟨(), require_pos h.fenceToken,
        bind_eq_ok.mpr ⟨_, hcanonical, rfl⟩⟩⟩⟩⟩, matchesHex64_hex D _⟩
  obtain ⟨headDigest, hstreamHead⟩ : ∃ headDigest, streamHeadDigest D opts.streamId
      (checkpoint.sequence + 1) checkpoint.head opDigest opts.signer.keyId opts.signer.alg = .ok headDigest :=
    ⟨_, bind_eq_ok.mpr ⟨(), require_pos h.streamId, bind_eq_ok.mpr ⟨(), require_pos hsequence,
      bind_eq_ok.mpr ⟨(), require_pos hhead, bind_eq_ok.mpr ⟨(), require_pos hopHex,
        bind_eq_ok.mpr ⟨(), require_pos h.keyId, bind_eq_ok.mpr ⟨(), require_pos h.alg, rfl⟩⟩⟩⟩⟩⟩⟩
  have hconformant : assertHeaderConformant ⟨HA_OUTBOX_CONTRACT_VERSION, opts.streamId,
      checkpoint.sourceEpoch, checkpoint.sequence + 1, fenceTokenToDecimal input.fenceToken, opDigest⟩ =
      .ok () :=
    bind_eq_ok.mpr ⟨(), require_pos rfl, bind_eq_ok.mpr ⟨(), require_pos h.streamId,
      bind_eq_ok.mpr ⟨(), require_pos hepoch, bind_eq_ok.mpr ⟨(), require_pos hsequence,
        bind_eq_ok.mpr ⟨(), require_pos h.fenceToken, require_pos hopHex⟩⟩⟩⟩⟩
  refine ⟨_, bind_eq_ok.mpr ⟨_, hop, bind_eq_ok.mpr ⟨_, hstreamHead, bind_eq_ok.mpr ⟨(), hconformant,
    bind_eq_ok.mpr ⟨(), ?_, rfl⟩⟩⟩⟩, rfl, rfl⟩
  exact bind_eq_ok.mpr ⟨(), require_pos rfl, bind_eq_ok.mpr ⟨(), require_pos rfl,
    bind_eq_ok.mpr ⟨(), require_pos rfl, bind_eq_ok.mpr ⟨(), require_pos h.alg,
      bind_eq_ok.mpr ⟨(), require_pos h.keyId, bind_eq_ok.mpr ⟨_, hstreamHead, require_pos rfl⟩⟩⟩⟩⟩⟩

/-- Such an operation is taken, as long as there is room for it. -/
theorem Acceptable.append_ok {input : AppendInput} {mutation : TskHotpMutation}
    (h : Acceptable opts sourceEpoch input mutation) (hdb : SourceLedger D opts sourceEpoch db)
    (hfence : db.fence = some input.fenceToken) (hroom : db.entries.length < opts.maxPendingRows)
    (hlast : (db.entries.length : Int) < MAX_SAFE_INTEGER) :
    ∃ row db', appendInTx D opts true db input = .ok (row, db') := by
  obtain ⟨checkpoint, hcheckpoint, hledger⟩ := hdb.ledger
  have hsequence : checkpoint.sequence = db.entries.length := by
    rw [hledger.sequence_eq]
    simp [OutboxCheckpoint.genesis]
  have hpending : db.pending < opts.maxPendingRows := by
    have hle : db.pending ≤ db.rows.length := List.length_filter_le _ _
    rw [SourceDb.entries, List.length_map] at hroom
    omega
  obtain ⟨row, hrow, hnext, hsigned⟩ := h.buildRow_ok (D := D) hledger.sourceEpoch_eq
    hledger.matchesHex64_head (by omega) (by omega)
  have hinsertable : row.insertable db.rows = true := by
    have hfresh : ∀ other ∈ db.rows, (other.record.sourceEpoch, other.sequence) ≠
        (row.record.sourceEpoch, row.sequence) := by
      intro other hother heq
      obtain ⟨i, hi⟩ := List.mem_iff_getElem?.mp
        (show other.entry ∈ db.entries from List.mem_map_of_mem hother)
      have hnumber : other.sequence = 0 + (i : Int) + 1 := (hledger.getElem?_eq_some hi).1
      have hlt := (List.getElem?_eq_some_iff.mp hi).1
      have hsame : other.sequence = row.sequence := congrArg Prod.snd heq
      omega
    simp only [OutboxRow.insertable, buildRow_mutation hrow, h.storable, hsigned, Bool.and_eq_true,
      decide_eq_true_eq, List.all_eq_true]
    exact ⟨⟨⟨trivial, (h.signature _).1⟩, (h.signature _).2⟩, hfresh⟩
  exact ⟨row, _, bind_eq_ok.mpr ⟨(), require_pos h.stream, bind_eq_ok.mpr ⟨_, orThrow_eq_ok.mpr hfence,
    bind_eq_ok.mpr ⟨(), require_pos rfl, bind_eq_ok.mpr ⟨(), require_pos rfl,
      bind_eq_ok.mpr ⟨(), require_pos hpending, bind_eq_ok.mpr ⟨_, orThrow_eq_ok.mpr hcheckpoint,
        bind_eq_ok.mpr ⟨(), require_pos (by omega), bind_eq_ok.mpr ⟨_, orThrow_eq_ok.mpr h.sanitized,
          bind_eq_ok.mpr ⟨(), h.checked, bind_eq_ok.mpr ⟨_, hrow,
            bind_eq_ok.mpr ⟨(), require_pos hinsertable, rfl⟩⟩⟩⟩⟩⟩⟩⟩⟩⟩⟩⟩

theorem entries_length_of_appendInTx {leaseWritable : Bool} {input : AppendInput} {row : OutboxRow}
    (h : appendInTx D opts leaseWritable db input = .ok (row, db')) :
    db'.entries.length = db.entries.length + 1 ∧ db'.fence = db.fence := by
  obtain ⟨-, -, rfl⟩ := appendInTx_ok h
  simp [SourceDb.entries]

/-- A ledger can be grown to any height for which there is room. -/
theorem Acceptable.reaches {input : AppendInput} {mutation : TskHotpMutation}
    (h : Acceptable opts sourceEpoch input mutation) (hdb : SourceLedger D opts sourceEpoch db)
    (hentries : db.entries = []) (hfence : db.fence = some input.fenceToken) {n : Nat}
    (hroom : n ≤ opts.maxPendingRows) (hlast : (n : Int) ≤ MAX_SAFE_INTEGER) :
    ∃ s, (ledgerMachine D opts).Reaches db (List.replicate n (.append input true)) s ∧
      s.entries.length = n ∧ s.fence = some input.fenceToken := by
  induction n with
  | zero => exact ⟨db, .nil db, by rw [hentries]; rfl, hfence⟩
  | succ n ih =>
    obtain ⟨s, hrun, hlength, hfence⟩ := ih (by omega) (by omega)
    obtain ⟨row, s', happend⟩ := h.append_ok (hdb.reaches hrun) hfence (by omega) (by omega)
    obtain ⟨hlength', hfence'⟩ := entries_length_of_appendInTx happend
    have hstep : (ledgerMachine D opts).step s (.append input true) = some s' := by
      simp only [ledgerMachine, SourceDb.ledgerStep, happend]
    rw [List.replicate_succ']
    exact ⟨s', hrun.snoc trivial hstep, by rw [hlength', hlength], hfence'.trans hfence⟩

end TskProtocol
