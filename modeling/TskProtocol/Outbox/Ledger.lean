import TskProtocol.Outbox.Publisher

namespace TskProtocol

variable {D : Sha256Bytes} {opts : PgTskOutboxOptions}

/-- A record and its signed head, as they are sent. -/
abbrev OutboxEntry := OutboxRecord × SignedStreamHead

def OutboxRow.entry (row : OutboxRow) : OutboxEntry := (row.record, row.head)

def SourceDb.entries (db : SourceDb) : List OutboxEntry := db.rows.map (·.entry)

/-- What an append makes of a mutation behind a checkpoint. -/
structure Built (D : Sha256Bytes) (opts : PgTskOutboxOptions) (fence : Nat)
    (checkpoint : OutboxCheckpoint) (entry : OutboxEntry) : Prop where
  streamId : entry.1.streamId = opts.streamId
  sourceEpoch : entry.1.sourceEpoch = checkpoint.sourceEpoch
  sequence : entry.1.sequence = checkpoint.sequence + 1
  fenceToken : entry.1.fenceToken = fenceTokenToDecimal fence
  sanitized : opts.sanitizer.assertSanitized entry.1.mutation = true
  checked : checkMutation entry.1.mutation = .ok ()
  storable : entry.1.mutation.tumblerId.fitsIdColumn = true
  digest : canonicalOpDigest D entry.1.streamId entry.1.sourceEpoch entry.1.sequence
    entry.1.fenceToken entry.1.mutation = .ok entry.1.opDigest
  conformant : assertHeaderConformant entry.1.toOutboxRecordHeader = .ok ()
  binds : assertStreamHeadBinds D entry.1.toOutboxRecordHeader entry.2 = .ok ()
  prevHead : entry.2.prevHeadDigest = checkpoint.head
  keyId : entry.2.keyId = opts.signer.keyId
  alg : entry.2.alg = opts.signer.alg
  signed : entry.2.signature = opts.signer.sign entry.2.headDigest

/-- The checkpoint behind an entry. -/
def OutboxEntry.checkpoint (entry : OutboxEntry) : OutboxCheckpoint :=
  ⟨entry.1.sourceEpoch, entry.1.sequence, entry.2.headDigest⟩

theorem buildRow_ok {fence : Nat} {checkpoint : OutboxCheckpoint} {mutation : TskHotpMutation}
    {row : OutboxRow} (h : buildRow D opts fence checkpoint mutation = .ok row)
    (hsanitized : opts.sanitizer.assertSanitized mutation = true)
    (hchecked : checkMutation mutation = .ok ()) (hstorable : mutation.tumblerId.fitsIdColumn = true) :
    Built D opts fence checkpoint row.entry ∧ row.acked = false ∧ row.quarantined = false := by
  simp only [buildRow] at h
  obtain ⟨opDigest, hdigest, h⟩ := bind_eq_ok.mp h
  obtain ⟨headDigest, hhead, h⟩ := bind_eq_ok.mp h
  obtain ⟨_, hconformant, h⟩ := bind_eq_ok.mp h
  obtain ⟨_, hbinds, h⟩ := bind_eq_ok.mp h
  obtain rfl := Except.ok.inj h
  exact ⟨⟨rfl, rfl, rfl, rfl, hsanitized, hchecked, hstorable, hdigest, hconformant, hbinds, rfl, rfl,
    rfl, rfl⟩, rfl, rfl⟩

theorem buildRow_mutation {fence : Nat} {checkpoint : OutboxCheckpoint} {mutation : TskHotpMutation}
    {row : OutboxRow} (h : buildRow D opts fence checkpoint mutation = .ok row) :
    row.record.mutation = mutation := by
  simp only [buildRow, bind_eq_ok] at h
  obtain ⟨_, -, _, -, _, -, _, -, h⟩ := h
  obtain rfl := Except.ok.inj h
  rfl

theorem checkMutation_ok {mutation : TskHotpMutation} (h : checkMutation mutation = .ok ()) :
    (1 ≤ mutation.counter ∧ mutation.counter ≤ TSK_HOTP_MAX_COUNTER) ∧
    1 ≤ mutation.tumblerId.length ∧ mutation.tumblerId.length ≤ 512 := by
  simp only [checkMutation, bind_eq_ok, require_eq_ok] at h
  obtain ⟨_, hcounter, htumbler⟩ := h
  exact ⟨hcounter, htumbler⟩

/-- An admitted append adds one row behind the checkpoint and moves the checkpoint to it. -/
structure Appended (D : Sha256Bytes) (opts : PgTskOutboxOptions) (db db' : SourceDb)
    (row : OutboxRow) : Prop where
  built : ∃ fence checkpoint, db.fence = some fence ∧ db.checkpoint = some checkpoint ∧
    Built D opts fence checkpoint row.entry
  fresh : row.acked = false ∧ row.quarantined = false
  result : db' = { db with
    rows := db.rows ++ [row]
    checkpoint := some row.entry.checkpoint }

theorem appendInTx_ok {leaseWritable : Bool} {db db' : SourceDb} {input : AppendInput}
    {row : OutboxRow} (h : appendInTx D opts leaseWritable db input = .ok (row, db')) :
    Appended D opts db db' row := by
  simp only [appendInTx, bind_eq_ok, require_eq_ok, orThrow_eq_ok] at h
  obtain ⟨_, -, fence, hfence, _, -, _, -, _, -, checkpoint, hcheckpoint, _, -, mutation, hmutation,
    _, hchecked, built, hbuilt, _, hinsertable, hreturn⟩ := h
  obtain ⟨rfl, rfl⟩ := Prod.mk.inj (Except.ok.inj hreturn)
  have hmut : built.record.mutation = mutation := buildRow_mutation hbuilt
  have hstorable : mutation.tumblerId.fitsIdColumn = true := by
    simp only [OutboxRow.insertable, Bool.and_eq_true, hmut] at hinsertable
    exact hinsertable.1.1.1
  obtain ⟨hentry, hfresh⟩ := buildRow_ok hbuilt
    (opts.sanitizer.sanitized _ _ hmutation) hchecked hstorable
  refine ⟨⟨fence, checkpoint, hfence, hcheckpoint, hentry⟩, hfresh, ?_⟩
  have hepoch : checkpoint.sourceEpoch = built.record.sourceEpoch := hentry.sourceEpoch.symm
  rw [OutboxEntry.checkpoint, hepoch]
  rfl

/-- The entries of a stream behind a checkpoint, with the checkpoint they lead to. -/
inductive Ledger (D : Sha256Bytes) (opts : PgTskOutboxOptions) (genesis : OutboxCheckpoint) :
    List OutboxEntry → OutboxCheckpoint → Prop
  | nil : Ledger D opts genesis [] genesis
  | snoc {entries : List OutboxEntry} {checkpoint : OutboxCheckpoint} {fence : Nat}
      {entry : OutboxEntry} : Ledger D opts genesis entries checkpoint →
      Built D opts fence checkpoint entry →
      Ledger D opts genesis (entries ++ [entry]) entry.checkpoint

namespace Ledger

variable {genesis checkpoint : OutboxCheckpoint} {entries : List OutboxEntry} {entry : OutboxEntry}

theorem sequence_eq (h : Ledger D opts genesis entries checkpoint) :
    checkpoint.sequence = genesis.sequence + entries.length := by
  induction h with
  | nil => simp
  | snoc _ hbuilt ih =>
    simp only [OutboxEntry.checkpoint, hbuilt.sequence, ih, List.length_append, List.length_singleton]
    omega

theorem sourceEpoch_eq (h : Ledger D opts genesis entries checkpoint) :
    checkpoint.sourceEpoch = genesis.sourceEpoch := by
  induction h with
  | nil => rfl
  | snoc _ hbuilt ih => exact hbuilt.sourceEpoch.trans ih

/-- Entries are numbered from the genesis on. -/
theorem getElem?_eq_some {i : Nat} (h : Ledger D opts genesis entries checkpoint)
    (hi : entries[i]? = some entry) :
    entry.1.sequence = genesis.sequence + i + 1 ∧ entry.1.sourceEpoch = genesis.sourceEpoch := by
  induction h with
  | nil => simp at hi
  | @snoc es c _ last hrest hbuilt ih =>
    rcases Nat.lt_or_ge i es.length with hlt | hge
    · rw [List.getElem?_append_left hlt] at hi
      exact ih hi
    · obtain rfl : i = es.length := by
        have := (List.getElem?_eq_some_iff.mp hi).1
        simp only [List.length_append, List.length_singleton] at this
        omega
      obtain rfl : last = entry := by simpa using hi
      exact ⟨by rw [hbuilt.sequence, hrest.sequence_eq], hbuilt.sourceEpoch.trans hrest.sourceEpoch_eq⟩

theorem getElem?_of_sequence {n : Nat} (h : Ledger D opts genesis entries checkpoint)
    (hmem : entry ∈ entries) (hn : entry.1.sequence = genesis.sequence + n + 1) :
    entries[n]? = some entry := by
  obtain ⟨i, hi⟩ := List.mem_iff_getElem?.mp hmem
  have hseq := (h.getElem?_eq_some hi).1
  obtain rfl : i = n := by omega
  exact hi

theorem unique {entry' : OutboxEntry} (h : Ledger D opts genesis entries checkpoint)
    (hmem : entry ∈ entries) (hmem' : entry' ∈ entries)
    (hseq : entry.1.sequence = entry'.1.sequence) : entry = entry' := by
  obtain ⟨i, hi⟩ := List.mem_iff_getElem?.mp hmem
  have hn := (h.getElem?_eq_some hi).1
  have hi' := h.getElem?_of_sequence hmem' (by rw [← hseq]; exact hn)
  exact Option.some.inj (hi.symm.trans hi')

end Ledger

end TskProtocol
