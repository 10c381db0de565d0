import TskProtocol.Outbox.Ledger
import TskProtocol.Outbox.ReceiverLaws

namespace TskProtocol

variable {D : Sha256Bytes} {cfg : OutboxConfig}

/-- A transaction that leaves the ledger as it is, and acknowledges nothing. -/
structure SameLedger (db db' : SourceDb) : Prop where
  entries : db'.entries = db.entries
  checkpoint : db'.checkpoint = db.checkpoint
  fence : db'.fence = db.fence
  acked : ∀ row ∈ db'.rows, row.acked = true → ∃ old ∈ db.rows, old.acked = true ∧
    old.record = row.record

theorem SameLedger.of_rows {db db' : SourceDb} (hrows : db'.rows = db.rows)
    (hcheckpoint : db'.checkpoint = db.checkpoint)
    (hfence : db'.fence = db.fence) : SameLedger db db' where
  entries := congrArg (List.map OutboxRow.entry) hrows
  checkpoint := hcheckpoint
  fence := hfence
  acked row hrow hacked := ⟨row, hrows ▸ hrow, hacked, rfl⟩

namespace SourceDb

variable {db db' : SourceDb} {leaseToken : Nat} {record : OutboxRecord}

theorem acquireLease_same {now leaseMs : Int}
    (h : db.acquireLease leaseToken now leaseMs = some db') : SameLedger db db' := by
  rw [acquireLease] at h
  split at h
  · obtain rfl := Option.some.inj h
    exact .of_rows rfl rfl rfl
  · cases h

theorem releaseLease_same : SameLedger db (db.releaseLease leaseToken) := by
  rw [releaseLease]
  split <;> exact .of_rows rfl rfl rfl

theorem updateOne_ok {matching : OutboxRow → Bool} {update : OutboxRow → OutboxRow}
    (h : db.updateOne matching update = .ok db') : db' =
      { db with rows := db.rows.map (fun row => if matching row then update row else row) } := by
  rw [updateOne] at h
  split at h
  · exact (Except.ok.inj h).symm
  · cases h

theorem updateOne_exists {matching : OutboxRow → Bool} {update : OutboxRow → OutboxRow}
    (h : db.updateOne matching update = .ok db') : ∃ row, row ∈ db.rows ∧ matching row = true := by
  rw [updateOne] at h
  split at h
  · next hone =>
    obtain ⟨row, hrow⟩ := List.exists_mem_of_length_pos (hone ▸ Nat.one_pos)
    exact ⟨row, List.mem_filter.mp hrow⟩
  · cases h

theorem updateOne_entries {matching : OutboxRow → Bool} {update : OutboxRow → OutboxRow}
    (h : db.updateOne matching update = .ok db') (hupdate : ∀ row, (update row).entry = row.entry) :
    db'.entries = db.entries := by
  obtain rfl := updateOne_ok h
  simp only [entries, List.map_map]
  refine List.map_congr_left (fun row _ => ?_)
  simp only [Function.comp_apply]
  split
  · exact hupdate row
  · rfl

theorem recordQuarantine_ok {entry : QuarantineEntry} (h : db.recordQuarantine entry = .ok db') :
    db' = db ∨ db' = { db with quarantine := db.quarantine ++ [entry] } := by
  rw [recordQuarantine] at h
  split at h
  · exact .inr (Except.ok.inj h).symm
  · split at h
    · exact .inl (Except.ok.inj h).symm
    · cases h

theorem quarantineAndHalt_same {reason : QuarantineReason}
    (h : db.quarantineAndHalt leaseToken record reason = .ok db') : SameLedger db db' := by
  rw [quarantineAndHalt] at h
  split at h
  · cases h
  simp only [bind_eq_ok] at h
  obtain ⟨recorded, hrecorded, marked, hmarked, h⟩ := h
  obtain rfl := Except.ok.inj h
  have hentries : marked.entries = recorded.entries := updateOne_entries hmarked (fun _ => rfl)
  obtain rfl := updateOne_ok hmarked
  obtain ⟨hrows, hcheckpoint, hfence⟩ : recorded.rows = db.rows ∧
      recorded.checkpoint = db.checkpoint ∧ recorded.fence = db.fence := by
    rcases recordQuarantine_ok hrecorded with rfl | rfl <;> exact ⟨rfl, rfl, rfl⟩
  refine ⟨?_, hcheckpoint, hfence, fun row hrow hacked => ?_⟩
  · exact hentries.trans (congrArg (List.map OutboxRow.entry) hrows)
  · obtain ⟨old, hold, rfl⟩ := List.mem_map.mp hrow
    rw [hrows] at hold
    refine ⟨old, hold, ?_, ?_⟩
    · split at hacked <;> exact hacked
    · split <;> rfl

/-- An acknowledgement marks rows of the record that was delivered. -/
theorem ack_ok (h : db.ack leaseToken record = .ok db') :
    db'.entries = db.entries ∧ db'.checkpoint = db.checkpoint ∧ db'.fence = db.fence ∧
    ∀ row ∈ db'.rows, row.acked = true →
      (∃ old ∈ db.rows, old.acked = true ∧ old.record = row.record) ∨
      row.record.sequence = record.sequence := by
  rw [ack] at h
  split at h
  · cases h
  have hentries : db'.entries = db.entries := updateOne_entries h (fun _ => rfl)
  obtain rfl := updateOne_ok h
  refine ⟨hentries, rfl, rfl, fun row hrow hacked => ?_⟩
  obtain ⟨old, hold, rfl⟩ := List.mem_map.mp hrow
  split at hacked
  · next hmatch =>
    refine .inr ?_
    simp only [isRow, Bool.and_eq_true, decide_eq_true_eq] at hmatch
    rw [if_pos (by simpa [isRow, and_assoc] using hmatch)]
    exact hmatch.1.1.2
  · next hmatch =>
    refine .inl ⟨old, hold, hacked, ?_⟩
    rw [if_neg hmatch]

end SourceDb

/-- The counters applied for a tumbler, oldest first. -/
def countersOf (log : List OutboxRecord) (tumblerId : JsString) : List Int :=
  (log.filter (fun record => record.mutation.tumblerId = tumblerId)).map (·.mutation.counter)

/-- The counters of every tumbler increase, and the last of them is the one that is stored. -/
def HighWater (log : List OutboxRecord) (consumed : OrderedMap JsString Int) : Prop :=
  ∀ tumblerId, (countersOf log tumblerId).Pairwise (· < ·) ∧
    consumed.get? tumblerId = (countersOf log tumblerId).getLast?

theorem HighWater.nil : HighWater [] ∅ := fun _ => ⟨.nil, rfl⟩

theorem le_getLast_of_pairwise {counters : List Int} {counter last : Int}
    (h : counters.Pairwise (· < ·)) (hmem : counter ∈ counters)
    (hlast : counters.getLast? = some last) : counter ≤ last := by
  obtain ⟨initial, rfl⟩ := List.getLast?_eq_some_iff.mp hlast
  rcases List.mem_append.mp hmem with hinitial | hend
  · exact Int.le_of_lt ((List.pairwise_append.mp h).2.2 counter hinitial last (by simp))
  · obtain rfl : counter = last := by simpa using hend
    exact Int.le_refl _

theorem HighWater.snoc {log : List OutboxRecord} {consumed : OrderedMap JsString Int}
    {record : OutboxRecord} (h : HighWater log consumed)
    (hfresh : ∀ last ∈ consumed.get? record.mutation.tumblerId, last < record.mutation.counter) :
    HighWater (log ++ [record])
      (consumed.set record.mutation.tumblerId record.mutation.counter) := by
  intro tumblerId
  obtain ⟨hincreasing, hstored⟩ := h tumblerId
  by_cases hid : record.mutation.tumblerId = tumblerId
  · subst hid
    have happend : countersOf (log ++ [record]) record.mutation.tumblerId =
        countersOf log record.mutation.tumblerId ++ [record.mutation.counter] := by
      simp [countersOf]
    rw [happend, OrderedMap.get?_set_self, List.getLast?_concat]
    refine ⟨List.pairwise_append.mpr ⟨hincreasing, by simp, fun a ha b hb => ?_⟩, rfl⟩
    obtain rfl : b = record.mutation.counter := by simpa using hb
    obtain ⟨last, hlast⟩ : ∃ last, (countersOf log record.mutation.tumblerId).getLast? = some last :=
      Option.isSome_iff_exists.mp (List.getLast?_isSome.mpr (List.ne_nil_of_mem ha))
    exact Int.lt_of_le_of_lt (le_getLast_of_pairwise hincreasing ha hlast)
      (hfresh last (hstored.trans hlast))
  · have hskip : countersOf (log ++ [record]) tumblerId = countersOf log tumblerId := by
      simp [countersOf, hid]
    rw [hskip, OrderedMap.get?_set_ne _ _ hid]
    exact ⟨hincreasing, hstored⟩

/-- Only a verified receipt for the record, with an acknowledging decision, leads to an
acknowledgement. -/
theorem afterDelivery_acking {leaseToken token : Nat} {record acked : OutboxRecord}
    {outcome : Except TransportFailure TskAckReceipt}
    (h : afterDelivery cfg leaseToken record outcome = .acking token acked) :
    ∃ receipt decision, outcome = .ok receipt ∧ acked = record ∧
      cfg.verifyAck receipt record = true ∧ receipt.sequence = record.sequence ∧
      ReceiverDecision.ofText receipt.decision = some decision ∧
      decision ∈ ReceiverDecision.ACK_DECISIONS := by
  cases outcome with
  | error failure =>
    simp only [afterDelivery] at h
    split at h <;> cases h
  | ok receipt =>
    simp only [afterDelivery] at h
    split at h
    · cases h
    next hverified =>
    split at h
    · cases h
    next hbound =>
    split at h
    · cases h
    next decision htext =>
    split at h
    · next hack =>
      simp only [not_or, not_not] at hbound
      obtain ⟨-, rfl⟩ := Drain.acking.inj h
      exact ⟨receipt, decision, rfl, rfl, by simpa using hverified, hbound.2.2.1, htext, hack⟩
    · split at h <;> cases h

variable (D cfg) in
/-- The transactions of a drain are the source's alone. -/
theorem OutboxState.advance_receiver (s : OutboxState) (now : Int) (fresh : Nat) (drain : Drain) :
    (s.advance D cfg now fresh drain).receiver = s.receiver ∧
    (s.advance D cfg now fresh drain).receipts = s.receipts ∧
    (s.advance D cfg now fresh drain).log = s.log := by
  cases drain with
  | acquiring => simp only [advance]; split <;> exact ⟨rfl, rfl, rfl⟩
  | selecting leaseToken =>
    simp only [advance]
    split
    · exact ⟨rfl, rfl, rfl⟩
    · split <;> exact ⟨rfl, rfl, rfl⟩
  | acking leaseToken record => simp only [advance, commit]; split <;> exact ⟨rfl, rfl, rfl⟩
  | quarantining leaseToken record reason =>
    simp only [advance, commit]
    split <;> exact ⟨rfl, rfl, rfl⟩
  | _ => exact ⟨rfl, rfl, rfl⟩

/-- The checkpoint of a stream that has been provisioned under an epoch. -/
def OutboxCheckpoint.genesis (sourceEpoch : JsString) : OutboxCheckpoint := ⟨sourceEpoch, 0, []⟩

/-- Both ends of a stream before its first operation. -/
structure Provisioned (sourceEpoch : JsString) (source : SourceDb) (receiver : ReceiverDb) :
    Prop where
  rows : source.rows = []
  sourceCheckpoint : source.checkpoint = some (.genesis sourceEpoch)
  receiverCheckpoint : receiver.checkpoint = some (.genesis sourceEpoch)
  applied : receiver.applied = []
  consumed : receiver.consumed = ∅

/-- The receipt that a reply brings, with the record it is awaited for. -/
def OutboxState.answered (s : OutboxState) : OutboxLabel → Option (TskAckReceipt × OutboxRecord)
  | .reply index (.ok receipt) => match s.drains[index]? with
    | some (.awaiting _ record _) => some (receipt, record)
    | _ => none
  | _ => none

/-- The network makes no receipt of its own that the publisher would take for the receiver's. -/
def Genuine (cfg : OutboxConfig) (s : OutboxState) (l : OutboxLabel) : Prop :=
  ∀ answer ∈ s.answered l, cfg.verifyAck answer.1 answer.2 = true → answer.1 ∈ s.receipts

instance (s : OutboxState) (l : OutboxLabel) : Decidable (Genuine cfg s l) :=
  inferInstanceAs (Decidable (∀ answer ∈ s.answered l, _ → _))

def OutboxState.appliedSequences (s : OutboxState) : List Int := s.log.map (·.sequence)

/-- What holds of one stream at every moment. -/
structure Delivered (D : Sha256Bytes) (cfg : OutboxConfig) (sourceEpoch : JsString)
    (s : OutboxState) : Prop where
  ledger : ∃ checkpoint, s.source.checkpoint = some checkpoint ∧
    Ledger D cfg.outbox (.genesis sourceEpoch) s.source.entries checkpoint
  requests : ∀ request ∈ s.requests, request ∈ s.source.entries
  log : s.log <+: s.source.entries.map Prod.fst
  checkpoint : ∃ checkpoint, s.receiver.checkpoint = some checkpoint ∧
    checkpoint.sourceEpoch = sourceEpoch ∧ checkpoint.sequence = s.log.length
  applied : s.receiver.applied = s.log.map (·.key)
  highWater : HighWater s.log s.receiver.consumed
  receipts : ∀ receipt ∈ s.receipts, ∀ decision ∈ ReceiverDecision.ACK_DECISIONS,
    ReceiverDecision.ofText receipt.decision = some decision →
      receipt.sequence ∈ s.appliedSequences
  acking : ∀ leaseToken record, .acking leaseToken record ∈ s.drains →
    record.sequence ∈ s.appliedSequences
  acked : ∀ row ∈ s.source.rows, row.acked = true → row.sequence ∈ s.appliedSequences

namespace Delivered

variable {sourceEpoch : JsString} {s t : OutboxState}

theorem start {source : SourceDb} {receiver : ReceiverDb}
    (h : Provisioned sourceEpoch source receiver) :
    Delivered D cfg sourceEpoch (.start source receiver) where
  ledger := ⟨_, h.sourceCheckpoint, by
    simpa [OutboxState.start, SourceDb.entries, h.rows] using Ledger.nil⟩
  requests := by simp [OutboxState.start]
  log := by simp [OutboxState.start]
  checkpoint := ⟨_, h.receiverCheckpoint, rfl, rfl⟩
  applied := by simp [OutboxState.start, h.applied]
  highWater := by simpa [OutboxState.start, h.consumed] using HighWater.nil
  receipts := by simp [OutboxState.start]
  acking := by simp [OutboxState.start]
  acked := by simp [OutboxState.start, h.rows]

/-- The records that were applied are numbered from 1 on. -/
theorem sequence_of_log {i : Nat} {record : OutboxRecord}
    (h : Delivered D cfg sourceEpoch s) (hi : s.log[i]? = some record) :
    record.sequence = i + 1 ∧ record.sourceEpoch = sourceEpoch ∧
    ∃ head, s.source.entries[i]? = some (record, head) := by
  obtain ⟨checkpoint, -, hledger⟩ := h.ledger
  have hentry : (s.source.entries.map Prod.fst)[i]? = some record := by
    obtain ⟨rest, hrest⟩ := h.log
    rw [← hrest, List.getElem?_append_left (List.getElem?_eq_some_iff.mp hi).1, hi]
  rw [List.getElem?_map] at hentry
  obtain ⟨⟨_, head⟩, hget, rfl⟩ := Option.map_eq_some_iff.mp hentry
  have hseq := hledger.getElem?_eq_some hget
  exact ⟨by simpa [OutboxCheckpoint.genesis] using hseq.1, hseq.2, head, hget⟩

/-- A record at a sequence that was applied is the one that was applied. -/
theorem mem_log {entry : OutboxEntry} (h : Delivered D cfg sourceEpoch s)
    (hmem : entry ∈ s.source.entries) (hseq : entry.1.sequence ∈ s.appliedSequences) :
    entry.1 ∈ s.log := by
  obtain ⟨record, hrecord, hsame⟩ := List.mem_map.mp hseq
  obtain ⟨i, hi⟩ := List.mem_iff_getElem?.mp hrecord
  obtain ⟨-, -, head, hget⟩ := h.sequence_of_log hi
  obtain ⟨checkpoint, -, hledger⟩ := h.ledger
  obtain rfl := hledger.unique (List.mem_of_getElem? hget) hmem hsame
  exact hrecord

theorem withDrains (h : Delivered D cfg sourceEpoch s) {drains : List Drain}
    (hacking : ∀ leaseToken record, .acking leaseToken record ∈ drains →
      record.sequence ∈ s.appliedSequences) :
    Delivered D cfg sourceEpoch { s with drains := drains } :=
  { ledger := h.ledger, requests := h.requests, log := h.log, checkpoint := h.checkpoint,
    applied := h.applied, highWater := h.highWater, receipts := h.receipts, acking := hacking,
    acked := h.acked }

theorem withSource (h : Delivered D cfg sourceEpoch s) {source : SourceDb}
    (hentries : source.entries = s.source.entries)
    (hcheckpoint : source.checkpoint = s.source.checkpoint)
    (hacked : ∀ row ∈ source.rows, row.acked = true → row.sequence ∈ s.appliedSequences) :
    Delivered D cfg sourceEpoch { s with source := source } :=
  { ledger := by simpa only [hentries, hcheckpoint] using h.ledger
    requests := by simpa only [hentries] using h.requests
    log := by simpa only [hentries] using h.log
    checkpoint := h.checkpoint, applied := h.applied, highWater := h.highWater
    receipts := h.receipts, acking := h.acking, acked := hacked }

theorem withSameLedger (h : Delivered D cfg sourceEpoch s) {source : SourceDb}
    (hsame : SameLedger s.source source) :
    Delivered D cfg sourceEpoch { s with source := source } := by
  refine h.withSource hsame.entries hsame.checkpoint (fun row hrow hacked => ?_)
  obtain ⟨old, hold, holdAcked, hrecord⟩ := hsame.acked row hrow hacked
  rw [OutboxRow.sequence, ← hrecord]
  exact h.acked old hold holdAcked

theorem park (h : Delivered D cfg sourceEpoch s) {next : Option Drain}
    (hnext : ∀ leaseToken record, next = some (.acking leaseToken record) →
      record.sequence ∈ s.appliedSequences) : Delivered D cfg sourceEpoch (s.park next) := by
  refine h.withDrains (fun leaseToken record hmem => ?_)
  rcases List.mem_append.mp hmem with hold | hnew
  · exact h.acking leaseToken record hold
  · exact hnext leaseToken record (by simpa using hnew)

/-- A drain that is not about to acknowledge needs no proof. -/
theorem park_idle (h : Delivered D cfg sourceEpoch s) {next : Option Drain}
    (hnext : ∀ leaseToken record, next ≠ some (.acking leaseToken record)) :
    Delivered D cfg sourceEpoch (s.park next) :=
  h.park (fun leaseToken record heq => absurd heq (hnext leaseToken record))

theorem removeDrain (h : Delivered D cfg sourceEpoch s) (index : Nat) :
    Delivered D cfg sourceEpoch { s with drains := s.drains.eraseIdx index } :=
  h.withDrains (fun leaseToken record hmem => h.acking leaseToken record (List.mem_of_mem_eraseIdx hmem))

theorem append {input : AppendInput} {leaseWritable : Bool} {row : OutboxRow} {source : SourceDb}
    (h : Delivered D cfg sourceEpoch s)
    (hstep : appendInTx D cfg.outbox leaseWritable s.source input = .ok (row, source)) :
    Delivered D cfg sourceEpoch { s with source := source } := by
  obtain ⟨⟨fence, checkpoint, -, hcheckpoint, hbuilt⟩, hfresh, rfl⟩ := appendInTx_ok hstep
  obtain ⟨checkpoint', hcheckpoint', hledger⟩ := h.ledger
  obtain rfl : checkpoint' = checkpoint := Option.some.inj (hcheckpoint'.symm.trans hcheckpoint)
  have hentries : SourceDb.entries { s.source with
      rows := s.source.rows ++ [row], checkpoint := some row.entry.checkpoint } =
      s.source.entries ++ [row.entry] := by simp [SourceDb.entries]
  exact
    { ledger := ⟨_, rfl, by rw [hentries]; exact hledger.snoc hbuilt⟩
      requests := fun request hmem => by
        rw [hentries]
        exact List.mem_append_left _ (h.requests request hmem)
      log := by
        rw [hentries, List.map_append]
        exact h.log.trans (List.prefix_append _ _)
      checkpoint := h.checkpoint, applied := h.applied, highWater := h.highWater
      receipts := h.receipts, acking := h.acking
      acked := fun other hmem hacked => by
        rcases List.mem_append.mp hmem with hold | hnew
        · exact h.acked other hold hacked
        · obtain rfl : other = row := by simpa using hnew
          simp [hfresh.1] at hacked }

/-- An operation found in `tsk_outbox_applied` was applied. -/
theorem mem_of_priorDigest {record : OutboxRecord} {opDigest : JsString}
    (h : Delivered D cfg sourceEpoch s) (hprior : s.receiver.priorDigest record = some opDigest) :
    record.sequence ∈ s.appliedSequences := by
  obtain ⟨row, hrow, -⟩ := Option.map_eq_some_iff.mp hprior
  have hkey := List.find?_some hrow
  have hmem := List.mem_of_find?_eq_some hrow
  rw [h.applied] at hmem
  obtain ⟨applied, happlied, rfl⟩ := List.mem_map.mp hmem
  simp only [OutboxRecord.key, Bool.and_eq_true] at hkey
  exact List.mem_map.mpr ⟨applied, happlied, of_decide_eq_true hkey.2⟩

theorem deliver {record : OutboxRecord} {head : SignedStreamHead} {headVerifierUp : Bool}
    {issuedAt : JsString} (h : Delivered D cfg sourceEpoch s)
    (hmem : (record, head) ∈ s.source.entries) :
    Delivered D cfg sourceEpoch (s.deliver D cfg headVerifierUp issuedAt record head) := by
  unfold OutboxState.deliver
  dsimp only
  split
  · exact h
  next decision receiver hverify =>
  have hverifies := verifyAndApplyTumblerInTx_ok hverify
  have hreceipt : ∀ sequences : List Int, (decision ∈ ReceiverDecision.ACK_DECISIONS →
      record.sequence ∈ sequences) → (∀ sequence ∈ s.appliedSequences, sequence ∈ sequences) →
      ∀ receipt ∈ s.receipts ++ [cfg.receipt record decision issuedAt],
        ∀ other ∈ ReceiverDecision.ACK_DECISIONS,
          ReceiverDecision.ofText receipt.decision = some other → receipt.sequence ∈ sequences := by
    intro sequences hnew hold receipt hreceipt other hother htext
    rcases List.mem_append.mp hreceipt with hbefore | hlast
    · exact hold _ (h.receipts receipt hbefore other hother htext)
    · obtain rfl : receipt = cfg.receipt record decision issuedAt := by simpa using hlast
      obtain rfl : decision = other :=
        Option.some.inj ((ReceiverDecision.ofText_text decision).symm.trans htext)
      exact hnew hother
  by_cases happlied : decision = .applied
  · subst happlied
    obtain ⟨checkpoint, -, hcheckpoint, hepoch, hnext, hfresh, rfl⟩ := hverifies.applied_inv
    obtain ⟨checkpoint', hcheckpoint', hsame, hlength⟩ := h.checkpoint
    obtain rfl : checkpoint' = checkpoint := Option.some.inj (hcheckpoint'.symm.trans hcheckpoint)
    obtain ⟨ledgerCheckpoint, -, hledger⟩ := h.ledger
    have hget : s.source.entries[s.log.length]? = some (record, head) :=
      hledger.getElem?_of_sequence hmem (by simp [OutboxCheckpoint.genesis, hnext, hlength])
    have hlog : s.log ++ [record] <+: s.source.entries.map Prod.fst := by
      obtain ⟨rest, hrest⟩ := h.log
      have hfirst : rest.head? = some record := by
        have hat : (s.source.entries.map Prod.fst)[s.log.length]? = some record := by
          simp [hget]
        rwa [← hrest, List.getElem?_append_right (Nat.le_refl _), Nat.sub_self,
          ← List.head?_eq_getElem?] at hat
      obtain ⟨rest', rfl⟩ := List.head?_eq_some_iff.mp hfirst
      exact ⟨rest', by simpa using hrest⟩
    have hgrow : ∀ sequence ∈ s.appliedSequences,
        sequence ∈ (s.log ++ [record]).map (·.sequence) := fun sequence hold => by
      rw [List.map_append]
      exact List.mem_append_left _ hold
    have hlast : record.sequence ∈ (s.log ++ [record]).map (·.sequence) := by simp
    simp only [↓reduceIte]
    exact
      { ledger := h.ledger, requests := h.requests, log := hlog
        checkpoint := ⟨_, rfl, hsame, by simp [hnext, hlength]⟩
        applied := by simp [ReceiverDb.after, h.applied]
        highWater := h.highWater.snoc hfresh
        receipts := hreceipt _ (fun _ => hlast) hgrow
        acking := fun leaseToken other hdrain => hgrow _ (h.acking leaseToken other hdrain)
        acked := fun row hrow hacked => hgrow _ (h.acked row hrow hacked) }
  · obtain rfl := hverifies.unchanged happlied
    simp only [happlied, ↓reduceIte]
    refine { h with receipts := hreceipt _ (fun hack => ?_) (fun _ hold => hold) }
    have hduplicate : decision = .duplicateOk := by
      cases decision <;> simp_all [ReceiverDecision.ACK_DECISIONS]
    subst hduplicate
    exact h.mem_of_priorDigest hverifies.duplicate_inv

theorem ack {source : SourceDb} {leaseToken : Nat} {record : OutboxRecord}
    (h : Delivered D cfg sourceEpoch s) (hack : s.source.ack leaseToken record = .ok source)
    (happlied : record.sequence ∈ s.appliedSequences) :
    Delivered D cfg sourceEpoch { s with source := source } := by
  obtain ⟨hentries, hcheckpoint, -, hacked⟩ := SourceDb.ack_ok hack
  refine h.withSource hentries hcheckpoint (fun row hrow hrowAcked => ?_)
  rcases hacked row hrow hrowAcked with ⟨old, hold, holdAcked, hrecord⟩ | hsequence
  · rw [OutboxRow.sequence, ← hrecord]
    exact h.acked old hold holdAcked
  · rw [OutboxRow.sequence, hsequence]
    exact happlied

theorem advance {drain : Drain} {now : Int} {fresh : Nat} (h : Delivered D cfg sourceEpoch s)
    (hacking : ∀ leaseToken record, drain = .acking leaseToken record →
      record.sequence ∈ s.appliedSequences) :
    Delivered D cfg sourceEpoch (s.advance D cfg now fresh drain) := by
  cases drain with
  | checking =>
    refine h.park_idle (fun _ _ => ?_)
    split <;> simp
  | acquiring =>
    simp only [OutboxState.advance]
    split
    · exact h
    · next hlease =>
      exact (h.withSameLedger (SourceDb.acquireLease_same hlease)).park_idle (by simp)
  | selecting leaseToken =>
    simp only [OutboxState.advance]
    split
    · exact h.park_idle (by simp)
    · next row hrow =>
      have hmem : row.entry ∈ s.source.entries :=
        List.mem_map_of_mem (List.mem_of_find?_eq_some hrow)
      split
      · have hsent : Delivered D cfg sourceEpoch
            { s with requests := s.requests ++ [(row.record, row.head)] } := by
          refine { h with requests := fun request hrequest => ?_ }
          rcases List.mem_append.mp hrequest with hold | hnew
          · exact h.requests request hold
          · obtain rfl : request = (row.record, row.head) := by simpa using hnew
            exact hmem
        exact hsent.park_idle (by simp)
      · exact h.park_idle (by simp)
  | awaiting leaseToken record head => exact h.park_idle (by simp)
  | acking leaseToken record =>
    simp only [OutboxState.advance, OutboxState.commit]
    split
    · next source hack => exact (h.ack hack (hacking _ _ rfl)).park_idle (by simp)
    · exact h.park_idle (by simp)
  | quarantining leaseToken record reason =>
    simp only [OutboxState.advance, OutboxState.commit]
    split
    · next source hhalt =>
      exact (h.withSameLedger (SourceDb.quarantineAndHalt_same hhalt)).park_idle (by simp)
    · exact h.park_idle (by simp)
  | releasing leaseToken => exact h.withSameLedger SourceDb.releaseLease_same

/-- A drain acknowledges only a record that a verified receipt shows to be applied. -/
theorem reply {drain : Drain} {outcome : Except TransportFailure TskAckReceipt}
    (h : Delivered D cfg sourceEpoch s)
    (hacking : ∀ leaseToken record, drain = .acking leaseToken record →
      record.sequence ∈ s.appliedSequences)
    (hgenuine : ∀ leaseToken record head receipt, drain = .awaiting leaseToken record head →
      outcome = .ok receipt → cfg.verifyAck receipt record = true → receipt ∈ s.receipts) :
    Delivered D cfg sourceEpoch (s.reply cfg outcome drain) := by
  cases drain with
  | awaiting leaseToken record head =>
    refine h.park (fun token acked heq => ?_)
    obtain ⟨receipt, decision, rfl, rfl, hverified, hsequence, htext, hack⟩ :=
      afterDelivery_acking (Option.some.inj heq)
    rw [← hsequence]
    exact h.receipts receipt (hgenuine _ _ _ _ rfl rfl hverified) decision hack htext
  | acking leaseToken record =>
    exact h.park (fun token acked heq => by
      obtain ⟨-, rfl⟩ := Drain.acking.inj (Option.some.inj heq)
      exact hacking _ _ rfl)
  | _ => exact h.park_idle (by simp)

theorem step {l : OutboxLabel} (h : Delivered D cfg sourceEpoch s) (hgenuine : Genuine cfg s l)
    (hstep : (outboxMachine D cfg).step s l = some t) : Delivered D cfg sourceEpoch t := by
  cases l with
  | append input leaseWritable =>
    simp only [outboxMachine, OutboxState.step] at hstep
    split at hstep
    · cases hstep
    · next row source happend =>
      obtain rfl := Option.some.inj hstep
      exact h.append happend
  | fenceSource fence =>
    obtain rfl := Option.some.inj hstep
    exact h.withSource rfl rfl h.acked
  | fenceReceiver fence =>
    obtain rfl := Option.some.inj hstep
    exact { h with }
  | drain =>
    obtain rfl := Option.some.inj hstep
    exact h.park_idle (by simp)
  | advance index now leaseToken =>
    obtain ⟨drain, hdrain, rfl⟩ := Option.map_eq_some_iff.mp hstep
    exact (h.removeDrain index).advance (fun token record heq =>
      h.acking token record (heq ▸ List.mem_of_getElem? hdrain))
  | reply index outcome =>
    obtain ⟨drain, hdrain, rfl⟩ := Option.map_eq_some_iff.mp hstep
    refine (h.removeDrain index).reply (fun token record heq =>
      h.acking token record (heq ▸ List.mem_of_getElem? hdrain)) ?_
    rintro token record head receipt rfl rfl hverified
    exact hgenuine (receipt, record) (by simp [OutboxState.answered, hdrain]) hverified
  | crash index =>
    obtain rfl := Option.some.inj hstep
    exact h.removeDrain index
  | deliver index headVerifierUp issuedAt =>
    obtain ⟨request, hrequest, rfl⟩ := Option.map_eq_some_iff.mp hstep
    exact h.deliver (h.requests request (List.mem_of_getElem? hrequest))

theorem of_runs {source : SourceDb} {receiver : ReceiverDb} {ls : List OutboxLabel}
    (hstart : Provisioned sourceEpoch source receiver)
    (h : (outboxMachine D cfg).Runs (Genuine cfg) (.start source receiver) ls s) :
    Delivered D cfg sourceEpoch s :=
  h.invariant (fun _ _ _ hI hC hstep => hI.step hC hstep) (Delivered.start hstart)

theorem nodup_appliedSequences (h : Delivered D cfg sourceEpoch s) : s.appliedSequences.Nodup := by
  refine List.nodup_iff_getElem?_ne_getElem?.mpr (fun i j hij hj heq => ?_)
  obtain ⟨first, hfirst, hsequence⟩ : ∃ record, s.log[i]? = some record ∧
      some record.sequence = s.appliedSequences[j]? := by
    rw [← heq, OutboxState.appliedSequences, List.getElem?_map]
    have hi : i < s.log.length := by
      simp only [OutboxState.appliedSequences, List.length_map] at hj
      omega
    exact ⟨s.log[i], List.getElem?_eq_getElem hi, by simp [List.getElem?_eq_getElem hi]⟩
  rw [OutboxState.appliedSequences, List.getElem?_map] at hsequence
  obtain ⟨second, hsecond, hsame⟩ := Option.map_eq_some_iff.mp hsequence.symm
  have h₁ := (h.sequence_of_log hfirst).1
  have h₂ := (h.sequence_of_log hsecond).1
  omega

/-- A record that was applied is never applied again. -/
theorem redelivered {record : OutboxRecord} {head : SignedStreamHead} {verdict : HeadVerdict}
    {decision : ReceiverDecision} {receiver : ReceiverDb} (h : Delivered D cfg sourceEpoch s)
    (hmem : record ∈ s.log)
    (hverify : verifyAndApplyTumblerInTx D cfg.receiver s.receiver verdict record head =
      .ok (decision, receiver)) : receiver = s.receiver := by
  have hverifies := verifyAndApplyTumblerInTx_ok hverify
  refine hverifies.unchanged (fun happlied => ?_)
  subst happlied
  obtain ⟨checkpoint, -, hcheckpoint, -, hnext, -⟩ := hverifies.applied_inv
  obtain ⟨checkpoint', hcheckpoint', -, hlength⟩ := h.checkpoint
  obtain rfl : checkpoint' = checkpoint := Option.some.inj (hcheckpoint'.symm.trans hcheckpoint)
  obtain ⟨i, hi⟩ := List.mem_iff_getElem?.mp hmem
  have hsequence := (h.sequence_of_log hi).1
  have hlt := (List.getElem?_eq_some_iff.mp hi).1
  omega

end Delivered

/-- The ledger of a source grows by an admitted append, or stays. -/
inductive Extends (D : Sha256Bytes) (opts : PgTskOutboxOptions) (db db' : SourceDb) : Prop
  | appended (row : OutboxRow) (h : Appended D opts db db' row)
  | same (hentries : db'.entries = db.entries) (hcheckpoint : db'.checkpoint = db.checkpoint)
      (hfence : db'.fence = db.fence)

theorem SameLedger.extends {opts : PgTskOutboxOptions} {db db' : SourceDb}
    (h : SameLedger db db') : Extends D opts db db' :=
  .same h.entries h.checkpoint h.fence

theorem Extends.entries_grow {opts : PgTskOutboxOptions} {db db' : SourceDb}
    (h : Extends D opts db db') : db.entries <+: db'.entries := by
  cases h with
  | appended row happended =>
    obtain ⟨-, -, rfl⟩ := happended
    simp [SourceDb.entries]
  | same hentries => exact hentries ▸ List.prefix_rfl

variable (D cfg) in
theorem OutboxState.advance_extends (s : OutboxState) (now : Int) (fresh : Nat) (drain : Drain) :
    Extends D cfg.outbox s.source (s.advance D cfg now fresh drain).source := by
  cases drain with
  | acquiring =>
    simp only [advance]
    split
    · exact .same rfl rfl rfl
    · next hlease => exact (SourceDb.acquireLease_same hlease).extends
  | selecting leaseToken =>
    simp only [advance]
    split
    · exact .same rfl rfl rfl
    · split <;> exact .same rfl rfl rfl
  | acking leaseToken record =>
    simp only [advance, commit]
    split
    · next hack =>
      obtain ⟨hentries, hcheckpoint, hfence, -⟩ := SourceDb.ack_ok hack
      exact .same hentries hcheckpoint hfence
    · exact .same rfl rfl rfl
  | quarantining leaseToken record reason =>
    simp only [advance, commit]
    split
    · next hhalt => exact (SourceDb.quarantineAndHalt_same hhalt).extends
    · exact .same rfl rfl rfl
  | releasing leaseToken => exact SourceDb.releaseLease_same.extends
  | _ => exact .same rfl rfl rfl

theorem OutboxState.log_grows_step {s t : OutboxState} {l : OutboxLabel}
    (h : (outboxMachine D cfg).step s l = some t) : s.log <+: t.log := by
  cases l with
  | append input leaseWritable =>
    simp only [outboxMachine, step] at h
    split at h
    · cases h
    · obtain rfl := Option.some.inj h
      exact List.prefix_rfl
  | advance index now leaseToken =>
    obtain ⟨drain, -, rfl⟩ := Option.map_eq_some_iff.mp h
    have hlog := (advance_receiver D cfg { s with drains := s.drains.eraseIdx index } now leaseToken
      drain).2.2
    exact ⟨[], (List.append_nil s.log).trans hlog.symm⟩
  | reply index outcome =>
    obtain ⟨drain, -, rfl⟩ := Option.map_eq_some_iff.mp h
    cases drain <;> exact List.prefix_rfl
  | deliver index headVerifierUp issuedAt =>
    obtain ⟨request, -, rfl⟩ := Option.map_eq_some_iff.mp h
    unfold deliver
    dsimp only
    split
    · exact List.prefix_rfl
    · split
      · exact List.prefix_append _ _
      · exact List.prefix_rfl
  | _ =>
    obtain rfl := Option.some.inj h
    exact List.prefix_rfl

theorem OutboxState.log_grows_runs {s t : OutboxState} {ls : List OutboxLabel}
    {C : OutboxState → OutboxLabel → Prop} (h : (outboxMachine D cfg).Runs C s ls t) :
    s.log <+: t.log :=
  h.relates (I := fun _ => True) (R := fun s t => s.log <+: t.log) (fun _ => List.prefix_rfl)
    (fun _ _ _ => List.IsPrefix.trans) (fun _ _ _ _ _ _ => trivial)
    (fun _ _ _ _ _ hstep => log_grows_step hstep) trivial

/-- A stored counter only ever gives way to a larger one. -/
theorem HighWater.stored_le {log log' : List OutboxRecord} {consumed consumed' : OrderedMap JsString Int}
    {tumblerId : JsString} {last : Int} (h : HighWater log consumed) (h' : HighWater log' consumed')
    (hgrow : log <+: log') (hlast : consumed.get? tumblerId = some last) :
    ∃ next, consumed'.get? tumblerId = some next ∧ last ≤ next := by
  obtain ⟨hincreasing, hstored⟩ := h' tumblerId
  rw [(h tumblerId).2] at hlast
  have hmem : last ∈ countersOf log' tumblerId := by
    obtain ⟨rest, rfl⟩ := hgrow
    simp only [countersOf, List.filter_append, List.map_append]
    exact List.mem_append_left _ (List.mem_of_getLast? hlast)
  obtain ⟨next, hnext⟩ : ∃ next, (countersOf log' tumblerId).getLast? = some next :=
    Option.isSome_iff_exists.mp (List.getLast?_isSome.mpr (List.ne_nil_of_mem hmem))
  exact ⟨next, hstored.trans hnext, le_getLast_of_pairwise hincreasing hmem hnext⟩

theorem outbox_end_to_end {sourceEpoch : JsString} {source : SourceDb} {receiver : ReceiverDb}
    {ls ks : List OutboxLabel} {s t : OutboxState}
    (hstart : Provisioned sourceEpoch source receiver)
    (hs : (outboxMachine D cfg).Runs (Genuine cfg) (.start source receiver) ls s)
    (ht : (outboxMachine D cfg).Runs (Genuine cfg) s ks t) :
    (s.log <+: t.log ∧ t.log <+: t.source.entries.map Prod.fst) ∧
    (t.receiver.applied = t.log.map (·.key) ∧ t.appliedSequences.Nodup) ∧
    (HighWater t.log t.receiver.consumed ∧
      ∀ tumblerId last, s.receiver.consumed.get? tumblerId = some last →
        ∃ next, t.receiver.consumed.get? tumblerId = some next ∧ last ≤ next) ∧
    (∀ row ∈ t.source.rows, row.acked = true → row.record ∈ t.log) ∧
    ∀ record ∈ t.log, ∀ verdict head decision receiver',
      verifyAndApplyTumblerInTx D cfg.receiver t.receiver verdict record head =
        .ok (decision, receiver') → receiver' = t.receiver := by
  have hbefore := Delivered.of_runs hstart hs
  have hnow := Delivered.of_runs hstart (hs.append ht)
  have hgrow : s.log <+: t.log := OutboxState.log_grows_runs ht
  refine ⟨⟨hgrow, hnow.log⟩, ⟨hnow.applied, hnow.nodup_appliedSequences⟩,
    ⟨hnow.highWater, fun tumblerId last hlast =>
      hbefore.highWater.stored_le hnow.highWater hgrow hlast⟩, ?_, ?_⟩
  · intro row hrow hacked
    exact hnow.mem_log (List.mem_map_of_mem hrow) (hnow.acked row hrow hacked)
  · intro record hmem verdict head decision receiver' hverify
    exact hnow.redelivered hmem hverify

section Sample

def sampleOutbox : PgTskOutboxOptions where
  streamId := JsString.lit "s"
  sanitizer := ⟨some, fun _ => true, fun _ _ _ => rfl⟩
  signer := ⟨JsString.lit "k", JsString.lit "ed25519", id⟩
  maxPendingRows := 16
  maxPendingRows_pos := by decide

def sampleConfig : OutboxConfig where
  outbox := sampleOutbox
  leaseMs := 1000
  verifyHead head := head.signature = head.headDigest
  verifyAck receipt _ := receipt.signature = receipt.opDigest ++ receipt.decision
  receiverId := JsString.lit "r"
  ackKeyId := JsString.lit "a"
  signAck key decision _ := key.opDigest ++ decision

def sampleEpoch : JsString := JsString.lit "e"

def sampleSourceDb : SourceDb where
  fence := some 1
  checkpoint := some (.genesis sampleEpoch)

def sampleReceiverDb : ReceiverDb where
  fence := some 1
  checkpoint := some (.genesis sampleEpoch)

theorem sample_provisioned : Provisioned sampleEpoch sampleSourceDb sampleReceiverDb :=
  ⟨rfl, rfl, rfl, rfl, rfl⟩

def sampleAppend (counter : Int) : OutboxLabel :=
  .append ⟨JsString.lit "s", ⟨JsString.lit "t", counter⟩, 1⟩ true

/-- One operation is sent, arrives twice, and its drain is still waiting. -/
def sampleSent : List OutboxLabel :=
  [sampleAppend 5, .drain, .advance 0 0 7, .advance 0 0 7, .advance 0 0 7, .deliver 0 true [],
    .deliver 0 true []]

def OutboxState.observe (s : OutboxState) : List Bool × List Int :=
  (s.source.rows.map (·.acked), s.appliedSequences)

def sampleRecord : OutboxRecord where
  contractVersion := HA_OUTBOX_CONTRACT_VERSION
  streamId := JsString.lit "s"
  sourceEpoch := sampleEpoch
  sequence := 1
  fenceToken := JsString.lit "1"
  opDigest := (canonicalOpDigest rollingSha256 (JsString.lit "s") sampleEpoch 1 (JsString.lit "1")
    ⟨JsString.lit "t", 5⟩).toOption.getD []
  mutation := ⟨JsString.lit "t", 5⟩

def sampleReceipt : TskAckReceipt := sampleConfig.receipt sampleRecord .applied []

end Sample

theorem outbox_end_to_end_sample : ∃ s t,
    (outboxMachine rollingSha256 sampleConfig).Runs (Genuine sampleConfig)
      (.start sampleSourceDb sampleReceiverDb) sampleSent s ∧
    (outboxMachine rollingSha256 sampleConfig).Runs (Genuine sampleConfig) s
      [.reply 0 (.ok sampleReceipt), .advance 0 1 0] t ∧
    t.observe = ([true], [1]) ∧ s.log <+: t.log ∧
    ∀ row ∈ t.source.rows, row.acked = true → row.record ∈ t.log := by
  obtain ⟨t, hrun, hobserve⟩ := Machine.Runs.of_observed
    (M := outboxMachine rollingSha256 sampleConfig) (C := Genuine sampleConfig)
    (.start sampleSourceDb sampleReceiverDb)
    (sampleSent ++ [.reply 0 (.ok sampleReceipt), .advance 0 1 0]) OutboxState.observe
    (b := ([true], [1])) (by decide +kernel)
  obtain ⟨s, hs, ht⟩ := hrun.append_inv
  obtain ⟨⟨hgrow, -⟩, -, -, hacked, -⟩ := outbox_end_to_end sample_provisioned hs ht
  exact ⟨s, t, hs, ht, hobserve, hgrow, hacked⟩

end TskProtocol
