import TskProtocol.Outbox.Delivery

namespace TskProtocol

variable {D : Sha256Bytes} {cfg : OutboxConfig}

namespace Ledger

variable {opts : PgTskOutboxOptions} {genesis checkpoint checkpoint' : OutboxCheckpoint}
  {entries : List OutboxEntry} {entry : OutboxEntry}

/-- The entries determine the checkpoint they lead to. -/
theorem checkpoint_unique (h : Ledger D opts genesis entries checkpoint)
    (h' : Ledger D opts genesis entries checkpoint') : checkpoint = checkpoint' := by
  cases h with
  | nil =>
    generalize hnil : ([] : List OutboxEntry) = es at h'
    cases h' with
    | nil => rfl
    | snoc => simp at hnil
  | @snoc es c fence last _ _ =>
    generalize hsnoc : es ++ [last] = es' at h'
    cases h' with
    | nil => simp at hsnoc
    | snoc =>
      obtain ⟨-, hlast⟩ := List.append_inj' hsnoc rfl
      rw [List.singleton_inj.mp hlast]

/-- Every entry was built behind the entries before it. -/
theorem built_at {i : Nat} (h : Ledger D opts genesis entries checkpoint)
    (hi : entries[i]? = some entry) :
    ∃ before fence, Ledger D opts genesis (entries.take i) before ∧
      Built D opts fence before entry := by
  induction h with
  | nil => simp at hi
  | @snoc es c fence last hrest hbuilt ih =>
    rcases Nat.lt_or_ge i es.length with hlt | hge
    · rw [List.getElem?_append_left hlt] at hi
      rw [List.take_append_of_le_length (Nat.le_of_lt hlt)]
      exact ih hi
    · obtain rfl : i = es.length := by
        have := (List.getElem?_eq_some_iff.mp hi).1
        simp only [List.length_append, List.length_singleton] at this
        omega
      obtain rfl : last = entry := by simpa using hi
      exact ⟨c, fence, by simpa using hrest, hbuilt⟩

theorem take_succ {i : Nat} {before : OutboxCheckpoint}
    (h : Ledger D opts genesis entries checkpoint) (hi : entries[i]? = some entry)
    (hbefore : Ledger D opts genesis (entries.take i) before) :
    (∃ fence, Built D opts fence before entry) ∧
      Ledger D opts genesis (entries.take (i + 1)) entry.checkpoint := by
  obtain ⟨before', fence, hledger, hbuilt⟩ := h.built_at hi
  obtain rfl := hbefore.checkpoint_unique hledger
  refine ⟨⟨fence, hbuilt⟩, ?_⟩
  rw [List.take_add_one, hi]
  exact hledger.snoc hbuilt

end Ledger

/-- The verdict on a head when the verifier can be reached. -/
def OutboxConfig.verdict (cfg : OutboxConfig) (head : SignedStreamHead) : HeadVerdict :=
  if cfg.verifyHead head then .valid else .invalid

/-- An entry that the receiver will never apply: it is unfit whatever the tables hold, or it is
next and its counter was consumed. -/
def Refused (D : Sha256Bytes) (cfg : OutboxConfig) (s : OutboxState) (entry : OutboxEntry) : Prop :=
  Unfit D cfg.receiver (cfg.verdict entry.2) entry.1 entry.2 ∨
  (entry.1.sequence = s.log.length + 1 ∧
    ∃ last ∈ s.receiver.consumed.get? entry.1.mutation.tumblerId, entry.1.mutation.counter ≤ last)

/-- What the receiver has done with the entries of the source. -/
structure Settled (D : Sha256Bytes) (cfg : OutboxConfig) (sourceEpoch : JsString)
    (s : OutboxState) : Prop where
  caughtUp : ∃ checkpoint, s.receiver.checkpoint = some checkpoint ∧
    Ledger D cfg.outbox (.genesis sourceEpoch) (s.source.entries.take s.log.length) checkpoint
  fit : ∀ entry ∈ s.source.entries.take s.log.length,
    ¬ Unfit D cfg.receiver (cfg.verdict entry.2) entry.1 entry.2
  refused : ∀ receipt ∈ s.receipts, ∀ decision ∈ ReceiverDecision.TERMINAL_DECISIONS,
    ReceiverDecision.ofText receipt.decision = some decision →
    ∃ entry ∈ s.source.entries, entry.1.sequence = receipt.sequence ∧ Refused D cfg s entry

theorem Unfit.mono {opts : PgTskReceiverOptions} {record : OutboxRecord} {head : SignedStreamHead}
    {verdict verdict' : HeadVerdict} (h : Unfit D opts verdict record head)
    (hverdict : verdict = .invalid → verdict' = .invalid) : Unfit D opts verdict' record head := by
  rcases h with h | h | h | h
  · exact .inl h
  · exact .inr (.inl h)
  · exact .inr (.inr (.inl h))
  · exact .inr (.inr (.inr (hverdict h)))

namespace Delivered

variable {sourceEpoch : JsString} {s : OutboxState} {entry : OutboxEntry}

/-- The receiver knows the digest of every operation behind its checkpoint. -/
theorem priorDigest_eq (h : Delivered D cfg sourceEpoch s) (hmem : entry ∈ s.source.entries)
    (hold : entry.1.sequence ≤ s.log.length) :
    s.receiver.priorDigest entry.1 = some entry.1.opDigest := by
  obtain ⟨checkpoint, -, hledger⟩ := h.ledger
  obtain ⟨i, hi⟩ := List.mem_iff_getElem?.mp hmem
  obtain ⟨hseq, hepoch⟩ := hledger.getElem?_eq_some hi
  have hlt : i < s.log.length := by
    simp only [OutboxCheckpoint.genesis] at hseq
    omega
  obtain ⟨-, -, head, hget⟩ := h.sequence_of_log (List.getElem?_eq_getElem hlt)
  obtain rfl : (s.log[i], head) = entry := Option.some.inj (hget.symm.trans hi)
  have hfound : (s.receiver.applied.find? (fun row => row.sourceEpoch = s.log[i].sourceEpoch &&
      row.sequence = s.log[i].sequence)).isSome := by
    rw [List.find?_isSome, h.applied]
    exact ⟨s.log[i].key, List.mem_map_of_mem (List.getElem_mem hlt), by simp [OutboxRecord.key]⟩
  obtain ⟨row, hrow⟩ := Option.isSome_iff_exists.mp hfound
  have hkey := List.find?_some hrow
  have happlied := List.mem_of_find?_eq_some hrow
  rw [h.applied] at happlied
  obtain ⟨other, hother, rfl⟩ := List.mem_map.mp happlied
  simp only [OutboxRecord.key, Bool.and_eq_true] at hkey
  have hsame : other.sequence = s.log[i].sequence := of_decide_eq_true hkey.2
  obtain ⟨j, hj⟩ := List.mem_iff_getElem?.mp hother
  obtain ⟨-, -, head', hget'⟩ := h.sequence_of_log hj
  have hentry := hledger.unique (List.mem_of_getElem? hget') (List.mem_of_getElem? hget) hsame
  rw [ReceiverDb.priorDigest, hrow, Option.map_some]
  exact congrArg some (congrArg (fun e : OutboxEntry => e.1.opDigest) hentry)

/-- A record at the sequence behind the receiver's checkpoint is the next entry. -/
theorem next_entry (h : Delivered D cfg sourceEpoch s) (hmem : entry ∈ s.source.entries)
    (hnext : entry.1.sequence = s.log.length + 1) :
    s.source.entries[s.log.length]? = some entry := by
  obtain ⟨checkpoint, -, hledger⟩ := h.ledger
  exact hledger.getElem?_of_sequence hmem (by simp [OutboxCheckpoint.genesis, hnext])

end Delivered

namespace Settled

variable {sourceEpoch : JsString} {s : OutboxState} {entry : OutboxEntry} {db : ReceiverDb}
  {verdict : HeadVerdict} {decision : ReceiverDecision}

/-- The receiver stands at the checkpoint of the entries it has applied. -/
theorem checkpoint_eq (h : Settled D cfg sourceEpoch s) (hdelivered : Delivered D cfg sourceEpoch s)
    {checkpoint : OutboxCheckpoint} (hcheckpoint : s.receiver.checkpoint = some checkpoint) :
    Ledger D cfg.outbox (.genesis sourceEpoch) (s.source.entries.take s.log.length) checkpoint ∧
    checkpoint.sourceEpoch = sourceEpoch ∧ checkpoint.sequence = s.log.length := by
  obtain ⟨c, hc, hledger⟩ := h.caughtUp
  obtain ⟨c', hc', hepoch, hsequence⟩ := hdelivered.checkpoint
  obtain rfl : c = checkpoint := Option.some.inj (hc.symm.trans hcheckpoint)
  obtain rfl : c' = c := Option.some.inj (hc'.symm.trans hc)
  exact ⟨hledger, hepoch, hsequence⟩

/-- A terminal decision on an entry of the source is one that no later delivery can change. -/
theorem refused_of_terminal (h : Settled D cfg sourceEpoch s)
    (hdelivered : Delivered D cfg sourceEpoch s) (hmem : entry ∈ s.source.entries)
    (hverifies : Verifies D cfg.receiver s.receiver verdict entry.1 entry.2 decision db)
    (hverdict : verdict = .invalid → cfg.verdict entry.2 = .invalid)
    (hterminal : decision ∈ ReceiverDecision.TERMINAL_DECISIONS) : Refused D cfg s entry := by
  cases hverifies with
  | unfit hunfit _ => exact .inl (hunfit.mono hverdict)
  | fence => simp [ReceiverDecision.TERMINAL_DECISIONS] at hterminal
  | @behind checkpoint _ _ _ _ hcheckpoint happlies =>
    obtain ⟨hledger, hepoch, hsequence⟩ := h.checkpoint_eq hdelivered hcheckpoint
    obtain ⟨full, -, hfull⟩ := hdelivered.ledger
    cases happlies with
    | epoch hne =>
      obtain ⟨i, hi⟩ := List.mem_iff_getElem?.mp hmem
      exact absurd ((hfull.getElem?_eq_some hi).2.trans hepoch.symm) hne
    | duplicate => simp [ReceiverDecision.TERMINAL_DECISIONS] at hterminal
    | fork hold hprior hne =>
      rw [hdelivered.priorDigest_eq hmem (by omega)] at hprior
      exact absurd (Option.some.inj hprior).symm hne
    | stale hold hprior =>
      rw [hdelivered.priorDigest_eq hmem (by omega)] at hprior
      cases hprior
    | gap => simp [ReceiverDecision.TERMINAL_DECISIONS] at hterminal
    | unlinked hnext hprev =>
      obtain ⟨⟨fence, hbuilt⟩, -⟩ :=
        hfull.take_succ (hdelivered.next_entry hmem (by omega)) hledger
      exact absurd hbuilt.prevHead hprev
    | consumed hnext hlast hle => exact .inr ⟨by omega, _, hlast, hle⟩
    | applied => simp [ReceiverDecision.TERMINAL_DECISIONS] at hterminal

theorem start {source : SourceDb} {receiver : ReceiverDb}
    (h : Provisioned sourceEpoch source receiver) :
    Settled D cfg sourceEpoch (.start source receiver) where
  caughtUp := ⟨_, h.receiverCheckpoint, by simpa [OutboxState.start] using Ledger.nil⟩
  fit := by simp [OutboxState.start]
  refused := by simp [OutboxState.start]

/-- A step that leaves the receiver alone and only appends to the ledger. -/
theorem of_grown {t : OutboxState} (h : Settled D cfg sourceEpoch s)
    (hdelivered : Delivered D cfg sourceEpoch s) (hentries : s.source.entries <+: t.source.entries)
    (hcheckpoint : t.receiver.checkpoint = s.receiver.checkpoint)
    (hconsumed : t.receiver.consumed = s.receiver.consumed) (hlog : t.log = s.log)
    (hreceipts : t.receipts = s.receipts) : Settled D cfg sourceEpoch t := by
  have hlength : s.log.length ≤ s.source.entries.length := by
    simpa using hdelivered.log.length_le
  have htake : t.source.entries.take t.log.length = s.source.entries.take s.log.length := by
    obtain ⟨rest, hrest⟩ := hentries
    rw [← hrest, hlog, List.take_append_of_le_length hlength]
  refine ⟨?_, ?_, ?_⟩
  · simpa only [htake, hcheckpoint] using h.caughtUp
  · simpa only [htake] using h.fit
  · intro receipt hreceipt decision hdecision htext
    obtain ⟨entry, hmem, hsequence, hrefused⟩ :=
      h.refused receipt (hreceipts ▸ hreceipt) decision hdecision htext
    refine ⟨entry, hentries.subset hmem, hsequence, ?_⟩
    simpa only [Refused, hlog, hconsumed] using hrefused

/-- What was refused before an operation is applied is refused after it. -/
theorem refused_after {checkpoint : OutboxCheckpoint} {other : OutboxEntry}
    (hdelivered : Delivered D cfg sourceEpoch s) (hmem : entry ∈ s.source.entries)
    (hother : other ∈ s.source.entries) (hnext : other.1.sequence = s.log.length + 1)
    (hfresh : ∀ last ∈ s.receiver.consumed.get? other.1.mutation.tumblerId,
      last < other.1.mutation.counter)
    (hrefused : Refused D cfg s entry) {receipts : List TskAckReceipt} :
    Refused D cfg { s with
      receiver := s.receiver.after checkpoint other.1 other.2
      receipts := receipts
      log := s.log ++ [other.1] } entry := by
  rcases hrefused with hunfit | ⟨hsequence, last, hlast, hle⟩
  · exact .inl hunfit
  · obtain ⟨full, -, hfull⟩ := hdelivered.ledger
    obtain rfl := hfull.unique hmem hother (by omega)
    have := hfresh last hlast
    omega

theorem deliver (h : Settled D cfg sourceEpoch s) (hdelivered : Delivered D cfg sourceEpoch s)
    {headVerifierUp : Bool} {issuedAt : JsString} (hmem : entry ∈ s.source.entries) :
    Settled D cfg sourceEpoch (s.deliver D cfg headVerifierUp issuedAt entry.1 entry.2) := by
  unfold OutboxState.deliver
  dsimp only
  split
  · exact h
  next decision receiver hverify =>
  have hverifies := verifyAndApplyTumblerInTx_ok hverify
  have hverdict : ∀ verdict, (if headVerifierUp then
      (if cfg.verifyHead entry.2 then HeadVerdict.valid else .invalid) else .unavailable) = verdict →
      verdict ≠ .unavailable → cfg.verdict entry.2 = verdict := by
    rintro verdict rfl havailable
    cases headVerifierUp with
    | false => simp at havailable
    | true => rfl
  by_cases happlied : decision = .applied
  · subst happlied
    have hfit := hverifies.fit_of_applied
    obtain ⟨checkpoint, -, hcheckpoint, hepoch, hnext, hfresh, rfl⟩ := hverifies.applied_inv
    obtain ⟨hledger, -, hsequence⟩ := h.checkpoint_eq hdelivered hcheckpoint
    obtain ⟨full, -, hfull⟩ := hdelivered.ledger
    have hget := hdelivered.next_entry hmem (by omega)
    obtain ⟨-, hsucc⟩ := hfull.take_succ hget hledger
    simp only [↓reduceIte]
    refine ⟨⟨_, rfl, ?_⟩, ?_, ?_⟩
    · simpa only [List.length_append, List.length_singleton, hepoch.symm,
        OutboxEntry.checkpoint] using hsucc
    · intro other hother
      simp only [List.length_append, List.length_singleton, List.take_add_one, hget,
        Option.toList_some, List.mem_append, List.mem_singleton] at hother
      rcases hother with hold | rfl
      · exact h.fit other hold
      · rw [hverdict .valid hfit.1 (by simp)]
        exact hfit.2
    · intro receipt hreceipt other hother htext
      rcases List.mem_append.mp hreceipt with hold | hnew
      · obtain ⟨old, hold, hsame, hrefused⟩ := h.refused receipt hold other hother htext
        exact ⟨old, hold, hsame, refused_after hdelivered hold hmem (by omega) hfresh hrefused⟩
      · obtain rfl : receipt = cfg.receipt entry.1 .applied issuedAt := by simpa using hnew
        obtain rfl : ReceiverDecision.applied = other :=
          Option.some.inj ((ReceiverDecision.ofText_text .applied).symm.trans htext)
        simp [ReceiverDecision.TERMINAL_DECISIONS] at hother
  · obtain rfl := hverifies.unchanged happlied
    simp only [happlied, ↓reduceIte]
    refine ⟨h.caughtUp, h.fit, fun receipt hreceipt other hother htext => ?_⟩
    rcases List.mem_append.mp hreceipt with hold | hnew
    · exact h.refused receipt hold other hother htext
    · obtain rfl : receipt = cfg.receipt entry.1 decision issuedAt := by simpa using hnew
      obtain rfl : decision = other :=
        Option.some.inj ((ReceiverDecision.ofText_text decision).symm.trans htext)
      exact ⟨entry, hmem, rfl, h.refused_of_terminal hdelivered hmem hverifies
        (fun hinvalid => hverdict .invalid hinvalid (by simp)) hother⟩

theorem step {t : OutboxState} {l : OutboxLabel} (h : Settled D cfg sourceEpoch s)
    (hdelivered : Delivered D cfg sourceEpoch s) (hstep : (outboxMachine D cfg).step s l = some t) :
    Settled D cfg sourceEpoch t := by
  cases l with
  | append input leaseWritable =>
    simp only [outboxMachine, OutboxState.step] at hstep
    split at hstep
    · cases hstep
    · next row source happend =>
      obtain rfl := Option.some.inj hstep
      exact h.of_grown hdelivered (Extends.appended row (appendInTx_ok happend)).entries_grow
        rfl rfl rfl rfl
  | advance index now leaseToken =>
    obtain ⟨drain, -, rfl⟩ := Option.map_eq_some_iff.mp hstep
    obtain ⟨hreceiver, hreceipts, hlog⟩ := OutboxState.advance_receiver D cfg
      { s with drains := s.drains.eraseIdx index } now leaseToken drain
    have hextends := OutboxState.advance_extends D cfg
      { s with drains := s.drains.eraseIdx index } now leaseToken drain
    exact h.of_grown hdelivered hextends.entries_grow (congrArg _ hreceiver)
      (congrArg _ hreceiver) hlog hreceipts
  | reply index outcome =>
    obtain ⟨drain, -, rfl⟩ := Option.map_eq_some_iff.mp hstep
    cases drain <;> exact h.of_grown hdelivered List.prefix_rfl rfl rfl rfl rfl
  | deliver index headVerifierUp issuedAt =>
    obtain ⟨request, hrequest, rfl⟩ := Option.map_eq_some_iff.mp hstep
    exact h.deliver hdelivered (hdelivered.requests request (List.mem_of_getElem? hrequest))
  | _ =>
    obtain rfl := Option.some.inj hstep
    exact h.of_grown hdelivered List.prefix_rfl rfl rfl rfl rfl

end Settled

end TskProtocol
