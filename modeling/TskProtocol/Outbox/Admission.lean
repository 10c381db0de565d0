import TskProtocol.Outbox.Delivery

namespace TskProtocol

variable {D : Sha256Bytes} {cfg : OutboxConfig}

/-- A label that leaves the source under its fence epoch. -/
def OutboxLabel.keepsFence (fence : Nat) : OutboxLabel → Bool
  | .fenceSource other => other = fence
  | _ => true

theorem OutboxState.step_extends {s t : OutboxState} {l : OutboxLabel} {fence : Nat}
    (h : (outboxMachine D cfg).step s l = some t) (hfence : s.source.fence = some fence)
    (hkeeps : l.keepsFence fence = true) : Extends D cfg.outbox s.source t.source := by
  cases l with
  | append input leaseWritable =>
    simp only [outboxMachine, step] at h
    split at h
    · cases h
    · next row source happend =>
      obtain rfl := Option.some.inj h
      exact .appended row (appendInTx_ok happend)
  | fenceSource other =>
    obtain rfl := Option.some.inj h
    obtain rfl : other = fence := by simpa [OutboxLabel.keepsFence] using hkeeps
    exact .same rfl rfl hfence.symm
  | advance index now leaseToken =>
    obtain ⟨drain, -, rfl⟩ := Option.map_eq_some_iff.mp h
    exact advance_extends D cfg { s with drains := s.drains.eraseIdx index } now leaseToken drain
  | reply index outcome =>
    obtain ⟨drain, -, rfl⟩ := Option.map_eq_some_iff.mp h
    cases drain <;> exact .same rfl rfl rfl
  | deliver index headVerifierUp issuedAt =>
    obtain ⟨request, -, rfl⟩ := Option.map_eq_some_iff.mp h
    simp only [deliver]
    split <;> exact .same rfl rfl rfl
  | _ =>
    obtain rfl := Option.some.inj h
    exact .same rfl rfl rfl

/-- The ledger of a source under one fence epoch. -/
structure Recorded (D : Sha256Bytes) (opts : PgTskOutboxOptions) (sourceEpoch : JsString)
    (fence : Nat) (db : SourceDb) : Prop where
  fenced : db.fence = some fence
  ledger : ∃ checkpoint, db.checkpoint = some checkpoint ∧
    Ledger D opts (.genesis sourceEpoch) db.entries checkpoint
  fenceToken : ∀ entry ∈ db.entries, entry.1.fenceToken = fenceTokenToDecimal fence

theorem Recorded.extends {opts : PgTskOutboxOptions} {sourceEpoch : JsString} {fence : Nat}
    {db db' : SourceDb} (h : Recorded D opts sourceEpoch fence db) (hext : Extends D opts db db') :
    Recorded D opts sourceEpoch fence db' := by
  cases hext with
  | appended row happended =>
    obtain ⟨⟨fence', checkpoint, hfence, hcheckpoint, hbuilt⟩, -, rfl⟩ := happended
    obtain rfl : fence' = fence := Option.some.inj (hfence.symm.trans h.fenced)
    obtain ⟨checkpoint', hcheckpoint', hledger⟩ := h.ledger
    obtain rfl : checkpoint' = checkpoint := Option.some.inj (hcheckpoint'.symm.trans hcheckpoint)
    have hentries : SourceDb.entries { db with
        rows := db.rows ++ [row], checkpoint := some row.entry.checkpoint } =
        db.entries ++ [row.entry] := by simp [SourceDb.entries]
    refine ⟨h.fenced, ⟨_, rfl, by rw [hentries]; exact hledger.snoc hbuilt⟩, fun entry hmem => ?_⟩
    rw [hentries] at hmem
    rcases List.mem_append.mp hmem with hold | hnew
    · exact h.fenceToken entry hold
    · obtain rfl : entry = row.entry := by simpa using hnew
      exact hbuilt.fenceToken
  | same hentries hcheckpoint hfence =>
    exact ⟨hfence.trans h.fenced, by simpa only [hentries, hcheckpoint] using h.ledger,
      by simpa only [hentries] using h.fenceToken⟩

theorem Recorded.of_runs {sourceEpoch : JsString} {fence : Nat} {source : SourceDb}
    {receiver : ReceiverDb} {ls : List OutboxLabel} {s : OutboxState}
    (hstart : Provisioned sourceEpoch source receiver) (hfence : source.fence = some fence)
    (h : (outboxMachine D cfg).Runs (fun _ l => l.keepsFence fence = true)
      (.start source receiver) ls s) : Recorded D cfg.outbox sourceEpoch fence s.source := by
  refine h.invariant (I := fun s => Recorded D cfg.outbox sourceEpoch fence s.source)
    (fun _ _ _ hI hC hstep => hI.extends (OutboxState.step_extends hstep hI.fenced hC)) ?_
  refine ⟨hfence, ⟨_, hstart.sourceCheckpoint, ?_⟩, ?_⟩
  · simpa [OutboxState.start, SourceDb.entries, hstart.rows] using Ledger.nil
  · simp [OutboxState.start, SourceDb.entries, hstart.rows]

/-- Deliver the entries one after another, each in a transaction of its own. -/
def receiveAll (D : Sha256Bytes) (cfg : OutboxConfig) :
    ReceiverDb → List OutboxEntry → Except ContractError (List ReceiverDecision × ReceiverDb)
  | db, [] => .ok ([], db)
  | db, entry :: rest => do
    let verdict : HeadVerdict := if cfg.verifyHead entry.2 then .valid else .invalid
    let (decision, next) ← verifyAndApplyTumblerInTx D cfg.receiver db verdict entry.1 entry.2
    let (decisions, last) ← receiveAll D cfg next rest
    return (decision :: decisions, last)

/-- Every entry is applied. -/
def AllApplied (D : Sha256Bytes) (cfg : OutboxConfig) (db : ReceiverDb)
    (entries : List OutboxEntry) (db' : ReceiverDb) : Prop :=
  receiveAll D cfg db entries = .ok (entries.map (fun _ => .applied), db')

theorem AllApplied.nil_iff {db db' : ReceiverDb} : AllApplied D cfg db [] db' ↔ db = db' := by
  simp [AllApplied, receiveAll]

theorem AllApplied.cons_iff {db db' : ReceiverDb} {entry : OutboxEntry} {rest : List OutboxEntry} :
    AllApplied D cfg db (entry :: rest) db' ↔ ∃ next,
      verifyAndApplyTumblerInTx D cfg.receiver db
        (if cfg.verifyHead entry.2 then .valid else .invalid) entry.1 entry.2 =
        .ok (.applied, next) ∧ AllApplied D cfg next rest db' := by
  simp only [AllApplied, receiveAll, bind_eq_ok, List.map_cons]
  constructor
  · rintro ⟨⟨decision, next⟩, hverify, ⟨decisions, last⟩, hrest, hreturn⟩
    obtain ⟨hdecisions, rfl⟩ := Prod.mk.inj (Except.ok.inj hreturn)
    obtain ⟨rfl, rfl⟩ := List.cons.inj hdecisions
    exact ⟨next, hverify, hrest⟩
  · rintro ⟨next, hverify, hrest⟩
    exact ⟨_, hverify, _, hrest, rfl⟩

theorem AllApplied.append_iff {db db' : ReceiverDb} {entries rest : List OutboxEntry} :
    AllApplied D cfg db (entries ++ rest) db' ↔
      ∃ middle, AllApplied D cfg db entries middle ∧ AllApplied D cfg middle rest db' := by
  induction entries generalizing db with
  | nil => simp [AllApplied.nil_iff]
  | cons entry entries ih =>
    simp only [List.cons_append, AllApplied.cons_iff, ih]
    constructor
    · rintro ⟨next, hverify, middle, hentries, hrest⟩
      exact ⟨middle, ⟨next, hverify, hentries⟩, hrest⟩
    · rintro ⟨middle, ⟨next, hverify, hentries⟩, hrest⟩
      exact ⟨next, hverify, middle, hentries, hrest⟩

/-- The head verifier accepts what the signer has signed. -/
def AcceptsSigner (cfg : OutboxConfig) : Prop :=
  ∀ head : SignedStreamHead, head.keyId = cfg.outbox.signer.keyId →
    head.alg = cfg.outbox.signer.alg → head.signature = cfg.outbox.signer.sign head.headDigest →
    cfg.verifyHead head = true

/-- A receiver that has applied every entry up to a checkpoint. -/
structure CaughtUp (fence : Nat) (entries : List OutboxEntry) (checkpoint : OutboxCheckpoint)
    (db : ReceiverDb) : Prop where
  fenced : db.fence = some fence
  reached : db.checkpoint = some checkpoint
  highWater : HighWater (entries.map Prod.fst) db.consumed
  applied : ∀ row ∈ db.applied, row.sequence ≤ checkpoint.sequence

namespace CaughtUp

variable {fence : Nat} {entries : List OutboxEntry} {checkpoint : OutboxCheckpoint}
  {db db' : ReceiverDb} {entry : OutboxEntry}

theorem after (h : CaughtUp fence entries checkpoint db)
    (hbuilt : Built D cfg.outbox fence checkpoint entry)
    (hfresh : ∀ last ∈ db.consumed.get? entry.1.mutation.tumblerId, last < entry.1.mutation.counter) :
    CaughtUp fence (entries ++ [entry]) entry.checkpoint (db.after checkpoint entry.1 entry.2) where
  fenced := h.fenced
  reached := by simp [ReceiverDb.after, OutboxEntry.checkpoint, hbuilt.sourceEpoch]
  highWater := by simpa [ReceiverDb.after] using h.highWater.snoc hfresh
  applied row hrow := by
    have hnext := hbuilt.sequence
    rcases List.mem_append.mp hrow with hold | hnew
    · have := h.applied row hold
      simp only [OutboxEntry.checkpoint]
      omega
    · obtain rfl : row = entry.1.key := by simpa using hnew
      exact Int.le_refl _

theorem priorDigest (h : CaughtUp fence entries checkpoint db) {record : OutboxRecord}
    (hnext : record.sequence = checkpoint.sequence + 1) : db.priorDigest record = none := by
  have hnone : db.applied.find? (fun row => row.sourceEpoch = record.sourceEpoch &&
      row.sequence = record.sequence) = none := by
    refine List.find?_eq_none.mpr (fun row hrow => ?_)
    have := h.applied row hrow
    have hne : row.sequence ≠ record.sequence := by omega
    simp [hne]
  rw [ReceiverDb.priorDigest, hnone, Option.map_none]

/-- Nothing but the counter can stand in the way of the next entry. -/
theorem applies (h : CaughtUp fence entries checkpoint db)
    (hbuilt : Built D cfg.outbox fence checkpoint entry) (haccepts : AcceptsSigner cfg)
    (hfresh : ∀ last ∈ db.consumed.get? entry.1.mutation.tumblerId, last < entry.1.mutation.counter) :
    verifyAndApplyTumblerInTx D cfg.receiver db
      (if cfg.verifyHead entry.2 then .valid else .invalid) entry.1 entry.2 =
      .ok (.applied, db.after checkpoint entry.1 entry.2) := by
  have hverdict : cfg.verifyHead entry.2 = true :=
    haccepts entry.2 hbuilt.keyId hbuilt.alg hbuilt.signed
  have hfence : bigIntOf entry.1.fenceToken = fence := by
    rw [hbuilt.fenceToken, fenceTokenToDecimal, bigIntOf_ofNat]
  have hconsumed : (db.consumed.get? entry.1.mutation.tumblerId).any
      (entry.1.mutation.counter ≤ ·) = false := by
    refine Bool.eq_false_iff.mpr (fun hany => ?_)
    obtain ⟨last, hlast, hle⟩ := (Option.any_eq_true _ _).mp hany
    have hlt := hfresh last hlast
    simp only [decide_eq_true_eq] at hle
    omega
  obtain ⟨hcounter, -⟩ := checkMutation_ok hbuilt.checked
  have happly : db.apply checkpoint entry.1 entry.2 =
      .ok (.applied, db.after checkpoint entry.1 entry.2) := by
    simp [ReceiverDb.apply, require, hbuilt.storable, hcounter, h.priorDigest hbuilt.sequence,
      ReceiverDb.after]
  have happlyAt : db.applyAt checkpoint entry.1 entry.2 =
      .ok (.applied, db.after checkpoint entry.1 entry.2) := by
    have hnext := hbuilt.sequence
    rw [ReceiverDb.applyAt, if_neg (not_not.mpr hbuilt.sourceEpoch), if_neg (by omega),
      if_neg (by omega), if_neg (not_not.mpr hbuilt.prevHead), hconsumed]
    simpa using happly
  have hdecide : db.decide entry.1 entry.2 =
      .ok (.applied, db.after checkpoint entry.1 entry.2) := by
    rw [ReceiverDb.decide, if_neg (by simp [h.fenced, hfence]), h.reached]
    simpa [orThrow] using happlyAt
  have hsanitized : ¬ cfg.receiver.sanitizer.assertSanitized entry.1.mutation = false := by
    rw [OutboxConfig.receiver, hbuilt.sanitized]
    simp
  have hstream : entry.1.streamId = cfg.receiver.streamId := hbuilt.streamId
  simp only [verifyAndApplyTumblerInTx, require, if_pos hstream, bind_ok, hbuilt.conformant,
    if_neg hsanitized, hbuilt.digest, hbuilt.binds, if_pos hverdict, hdecide]
  simp

end CaughtUp

/-- The counters of every tumbler increase from one entry to the next. -/
def CountersIncrease (entries : List OutboxEntry) : Prop :=
  ∀ tumblerId, (countersOf (entries.map Prod.fst) tumblerId).Pairwise (· < ·)

theorem CountersIncrease.of_append {entries rest : List OutboxEntry}
    (h : CountersIncrease (entries ++ rest)) : CountersIncrease entries := by
  intro tumblerId
  have hall := h tumblerId
  simp only [countersOf, List.map_append, List.filter_append] at hall
  exact (List.pairwise_append.mp hall).1

namespace Ledger

variable {sourceEpoch : JsString} {fence : Nat} {entries : List OutboxEntry}
  {checkpoint : OutboxCheckpoint} {db db' : ReceiverDb}

/-- A receiver that has applied every entry stands at the checkpoint of the source. -/
theorem caughtUp (h : Ledger D cfg.outbox (.genesis sourceEpoch) entries checkpoint)
    (hfence : ∀ entry ∈ entries, entry.1.fenceToken = fenceTokenToDecimal fence)
    (hstart : CaughtUp fence [] (.genesis sourceEpoch) db) (happlied : AllApplied D cfg db entries db') :
    CaughtUp fence entries checkpoint db' := by
  induction h generalizing db' with
  | nil => exact AllApplied.nil_iff.mp happlied ▸ hstart
  | @snoc es c other entry hrest hbuilt ih =>
    obtain rfl : other = fence := JsString.ofNat_injective
      (hbuilt.fenceToken.symm.trans (hfence entry (by simp)))
    obtain ⟨middle, hbefore, hlast⟩ := AllApplied.append_iff.mp happlied
    have hmiddle := ih (fun e he => hfence e (List.mem_append_left _ he)) hbefore
    obtain ⟨next, hverify, hnil⟩ := AllApplied.cons_iff.mp hlast
    obtain rfl := AllApplied.nil_iff.mp hnil
    obtain ⟨c', -, hreached, -, -, hfresh, rfl⟩ :=
      (verifyAndApplyTumblerInTx_ok hverify).applied_inv
    obtain rfl : c' = c := Option.some.inj (hreached.symm.trans hmiddle.reached)
    exact hmiddle.after hbuilt hfresh

theorem all_applied (h : Ledger D cfg.outbox (.genesis sourceEpoch) entries checkpoint)
    (hfence : ∀ entry ∈ entries, entry.1.fenceToken = fenceTokenToDecimal fence)
    (haccepts : AcceptsSigner cfg) (hstart : CaughtUp fence [] (.genesis sourceEpoch) db)
    (hincrease : CountersIncrease entries) : ∃ db', AllApplied D cfg db entries db' := by
  induction h with
  | nil => exact ⟨db, AllApplied.nil_iff.mpr rfl⟩
  | @snoc es c other entry hrest hbuilt ih =>
    obtain rfl : other = fence := JsString.ofNat_injective
      (hbuilt.fenceToken.symm.trans (hfence entry (by simp)))
    have hfence' : ∀ e ∈ es, e.1.fenceToken = fenceTokenToDecimal other :=
      fun e he => hfence e (List.mem_append_left _ he)
    obtain ⟨middle, hbefore⟩ := ih hfence' hincrease.of_append
    have hmiddle := hrest.caughtUp hfence' hstart hbefore
    have hfresh : ∀ last ∈ middle.consumed.get? entry.1.mutation.tumblerId,
        last < entry.1.mutation.counter := by
      intro last hlast
      rw [Option.mem_def, (hmiddle.highWater _).2] at hlast
      have hall := hincrease entry.1.mutation.tumblerId
      simp only [countersOf, List.map_append, List.filter_append] at hall
      exact (List.pairwise_append.mp hall).2.2 last (List.mem_of_getLast? hlast)
        entry.1.mutation.counter (by simp)
    exact ⟨_, AllApplied.append_iff.mpr ⟨middle, hbefore, AllApplied.cons_iff.mpr
      ⟨_, hmiddle.applies hbuilt haccepts hfresh, AllApplied.nil_iff.mpr rfl⟩⟩⟩

end Ledger

/-- A receiver of a stream before its first operation. -/
structure FreshReceiver (sourceEpoch : JsString) (fence : Nat) (db : ReceiverDb) : Prop where
  fence : db.fence = some fence
  checkpoint : db.checkpoint = some (.genesis sourceEpoch)
  applied : db.applied = []
  consumed : db.consumed = ∅

theorem FreshReceiver.caughtUp {sourceEpoch : JsString} {fence : Nat} {db : ReceiverDb}
    (h : FreshReceiver sourceEpoch fence db) : CaughtUp fence [] (.genesis sourceEpoch) db where
  fenced := h.fence
  reached := h.checkpoint
  highWater := by simpa [h.consumed] using HighWater.nil
  applied := by simp [h.applied]

theorem admitted_all_applied {sourceEpoch : JsString} {fence : Nat} {source : SourceDb}
    {receiver fresh : ReceiverDb} {ls : List OutboxLabel} {s : OutboxState}
    (hstart : Provisioned sourceEpoch source receiver) (hfence : source.fence = some fence)
    (hrun : (outboxMachine D cfg).Runs (fun _ l => l.keepsFence fence = true)
      (.start source receiver) ls s)
    (haccepts : AcceptsSigner cfg) (hfresh : FreshReceiver sourceEpoch fence fresh) :
    (∃ db, AllApplied D cfg fresh s.source.entries db) ↔ CountersIncrease s.source.entries := by
  have hrecorded := Recorded.of_runs hstart hfence hrun
  obtain ⟨checkpoint, -, hledger⟩ := hrecorded.ledger
  constructor
  · rintro ⟨db, happlied⟩ tumblerId
    exact ((hledger.caughtUp hrecorded.fenceToken hfresh.caughtUp happlied).highWater tumblerId).1
  · exact hledger.all_applied hrecorded.fenceToken haccepts hfresh.caughtUp

section Sample

theorem sample_acceptsSigner : AcceptsSigner sampleConfig := by
  intro head _ _ hsigned
  simpa [sampleConfig, sampleOutbox] using hsigned

theorem sample_freshReceiver : FreshReceiver sampleEpoch 1 sampleReceiverDb := ⟨rfl, rfl, rfl, rfl⟩

def sampleReceived (s : OutboxState) : List Int × List ReceiverDecision :=
  (s.source.entries.map (·.1.mutation.counter),
    ((receiveAll rollingSha256 sampleConfig sampleReceiverDb s.source.entries).toOption.map
      Prod.fst).getD [])

end Sample

theorem admitted_all_applied_sample : ∃ s,
    (outboxMachine rollingSha256 sampleConfig).Runs (fun _ l => l.keepsFence 1 = true)
      (.start sampleSourceDb sampleReceiverDb) [sampleAppend 5, sampleAppend 6] s ∧
    sampleReceived s = ([5, 6], [.applied, .applied]) ∧
    ((∃ db, AllApplied rollingSha256 sampleConfig sampleReceiverDb s.source.entries db) ↔
      CountersIncrease s.source.entries) := by
  obtain ⟨s, hrun, hobserve⟩ := Machine.Runs.of_observed
    (M := outboxMachine rollingSha256 sampleConfig) (C := fun _ l => l.keepsFence 1 = true)
    (.start sampleSourceDb sampleReceiverDb) [sampleAppend 5, sampleAppend 6] sampleReceived
    (b := ([5, 6], [.applied, .applied])) (by decide +kernel)
  exact ⟨s, hrun, hobserve, admitted_all_applied sample_provisioned rfl hrun sample_acceptsSigner
    sample_freshReceiver⟩

/-- The source takes the same counter twice; the receiver refuses it for good. -/
theorem repeated_counter_refused : ∃ s,
    (outboxMachine rollingSha256 sampleConfig).Runs (fun _ l => l.keepsFence 1 = true)
      (.start sampleSourceDb sampleReceiverDb) [sampleAppend 5, sampleAppend 5] s ∧
    sampleReceived s = ([5, 5], [.applied, .rejectFork]) ∧
    ¬ ∃ db, AllApplied rollingSha256 sampleConfig sampleReceiverDb s.source.entries db := by
  obtain ⟨s, hrun, hobserve⟩ := Machine.Runs.of_observed
    (M := outboxMachine rollingSha256 sampleConfig) (C := fun _ l => l.keepsFence 1 = true)
    (.start sampleSourceDb sampleReceiverDb) [sampleAppend 5, sampleAppend 5] sampleReceived
    (b := ([5, 5], [.applied, .rejectFork])) (by decide +kernel)
  refine ⟨s, hrun, hobserve, ?_⟩
  rintro ⟨db, happlied⟩
  have hdecisions := (Prod.mk.inj hobserve).2
  rw [happlied] at hdecisions
  have hmem : ReceiverDecision.rejectFork ∈ s.source.entries.map (fun _ => ReceiverDecision.applied) := by
    simp only [Except.toOption, Option.map_some, Option.getD_some] at hdecisions
    simp [hdecisions]
  simp at hmem

end TskProtocol
