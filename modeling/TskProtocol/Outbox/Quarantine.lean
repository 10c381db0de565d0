import TskProtocol.Outbox.Refusal
import TskProtocol.Outbox.Transport

namespace TskProtocol

variable {H : HmacBytes} {D : Sha256Bytes} {cfg : OutboxConfig} {http : HttpOutboxTransportOptions}

/-- The entry a drain has sent and awaits a receipt for. -/
def OutboxState.awaited (s : OutboxState) (index : Nat) : Option OutboxEntry :=
  match s.drains[index]? with
  | some (.awaiting _ record head) => some (record, head)
  | _ => none

def OutboxLabel.isReply : OutboxLabel → Bool
  | .reply _ _ => true
  | _ => false

structure HttpState where
  outbox : OutboxState
  /-- The deliveries that have come to an end, oldest first. -/
  attempts : List (OutboxEntry × HttpAttempt)

inductive HttpLabel
  | outbox (label : OutboxLabel)
  /-- The attempt of a waiting drain ends. -/
  | reply (index : Nat) (attempt : HttpAttempt)

namespace HttpState

def start (source : SourceDb) (receiver : ReceiverDb) : HttpState where
  outbox := .start source receiver
  attempts := []

def step (H : HmacBytes) (D : Sha256Bytes) (cfg : OutboxConfig) (http : HttpOutboxTransportOptions)
    (s : HttpState) : HttpLabel → Option HttpState
  | .outbox label =>
    if label.isReply then none
    else (s.outbox.step D cfg label).map (fun outbox => { s with outbox := outbox })
  | .reply index attempt => (s.outbox.awaited index).bind (fun entry =>
      (s.outbox.step D cfg (.reply index
        (deliverAndAwaitAck H D http entry.1 entry.2 attempt))).map (fun outbox =>
          { outbox := outbox, attempts := s.attempts ++ [(entry, attempt)] }))

end HttpState

/-- The publishers of a stream over HTTP. -/
def httpMachine (H : HmacBytes) (D : Sha256Bytes) (cfg : OutboxConfig)
    (http : HttpOutboxTransportOptions) : Machine HttpState HttpLabel where
  step := HttpState.step H D cfg http

/-- A reply that passes the transport carries a receipt that the receiver has issued: without the
response secret the network cannot make one of its own. -/
def Unforged (H : HmacBytes) (D : Sha256Bytes) (http : HttpOutboxTransportOptions) (s : HttpState) :
    HttpLabel → Prop
  | .outbox _ => True
  | .reply index attempt => ∀ entry ∈ s.outbox.awaited index,
      ∀ receipt ∈ (deliverAndAwaitAck H D http entry.1 entry.2 attempt).toOption,
        receipt ∈ s.outbox.receipts

instance (s : HttpState) : (l : HttpLabel) → Decidable (Unforged H D http s l)
  | .outbox _ => inferInstanceAs (Decidable True)
  | .reply index _ => inferInstanceAs (Decidable (∀ entry ∈ s.outbox.awaited index, _))

/-- A verified terminal decision of the receiver. -/
structure Refusal (H : HmacBytes) (D : Sha256Bytes) (http : HttpOutboxTransportOptions)
    (s : HttpState) (entry : OutboxEntry) (attempt : HttpAttempt) (receipt : TskAckReceipt) :
    Prop where
  verified : deliverAndAwaitAck H D http entry.1 entry.2 attempt = .ok receipt
  issued : receipt ∈ s.outbox.receipts
  terminal : ∃ decision ∈ ReceiverDecision.TERMINAL_DECISIONS,
    ReceiverDecision.ofText receipt.decision = some decision
  sequence : receipt.sequence = entry.1.sequence

/-- Why an entry may be quarantined. -/
inductive Grounds (H : HmacBytes) (D : Sha256Bytes) (http : HttpOutboxTransportOptions)
    (s : HttpState) (record : OutboxRecord) : Prop
  | refusal {head : SignedStreamHead} {attempt : HttpAttempt} {receipt : TskAckReceipt}
      (hmem : ((record, head), attempt) ∈ s.attempts)
      (h : Refusal H D http s (record, head) attempt receipt)
  | transport {head : SignedStreamHead} {attempt : HttpAttempt}
      (hmem : ((record, head), attempt) ∈ s.attempts)
      (h : TerminalFailure H D http record head attempt)

theorem Grounds.mono {s t : HttpState} {record : OutboxRecord} (h : Grounds H D http s record)
    (hattempts : s.attempts ⊆ t.attempts) (hreceipts : s.outbox.receipts ⊆ t.outbox.receipts) :
    Grounds H D http t record := by
  cases h with
  | refusal hmem hrefusal =>
    exact .refusal (hattempts hmem) { hrefusal with issued := hreceipts hrefusal.issued }
  | transport hmem hfailure => exact .transport (hattempts hmem) hfailure

/-- A drain goes on to quarantine its record for a reason only. -/
theorem afterDelivery_quarantining {leaseToken token : Nat} {record quarantined : OutboxRecord}
    {outcome : Except TransportFailure TskAckReceipt} {reason : QuarantineReason}
    (h : afterDelivery cfg leaseToken record outcome = .quarantining token quarantined reason) :
    quarantined = record ∧
    ((∃ failure, outcome = .error failure ∧ isTerminalTransportError failure = true) ∨
      ∃ receipt decision, outcome = .ok receipt ∧ receipt.sequence = record.sequence ∧
        ReceiverDecision.ofText receipt.decision = some decision ∧
        decision ∈ ReceiverDecision.TERMINAL_DECISIONS) := by
  cases outcome with
  | error failure =>
    simp only [afterDelivery] at h
    split at h
    · next hterminal =>
      obtain ⟨-, rfl, -⟩ := Drain.quarantining.inj h
      exact ⟨rfl, .inl ⟨failure, rfl, hterminal⟩⟩
    · cases h
  | ok receipt =>
    simp only [afterDelivery] at h
    split at h
    · cases h
    split at h
    · cases h
    next hbound =>
    split at h
    · cases h
    next decision htext =>
    split at h
    · cases h
    next hack =>
    split at h
    · cases h
    next htransient =>
    simp only [not_or, not_not] at hbound
    obtain ⟨-, rfl, -⟩ := Drain.quarantining.inj h
    refine ⟨rfl, .inr ⟨receipt, decision, rfl, hbound.2.2.1, htext, ?_⟩⟩
    cases decision <;> simp_all [ReceiverDecision.ACK_DECISIONS,
      ReceiverDecision.TRANSIENT_DECISIONS, ReceiverDecision.TERMINAL_DECISIONS]

theorem afterDelivery_ne_awaiting {leaseToken token : Nat} {record : OutboxRecord}
    {outcome : Except TransportFailure TskAckReceipt} (other : OutboxRecord)
    (head : SignedStreamHead) :
    afterDelivery cfg leaseToken record outcome ≠ .awaiting token other head := by
  cases outcome with
  | error failure => simp only [afterDelivery]; split <;> simp
  | ok receipt =>
    simp only [afterDelivery]
    split
    · simp
    split
    · simp
    split
    · simp
    split
    · simp
    split <;> simp

/-- A transaction that quarantines nothing. -/
structure SameQuarantine (db db' : SourceDb) : Prop where
  rows : ∀ row ∈ db'.rows, row.quarantined = true →
    ∃ old ∈ db.rows, old.quarantined = true ∧ old.record = row.record
  kept : ∀ old ∈ db.rows, old.quarantined = true →
    ∃ row ∈ db'.rows, row.quarantined = true ∧ row.record = old.record
  halted : db'.halted = db.halted

theorem SameQuarantine.of_rows {db db' : SourceDb} (hrows : db'.rows = db.rows)
    (hhalted : db'.halted = db.halted) : SameQuarantine db db' where
  rows row hrow hquarantined := ⟨row, hrows ▸ hrow, hquarantined, rfl⟩
  kept old hold hquarantined := ⟨old, hrows ▸ hold, hquarantined, rfl⟩
  halted := hhalted

namespace SourceDb

variable {db db' : SourceDb} {leaseToken : Nat} {record : OutboxRecord}

theorem acquireLease_sameQuarantine {now leaseMs : Int}
    (h : db.acquireLease leaseToken now leaseMs = some db') : SameQuarantine db db' := by
  rw [acquireLease] at h
  split at h
  · obtain rfl := Option.some.inj h
    exact .of_rows rfl rfl
  · cases h

theorem releaseLease_sameQuarantine : SameQuarantine db (db.releaseLease leaseToken) := by
  rw [releaseLease]
  split <;> exact .of_rows rfl rfl

theorem append_sameQuarantine {opts : PgTskOutboxOptions} {row : OutboxRow}
    (h : Appended D opts db db' row) : SameQuarantine db db' := by
  obtain ⟨-, ⟨-, hfresh⟩, rfl⟩ := h
  refine ⟨fun other hmem hquarantined => ?_, fun old hold hquarantined => ?_, rfl⟩
  · rcases List.mem_append.mp hmem with hold | hnew
    · exact ⟨other, hold, hquarantined, rfl⟩
    · obtain rfl : other = row := by simpa using hnew
      simp [hfresh] at hquarantined
  · exact ⟨old, List.mem_append_left _ hold, hquarantined, rfl⟩

theorem ack_sameQuarantine (h : db.ack leaseToken record = .ok db') : SameQuarantine db db' := by
  rw [ack] at h
  split at h
  · cases h
  obtain rfl := updateOne_ok h
  refine ⟨fun row hrow hquarantined => ?_, fun old hold hquarantined => ?_, rfl⟩
  · obtain ⟨old, hold, rfl⟩ := List.mem_map.mp hrow
    refine ⟨old, hold, ?_, ?_⟩
    · split at hquarantined <;> exact hquarantined
    · split <;> rfl
  · refine ⟨_, List.mem_map_of_mem hold, ?_, ?_⟩
    · split <;> exact hquarantined
    · split <;> rfl

/-- The quarantine of a record marks its row, and halts the stream. -/
theorem quarantineAndHalt_ok {reason : QuarantineReason}
    (h : db.quarantineAndHalt leaseToken record reason = .ok db') :
    (∀ row ∈ db'.rows, row.quarantined = true →
      (∃ old ∈ db.rows, old.quarantined = true ∧ old.record = row.record) ∨
      row.sequence = record.sequence) ∧
    (∀ old ∈ db.rows, old.quarantined = true →
      ∃ row ∈ db'.rows, row.quarantined = true ∧ row.record = old.record) ∧
    (∃ row ∈ db'.rows, row.quarantined = true ∧ row.sequence = record.sequence ∧
      ∃ entry, db'.halted = some (db.halted.getD entry) ∧ entry.sequence = record.sequence) := by
  rw [quarantineAndHalt] at h
  split at h
  · cases h
  simp only [bind_eq_ok] at h
  obtain ⟨recorded, hrecorded, marked, hmarked, h⟩ := h
  obtain rfl := Except.ok.inj h
  obtain ⟨hrows, hhalted⟩ : recorded.rows = db.rows ∧ recorded.halted = db.halted := by
    rcases recordQuarantine_ok hrecorded with rfl | rfl <;> exact ⟨rfl, rfl⟩
  obtain ⟨marked, hmatch⟩ := updateOne_exists hmarked
  obtain rfl := updateOne_ok hmarked
  simp only [hrows] at hmatch ⊢
  refine ⟨fun row hrow hquarantined => ?_, fun old hold hquarantined => ?_, ?_⟩
  · obtain ⟨old, hold, rfl⟩ := List.mem_map.mp hrow
    split at hquarantined
    · next hrow =>
      refine .inr ?_
      simp only [isRow, Bool.and_eq_true, decide_eq_true_eq] at hrow
      rw [if_pos (by simpa [isRow, and_assoc] using hrow)]
      exact hrow.1.2
    · next hrow => exact .inl ⟨old, hold, hquarantined, by rw [if_neg hrow]⟩
  · refine ⟨_, List.mem_map_of_mem hold, ?_, ?_⟩
    · split
      · rfl
      · exact hquarantined
    · split <;> rfl
  · refine ⟨_, List.mem_map_of_mem hmatch.1, ?_, ?_, _, by rw [hhalted], rfl⟩
    · simp [hmatch.2]
    · have hrow := hmatch.2
      simp only [isRow, Bool.and_eq_true, decide_eq_true_eq] at hrow
      simpa [hmatch.2, OutboxRow.sequence] using hrow.1.2

end SourceDb

/-- A drain that neither awaits a receipt nor is about to quarantine. -/
def Drain.idle : Drain → Prop
  | .awaiting _ _ _ => False
  | .quarantining _ _ _ => False
  | _ => True

namespace OutboxState

variable {s : OutboxState} {now : Int} {fresh : Nat} {drain next : Drain}

theorem mem_park {after : Option Drain} (hmem : next ∈ (s.park after).drains) :
    next ∈ s.drains ∨ after = some next := by
  rcases List.mem_append.mp hmem with hold | hnew
  · exact .inl hold
  · exact .inr (by simpa using hnew)

/-- A drain only takes up rows of the source. -/
theorem mem_advance_drains (hmem : next ∈ (s.advance D cfg now fresh drain).drains) :
    next ∈ s.drains ∨ next = drain ∨
    (∃ token, ∃ row ∈ s.source.rows, next = .awaiting token row.record row.head) ∨ next.idle := by
  have hpark : ∀ {o : OutboxState} {after : Drain}, next ∈ (o.park (some after)).drains →
      o.drains = s.drains → after.idle → next ∈ s.drains ∨ next.idle := by
    intro o after hmem hdrains hidle
    rcases mem_park hmem with hold | hnew
    · exact .inl (hdrains ▸ hold)
    · exact .inr (Option.some.inj hnew ▸ hidle)
  have hdone : next ∈ s.drains ∨ next.idle → next ∈ s.drains ∨ next = drain ∨
      (∃ token, ∃ row ∈ s.source.rows, next = .awaiting token row.record row.head) ∨ next.idle :=
    fun h => h.imp_right (fun hidle => .inr (.inr hidle))
  cases drain with
  | checking =>
    simp only [advance] at hmem
    split at hmem
    · exact .inl ((mem_park hmem).resolve_right (by simp))
    · exact hdone (hpark hmem rfl trivial)
  | acquiring =>
    simp only [advance] at hmem
    split at hmem
    · exact .inl hmem
    · exact hdone (hpark hmem rfl trivial)
  | selecting leaseToken =>
    simp only [advance] at hmem
    split at hmem
    · exact hdone (hpark hmem rfl trivial)
    · next row hrow =>
      split at hmem
      · rcases mem_park hmem with hold | hnew
        · exact .inl hold
        · exact .inr (.inr (.inl ⟨leaseToken, row, List.mem_of_find?_eq_some hrow,
            (Option.some.inj hnew).symm⟩))
      · exact hdone (hpark hmem rfl trivial)
  | awaiting leaseToken record head =>
    exact (mem_park hmem).imp_right (fun hnew => .inl (Option.some.inj hnew).symm)
  | acking leaseToken record =>
    simp only [advance, commit] at hmem
    split at hmem <;> exact hdone (hpark hmem rfl trivial)
  | quarantining leaseToken record reason =>
    simp only [advance, commit] at hmem
    split at hmem <;> exact hdone (hpark hmem rfl trivial)
  | releasing leaseToken => exact .inl hmem

variable (D cfg s) in
theorem deliver_frame (headVerifierUp : Bool) (issuedAt : JsString) (record : OutboxRecord)
    (head : SignedStreamHead) :
    (s.deliver D cfg headVerifierUp issuedAt record head).source = s.source ∧
    (s.deliver D cfg headVerifierUp issuedAt record head).drains = s.drains ∧
    s.receipts ⊆ (s.deliver D cfg headVerifierUp issuedAt record head).receipts := by
  unfold deliver
  dsimp only
  split
  · exact ⟨rfl, rfl, List.Subset.refl _⟩
  · exact ⟨rfl, rfl, List.subset_append_left _ _⟩

theorem advance_sameQuarantine
    (hdrain : ∀ leaseToken record reason, drain ≠ .quarantining leaseToken record reason) :
    SameQuarantine s.source (s.advance D cfg now fresh drain).source := by
  cases drain with
  | acquiring =>
    simp only [advance]
    split
    · exact .of_rows rfl rfl
    · next hlease => exact SourceDb.acquireLease_sameQuarantine hlease
  | selecting leaseToken =>
    simp only [advance]
    split
    · exact .of_rows rfl rfl
    · split <;> exact .of_rows rfl rfl
  | acking leaseToken record =>
    simp only [advance, commit]
    split
    · next hack => exact SourceDb.ack_sameQuarantine hack
    · exact .of_rows rfl rfl
  | quarantining leaseToken record reason => exact absurd rfl (hdrain leaseToken record reason)
  | releasing leaseToken => exact SourceDb.releaseLease_sameQuarantine
  | _ => exact .of_rows rfl rfl

end OutboxState

/-- Every quarantined row, and every drain about to quarantine, has its grounds. -/
structure Quarantined (H : HmacBytes) (D : Sha256Bytes) (cfg : OutboxConfig)
    (http : HttpOutboxTransportOptions) (sourceEpoch : JsString) (s : HttpState) : Prop where
  delivered : Delivered D cfg sourceEpoch s.outbox
  settled : Settled D cfg sourceEpoch s.outbox
  attempts : ∀ attempt ∈ s.attempts, attempt.1 ∈ s.outbox.source.entries
  awaiting : ∀ leaseToken record head, .awaiting leaseToken record head ∈ s.outbox.drains →
    (record, head) ∈ s.outbox.source.entries
  quarantining : ∀ leaseToken record reason, .quarantining leaseToken record reason ∈ s.outbox.drains →
    Grounds H D http s record
  rows : ∀ row ∈ s.outbox.source.rows, row.quarantined = true → Grounds H D http s row.record
  halted : ∀ entry ∈ s.outbox.source.halted, ∃ row ∈ s.outbox.source.rows,
    row.quarantined = true ∧ row.sequence = entry.sequence

namespace Quarantined

variable {sourceEpoch : JsString} {s t : HttpState}

theorem start {source : SourceDb} {receiver : ReceiverDb}
    (h : Provisioned sourceEpoch source receiver) (hhalted : source.halted = none) :
    Quarantined H D cfg http sourceEpoch (.start source receiver) where
  delivered := .start h
  settled := .start h
  attempts := by simp [HttpState.start]
  awaiting := by simp [HttpState.start, OutboxState.start]
  quarantining := by simp [HttpState.start, OutboxState.start]
  rows := by simp [HttpState.start, OutboxState.start, h.rows]
  halted := by simp [HttpState.start, OutboxState.start, hhalted]

/-- A drain that the step has left behind: what it says of the entry it holds. -/
def DrainSound (H : HmacBytes) (D : Sha256Bytes) (http : HttpOutboxTransportOptions)
    (s : HttpState) : Drain → Prop
  | .awaiting _ record head => (record, head) ∈ s.outbox.source.entries
  | .quarantining _ record _ => Grounds H D http s record
  | _ => True

theorem DrainSound.of_idle {drain : Drain} (h : drain.idle) : DrainSound H D http s drain := by
  cases drain with
  | awaiting => exact h.elim
  | quarantining => exact h.elim
  | _ => trivial

theorem drain_sound (h : Quarantined H D cfg http sourceEpoch s) {drain : Drain}
    (hmem : drain ∈ s.outbox.drains) : DrainSound H D http s drain := by
  cases drain with
  | awaiting leaseToken record head => exact h.awaiting _ _ _ hmem
  | quarantining leaseToken record reason => exact h.quarantining _ _ _ hmem
  | _ => trivial

theorem DrainSound.mono {drain : Drain} (h : DrainSound H D http s drain)
    (hentries : s.outbox.source.entries ⊆ t.outbox.source.entries)
    (hattempts : s.attempts ⊆ t.attempts) (hreceipts : s.outbox.receipts ⊆ t.outbox.receipts) :
    DrainSound H D http t drain := by
  cases drain with
  | awaiting leaseToken record head => exact hentries h
  | quarantining leaseToken record reason => exact Grounds.mono h hattempts hreceipts
  | _ => trivial

/-- A step that quarantines nothing. -/
theorem of_same (h : Quarantined H D cfg http sourceEpoch s)
    (hdelivered : Delivered D cfg sourceEpoch t.outbox)
    (hsettled : Settled D cfg sourceEpoch t.outbox)
    (hentries : s.outbox.source.entries ⊆ t.outbox.source.entries)
    (hattempts : ∀ attempt ∈ t.attempts, attempt.1 ∈ t.outbox.source.entries)
    (hgrow : s.attempts ⊆ t.attempts) (hreceipts : s.outbox.receipts ⊆ t.outbox.receipts)
    (hdrains : ∀ drain ∈ t.outbox.drains, drain ∈ s.outbox.drains ∨ DrainSound H D http t drain)
    (hsame : SameQuarantine s.outbox.source t.outbox.source) :
    Quarantined H D cfg http sourceEpoch t := by
  have hsound : ∀ drain ∈ t.outbox.drains, DrainSound H D http t drain := by
    intro drain hmem
    rcases hdrains drain hmem with hold | hnew
    · exact (h.drain_sound hold).mono hentries hgrow hreceipts
    · exact hnew
  refine ⟨hdelivered, hsettled, hattempts, fun _ _ _ hmem => hsound _ hmem,
    fun _ _ _ hmem => hsound _ hmem, fun row hrow hquarantined => ?_, fun entry hentry => ?_⟩
  · obtain ⟨old, hold, holdQuarantined, hrecord⟩ := hsame.rows row hrow hquarantined
    rw [← hrecord]
    exact (h.rows old hold holdQuarantined).mono hgrow hreceipts
  · rw [hsame.halted] at hentry
    obtain ⟨old, hold, hquarantined, hsequence⟩ := h.halted entry hentry
    obtain ⟨row, hrow, hrowQuarantined, hrecord⟩ := hsame.kept old hold hquarantined
    exact ⟨row, hrow, hrowQuarantined, by rw [OutboxRow.sequence, hrecord]; exact hsequence⟩

/-- The transaction that quarantines a record that a drain has grounds for. -/
theorem quarantine {source : SourceDb} {leaseToken : Nat} {record : OutboxRecord}
    {reason : QuarantineReason} (h : Quarantined H D cfg http sourceEpoch s)
    (hok : s.outbox.source.quarantineAndHalt leaseToken record reason = .ok source)
    (hgrounds : Grounds H D http s record) {drains : List Drain}
    (hdrains : ∀ drain ∈ drains, drain ∈ s.outbox.drains ∨ DrainSound H D http s drain)
    (hdelivered : Delivered D cfg sourceEpoch { s.outbox with source := source, drains := drains })
    (hsettled : Settled D cfg sourceEpoch { s.outbox with source := source, drains := drains }) :
    Quarantined H D cfg http sourceEpoch
      { s with outbox := { s.outbox with source := source, drains := drains } } := by
  have hentries := (SourceDb.quarantineAndHalt_same hok).entries
  obtain ⟨hrows, hkept, row, hrow, hquarantined, hsequence, entry, hhalted, hentry⟩ :=
    SourceDb.quarantineAndHalt_ok hok
  have hsound : ∀ drain ∈ drains, DrainSound H D http
      { s with outbox := { s.outbox with source := source, drains := drains } } drain := by
    intro drain hmem
    rcases hdrains drain hmem with hold | hnew
    · exact (h.drain_sound hold).mono (hentries ▸ List.Subset.refl _) (List.Subset.refl _)
        (List.Subset.refl _)
    · exact hnew.mono (hentries ▸ List.Subset.refl _) (List.Subset.refl _) (List.Subset.refl _)
  refine ⟨hdelivered, hsettled, fun attempt hmem => ?_, fun _ _ _ hmem => hsound _ hmem,
    fun _ _ _ hmem => hsound _ hmem, fun other hother hotherQuarantined => ?_, fun halt hhalt => ?_⟩
  · exact hentries ▸ h.attempts attempt hmem
  · rcases hrows other hother hotherQuarantined with ⟨old, hold, holdQuarantined, hrecord⟩ | hsame
    · rw [← hrecord]
      exact (h.rows old hold holdQuarantined).mono (List.Subset.refl _) (List.Subset.refl _)
    · -- The record of the drain is the one of the row.
      obtain ⟨head, hhead⟩ : ∃ head, (record, head) ∈ s.outbox.source.entries := by
        cases hgrounds with
        | refusal hmem => exact ⟨_, h.attempts _ hmem⟩
        | transport hmem => exact ⟨_, h.attempts _ hmem⟩
      obtain ⟨checkpoint, -, hledger⟩ := h.delivered.ledger
      have hotherEntry : other.entry ∈ s.outbox.source.entries :=
        hentries ▸ List.mem_map_of_mem hother
      have hunique := hledger.unique hotherEntry hhead hsame
      have hrecord : other.record = record := congrArg Prod.fst hunique
      rw [hrecord]
      exact hgrounds.mono (List.Subset.refl _) (List.Subset.refl _)
  · cases hbefore : s.outbox.source.halted with
    | none =>
      rw [hbefore] at hhalted
      obtain rfl : entry = halt := Option.some.inj (hhalted.symm.trans hhalt)
      exact ⟨row, hrow, hquarantined, hsequence.trans hentry.symm⟩
    | some first =>
      rw [hbefore] at hhalted
      obtain rfl : first = halt := Option.some.inj (hhalted.symm.trans hhalt)
      obtain ⟨old, hold, holdQuarantined, holdSequence⟩ := h.halted first hbefore
      obtain ⟨kept, hmem, hkeptQuarantined, hrecord⟩ := hkept old hold holdQuarantined
      exact ⟨kept, hmem, hkeptQuarantined, by rw [OutboxRow.sequence, hrecord]; exact holdSequence⟩

theorem removeDrain (h : Quarantined H D cfg http sourceEpoch s) (index : Nat) :
    Quarantined H D cfg http sourceEpoch
      { s with outbox := { s.outbox with drains := s.outbox.drains.eraseIdx index } } :=
  h.of_same (h.delivered.removeDrain index)
    (h.settled.of_grown h.delivered List.prefix_rfl rfl rfl rfl rfl) (List.Subset.refl _) h.attempts
    (List.Subset.refl _) (List.Subset.refl _) (fun _ hmem => .inl (List.mem_of_mem_eraseIdx hmem))
    (.of_rows rfl rfl)

theorem advance {drain : Drain} {now : Int} {fresh : Nat}
    (h : Quarantined H D cfg http sourceEpoch s) (hsound : DrainSound H D http s drain)
    (hdelivered : Delivered D cfg sourceEpoch (s.outbox.advance D cfg now fresh drain))
    (hsettled : Settled D cfg sourceEpoch (s.outbox.advance D cfg now fresh drain)) :
    Quarantined H D cfg http sourceEpoch
      { s with outbox := s.outbox.advance D cfg now fresh drain } := by
  have hentries := (OutboxState.advance_extends D cfg s.outbox now fresh drain).entries_grow.subset
  have hreceipts : s.outbox.receipts ⊆ (s.outbox.advance D cfg now fresh drain).receipts := by
    rw [(OutboxState.advance_receiver D cfg s.outbox now fresh drain).2.1]
    exact List.Subset.refl _
  have hdrains : ∀ next ∈ (s.outbox.advance D cfg now fresh drain).drains,
      next ∈ s.outbox.drains ∨ DrainSound H D http s next := by
    intro next hmem
    rcases OutboxState.mem_advance_drains hmem with hold | rfl | ⟨token, row, hrow, rfl⟩ | hidle
    · exact .inl hold
    · exact .inr hsound
    · exact .inr (List.mem_map_of_mem hrow)
    · exact .inr (.of_idle hidle)
  have hunchanged := h.of_same (t := { s with outbox := s.outbox.advance D cfg now fresh drain })
    hdelivered hsettled hentries (fun attempt hmem => hentries (h.attempts attempt hmem))
    (List.Subset.refl _) hreceipts
    (fun next hmem => (hdrains next hmem).imp_right
      (fun hnext => hnext.mono hentries (List.Subset.refl _) hreceipts))
  cases hdrain : drain with
  | quarantining leaseToken record reason =>
    subst hdrain
    cases hok : s.outbox.source.quarantineAndHalt leaseToken record reason with
    | error e =>
      refine hunchanged ?_
      rw [OutboxState.advance, hok]
      exact .of_rows rfl rfl
    | ok source =>
      simp only [OutboxState.advance, hok] at hdelivered hsettled hdrains ⊢
      exact h.quarantine hok hsound hdrains hdelivered hsettled
  | _ =>
    subst hdrain
    exact hunchanged (OutboxState.advance_sameQuarantine (by simp))

theorem awaited_eq {o : OutboxState} {index : Nat} {entry : OutboxEntry}
    (h : o.awaited index = some entry) :
    ∃ leaseToken, o.drains[index]? = some (.awaiting leaseToken entry.1 entry.2) := by
  simp only [OutboxState.awaited] at h
  split at h
  · next leaseToken record head hdrain =>
    obtain rfl := Option.some.inj h
    exact ⟨leaseToken, hdrain⟩
  · cases h

/-- The end of an attempt gives a drain that goes on to quarantine its grounds. -/
theorem reply {index : Nat} {attempt : HttpAttempt} {entry : OutboxEntry} {outbox : OutboxState}
    (h : Quarantined H D cfg http sourceEpoch s)
    (hunforged : Unforged H D http s (.reply index attempt))
    (hawaited : s.outbox.awaited index = some entry)
    (hstep : (outboxMachine D cfg).step s.outbox (.reply index
      (deliverAndAwaitAck H D http entry.1 entry.2 attempt)) = some outbox) :
    Quarantined H D cfg http sourceEpoch ⟨outbox, s.attempts ++ [(entry, attempt)]⟩ := by
  obtain ⟨leaseToken, hdrain⟩ := awaited_eq hawaited
  have hissued : ∀ receipt, deliverAndAwaitAck H D http entry.1 entry.2 attempt = .ok receipt →
      receipt ∈ s.outbox.receipts := by
    intro receipt hok
    exact hunforged entry hawaited receipt (by simp [hok, Except.toOption])
  have hgenuine : Genuine cfg s.outbox (.reply index
      (deliverAndAwaitAck H D http entry.1 entry.2 attempt)) := by
    rintro ⟨receipt, record⟩ hanswer -
    cases hok : deliverAndAwaitAck H D http entry.1 entry.2 attempt with
    | error failure => simp [OutboxState.answered, hok] at hanswer
    | ok other =>
      simp only [OutboxState.answered, hok, hdrain, Option.mem_def, Option.some.injEq,
        Prod.mk.injEq] at hanswer
      exact hanswer.1 ▸ hissued other hok
  have hdelivered := h.delivered.step hgenuine hstep
  have hsettled := h.settled.step h.delivered hstep
  have hentry : entry ∈ s.outbox.source.entries :=
    h.awaiting _ _ _ (List.mem_of_getElem? hdrain)
  have hmem : (entry, attempt) ∈ s.attempts ++ [(entry, attempt)] := by simp
  obtain ⟨drain, hsame, rfl⟩ := Option.map_eq_some_iff.mp hstep
  obtain rfl : .awaiting leaseToken entry.1 entry.2 = drain :=
    Option.some.inj (hdrain.symm.trans hsame)
  refine (h.removeDrain index).of_same hdelivered hsettled (List.Subset.refl _) ?_
    (List.subset_append_left _ _) (List.Subset.refl _) (fun next hnext => ?_) (.of_rows rfl rfl)
  · intro other hother
    rcases List.mem_append.mp hother with hold | hnew
    · exact h.attempts other hold
    · obtain rfl : other = (entry, attempt) := by simpa using hnew
      exact hentry
  · refine (OutboxState.mem_park hnext).imp_right (fun hafter => ?_)
    have hafter := Option.some.inj hafter
    cases next with
    | awaiting token record head => exact absurd hafter (afterDelivery_ne_awaiting _ _)
    | quarantining token record reason =>
      obtain ⟨rfl, ⟨failure, herror, hterminal⟩ | ⟨receipt, decision, hok, hsequence, htext,
        hdecision⟩⟩ := afterDelivery_quarantining hafter
      · exact .transport hmem (deliverAndAwaitAck_terminal herror hterminal)
      · exact .refusal hmem ⟨hok, hissued receipt hok, ⟨decision, hdecision, htext⟩, hsequence⟩
    | _ => trivial

theorem outbox_step {label : OutboxLabel} {outbox : OutboxState}
    (h : Quarantined H D cfg http sourceEpoch s) (hlabel : label.isReply = false)
    (hstep : (outboxMachine D cfg).step s.outbox label = some outbox) :
    Quarantined H D cfg http sourceEpoch { s with outbox := outbox } := by
  have hgenuine : Genuine cfg s.outbox label := by
    intro answer hanswer
    cases label with
    | reply index outcome => cases hlabel
    | _ => cases hanswer
  have hdelivered := h.delivered.step hgenuine hstep
  have hsettled := h.settled.step h.delivered hstep
  cases label with
  | append input leaseWritable =>
    simp only [outboxMachine, OutboxState.step] at hstep
    split at hstep
    · cases hstep
    · next row source happend =>
      obtain rfl := Option.some.inj hstep
      have hentries := (Extends.appended row (appendInTx_ok happend)).entries_grow.subset
      exact h.of_same hdelivered hsettled hentries
        (fun attempt hmem => hentries (h.attempts attempt hmem)) (List.Subset.refl _)
        (List.Subset.refl _) (fun _ hmem => .inl hmem)
        (SourceDb.append_sameQuarantine (appendInTx_ok happend))
  | drain =>
    obtain rfl := Option.some.inj hstep
    refine h.of_same hdelivered hsettled (List.Subset.refl _) h.attempts (List.Subset.refl _)
      (List.Subset.refl _) (fun next hmem => ?_) (.of_rows rfl rfl)
    refine (OutboxState.mem_park hmem).imp_right (fun hnext => ?_)
    obtain rfl := Option.some.inj hnext
    trivial
  | advance index now leaseToken =>
    obtain ⟨drain, hdrain, rfl⟩ := Option.map_eq_some_iff.mp hstep
    have hsound := h.drain_sound (List.mem_of_getElem? hdrain)
    exact (h.removeDrain index).advance
      (hsound.mono (List.Subset.refl _) (List.Subset.refl _) (List.Subset.refl _)) hdelivered hsettled
  | reply index outcome => cases hlabel
  | crash index =>
    obtain rfl := Option.some.inj hstep
    exact h.removeDrain index
  | deliver index headVerifierUp issuedAt =>
    obtain ⟨request, -, rfl⟩ := Option.map_eq_some_iff.mp hstep
    obtain ⟨hsource, hdrains, hreceipts⟩ :=
      OutboxState.deliver_frame D cfg s.outbox headVerifierUp issuedAt request.1 request.2
    refine h.of_same hdelivered hsettled ?_ ?_ (List.Subset.refl _) hreceipts ?_ ?_
    · exact hsource ▸ List.Subset.refl _
    · exact hsource ▸ h.attempts
    · exact fun _ hmem => .inl (hdrains ▸ hmem)
    · exact hsource ▸ .of_rows rfl rfl
  | _ =>
    obtain rfl := Option.some.inj hstep
    exact h.of_same hdelivered hsettled (List.Subset.refl _) h.attempts (List.Subset.refl _)
      (List.Subset.refl _) (fun _ hmem => .inl hmem) (.of_rows rfl rfl)

theorem step {l : HttpLabel} (h : Quarantined H D cfg http sourceEpoch s)
    (hunforged : Unforged H D http s l) (hstep : (httpMachine H D cfg http).step s l = some t) :
    Quarantined H D cfg http sourceEpoch t := by
  cases l with
  | outbox label =>
    simp only [httpMachine, HttpState.step] at hstep
    split at hstep
    · cases hstep
    · next hlabel =>
      obtain ⟨outbox, houtbox, rfl⟩ := Option.map_eq_some_iff.mp hstep
      exact h.outbox_step (by simpa using hlabel) houtbox
  | reply index attempt =>
    obtain ⟨entry, hawaited, hrest⟩ := Option.bind_eq_some_iff.mp hstep
    obtain ⟨outbox, houtbox, rfl⟩ := Option.map_eq_some_iff.mp hrest
    exact h.reply hunforged hawaited houtbox

theorem of_runs {source : SourceDb} {receiver : ReceiverDb} {ls : List HttpLabel}
    (hstart : Provisioned sourceEpoch source receiver) (hhalted : source.halted = none)
    (h : (httpMachine H D cfg http).Runs (Unforged H D http) (.start source receiver) ls s) :
    Quarantined H D cfg http sourceEpoch s :=
  h.invariant (fun _ _ _ hI hC hstep => hI.step hC hstep) (.start hstart hhalted)

end Quarantined

section Sample

def HttpState.observe (s : HttpState) : List (Bool × Bool) × Bool :=
  (s.outbox.source.rows.map (fun row => (row.quarantined, decide (row.record ∈ s.outbox.log))),
    s.outbox.source.halted.isSome)

end Sample

end TskProtocol
