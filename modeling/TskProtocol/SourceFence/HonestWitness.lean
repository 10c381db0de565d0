import TskProtocol.SourceFence.Checkpoint

namespace TskProtocol

/-- A source and its witness; the receipts under way stand in the order they were issued in. -/
structure WitnessedSource where
  source : FencedSource
  witness : SourceWitnessTable := {}
  inFlight : List SourceCheckpointReceipt := []

structure WitnessedConfig (E : Ed25519) where
  source : FencedConfig E
  systemId : JsString
  resolver : SourceVerifyKeyResolver E
  guard : WitnessGuard E
  guardKeyId : matchesKeyId guard.keyId = true
  knowsGuard : resolver guard.keyId = some (E.publicKey guard.privateKey)

inductive WitnessedLabel (E : Ed25519)
  | source (l : FencedSourceLabel E)
  | issue (opts : CheckpointIssueOptions E)
  /-- The oldest receipt is applied, and stays there to be repeated. -/
  | advance
  | drop

/-- The advance in its transaction, under the keys of the history table. -/
def advanceSourceWitness (E : Ed25519) (D : Sha256Bytes) (resolver : SourceVerifyKeyResolver E)
    (guard : WitnessGuard E) (t : SourceWitnessTable) (receipt : SourceCheckpointReceipt) :
    Except FenceError (WitnessRecord × SourceWitnessTable) := do
  let (record, t') ← advanceSourceWitnessInTx E D resolver guard t receipt
  require (t' = t ∨ ∀ row ∈ t.history, row.seq ≠ record.seq ∧ row.digest ≠ record.digest)
    .constraintViolation
  return (record, t')

namespace WitnessedSource

variable {E : Ed25519}

def issue (D : Sha256Bytes) (cfg : WitnessedConfig E) (w : WitnessedSource)
    (opts : CheckpointIssueOptions E) : Except FenceError SourceCheckpointReceipt :=
  issueSourceCheckpointReceipt E D cfg.systemId w.source cfg.source.outbox.streamId opts

def apply (D : Sha256Bytes) (cfg : WitnessedConfig E) (w : WitnessedSource)
    (r : SourceCheckpointReceipt) : Except FenceError (WitnessRecord × SourceWitnessTable) :=
  advanceSourceWitness E D cfg.resolver cfg.guard w.witness r

def step (D : Sha256Bytes) (cfg : WitnessedConfig E) (w : WitnessedSource) :
    WitnessedLabel E → Option WitnessedSource
  | .source l => (w.source.step D cfg.source l).map (fun source => { w with source })
  | .issue opts => some <|
    match w.issue D cfg opts with
    | .ok r => { w with inFlight := w.inFlight ++ [r] }
    | .error _ => w
  | .advance => w.inFlight.head?.map (fun r =>
    match w.apply D cfg r with
    | .ok (_, t) => { w with witness := t }
    | .error _ => w)
  | .drop => some { w with inFlight := w.inFlight.tail }

/-- The height that the witness has come to. -/
def height (w : WitnessedSource) : Nat := (w.witness.head.map (·.body.maxSourceSeq)).getD 0

/-- The receipt attests what the witness has recorded last. -/
def Repeats (w : WitnessedSource) (r : SourceCheckpointReceipt) : Prop :=
  ∃ c ∈ w.witness.head, c.body = r.columns

/-- The digest of the row that a receipt adds stands in no other row. -/
def FreshDigest (D : Sha256Bytes) (w : WitnessedSource) (r : SourceCheckpointReceipt) : Prop :=
  ∀ row ∈ w.witness.history, row.digest ≠ D.hex (witnessMsg r.streamId r.columns
    ((w.witness.head.map (·.seq)).getD 0 + 1) (w.witness.head.map (·.digest)) [])

end WitnessedSource

/-- A source with its witness, one transaction or one delivery at a time. -/
def witnessedSources {E : Ed25519} (D : Sha256Bytes) (cfg : WitnessedConfig E) :
    Machine WitnessedSource (WitnessedLabel E) where
  step := WitnessedSource.step D cfg

/-- Receipts are signed with a key that the witness knows. -/
def KnownSource {E : Ed25519} (cfg : WitnessedConfig E) (_ : WitnessedSource) : WitnessedLabel E → Prop
  | .issue opts => cfg.resolver opts.sourceKeyId = some (E.publicKey opts.sourcePrivateKey)
  | _ => True

variable {E : Ed25519} {D : Sha256Bytes} {cfg : WitnessedConfig E}

section Growth

variable {db db' db'' : SourceDb} {n : Nat} {head head' : JsString}

/-- What a ledger keeps as it goes on. -/
structure SourceDb.Grown (db db' : SourceDb) : Prop where
  entries : ∀ entry ∈ db.entries, entry ∈ db'.entries
  checkpoint : ∀ cp ∈ db.checkpoint, ∃ cp' ∈ db'.checkpoint,
    cp'.sourceEpoch = cp.sourceEpoch ∧ cp.sequence ≤ cp'.sequence
  keyed : db.Keyed → db'.Keyed

namespace SourceDb

theorem Grown.of_eq (hentries : db'.entries = db.entries) (hcheckpoint : db'.checkpoint = db.checkpoint) :
    db.Grown db' where
  entries entry hentry := by rw [hentries]; exact hentry
  checkpoint cp hcp := ⟨cp, by rw [hcheckpoint]; exact hcp, rfl, le_rfl⟩
  keyed hkeyed := by rw [Keyed, hentries]; exact hkeyed

theorem Grown.trans (h : db.Grown db') (h' : db'.Grown db'') : db.Grown db'' where
  entries entry hentry := h'.entries entry (h.entries entry hentry)
  checkpoint cp hcp := by
    obtain ⟨cp', hcp', hepoch, hle⟩ := h.checkpoint cp hcp
    obtain ⟨cp'', hcp'', hepoch', hle'⟩ := h'.checkpoint cp' hcp'
    exact ⟨cp'', hcp'', hepoch'.trans hepoch, hle.trans hle'⟩
  keyed hkeyed := h'.keyed (h.keyed hkeyed)

theorem HeadAt.grown (h : db.HeadAt n head) (hgrown : db.Grown db') : db'.HeadAt n head := by
  obtain ⟨cp, hcp, hle, entry, hentry, hepoch, hseq, hhead⟩ := h
  obtain ⟨cp', hcp', hsame, hle'⟩ := hgrown.checkpoint cp hcp
  exact ⟨cp', hcp', hle.trans hle', entry, hgrown.entries entry hentry, hepoch.trans hsame.symm, hseq, hhead⟩

theorem HeadAt.unique (h : db.HeadAt n head) (h' : db.HeadAt n head') (hkeyed : db.Keyed) : head = head' := by
  obtain ⟨cp, hcp, -, entry, hentry, hepoch, hseq, rfl⟩ := h
  obtain ⟨cp', hcp', -, entry', hentry', hepoch', hseq', rfl⟩ := h'
  obtain rfl := Option.some.inj (hcp.symm.trans hcp')
  rw [hkeyed entry hentry entry' hentry' (hepoch.trans hepoch'.symm) (hseq.trans hseq'.symm)]

end SourceDb

theorem grown_of_appendInTx {opts : PgTskOutboxOptions} {leaseWritable : Bool} {input : AppendInput}
    {row : OutboxRow} (h : appendInTx D opts leaseWritable db input = .ok (row, db')) : db.Grown db' := by
  have hfresh : ∀ entry ∈ db.entries, (entry.1.sourceEpoch, entry.1.sequence) ≠
      (row.entry.1.sourceEpoch, row.entry.1.sequence) := by
    simp only [appendInTx, bind_eq_ok, require_eq_ok, orThrow_eq_ok] at h
    obtain ⟨_, -, fence, -, _, -, _, -, _, -, checkpoint, -, _, -, mutation, -, _, -, built, -,
      _, hinsertable, hreturn⟩ := h
    obtain ⟨rfl, -⟩ := Prod.mk.inj (Except.ok.inj hreturn)
    simp only [OutboxRow.insertable, Bool.and_eq_true, List.all_eq_true, decide_eq_true_eq] at hinsertable
    intro entry hentry
    obtain ⟨other, hother, rfl⟩ := List.mem_map.mp hentry
    exact hinsertable.2 other hother
  obtain ⟨⟨fence, checkpoint, -, hcheckpoint, hbuilt⟩, -, rfl⟩ := appendInTx_ok h
  have hentries : SourceDb.entries { db with
      rows := db.rows ++ [row], checkpoint := some row.entry.checkpoint } =
      db.entries ++ [row.entry] := by simp [SourceDb.entries]
  refine ⟨fun entry hentry => ?_, fun cp hcp => ⟨row.entry.checkpoint, rfl, ?_⟩, fun hkeyed => ?_⟩
  · rw [hentries]
    exact List.mem_append_left _ hentry
  · obtain rfl := Option.some.inj (hcheckpoint.symm.trans hcp)
    exact ⟨hbuilt.sourceEpoch, by simp only [OutboxEntry.checkpoint, hbuilt.sequence]; omega⟩
  · rw [SourceDb.Keyed, hentries]
    intro a ha b hb hepoch hseq
    simp only [List.mem_append, List.mem_singleton] at ha hb
    rcases ha with ha | rfl <;> rcases hb with hb | rfl
    · exact hkeyed a ha b hb hepoch hseq
    · exact absurd (Prod.ext hepoch hseq) (hfresh a ha)
    · exact absurd (Prod.ext hepoch.symm hseq.symm) (hfresh b hb)
    · rfl

theorem FencedConfig.appendAll_grown {source : FencedConfig E} {gate : SourceFenceGate}
    {leases : SourceLeaseTable} {calls : List FencedCall}
    (h : source.appendAll D gate leases db calls = .ok db') : db.Grown db' := by
  induction calls generalizing db with
  | nil =>
    cases h
    exact .of_eq rfl rfl
  | cons call rest ih =>
    simp only [appendAll, bind_eq_ok] at h
    obtain ⟨⟨row, db₁⟩, happend, h⟩ := h
    exact (grown_of_appendInTx happend).trans (ih h)

variable {s t : FencedSource} {source : FencedConfig E} {l : FencedSourceLabel E}

/-- What a step of a source keeps of its ledger and of its grants. -/
theorem FencedSource.step_grown (h : (fencedSourceMachine D source).step s l = some t) :
    s.outbox.Grown t.outbox ∧ s.grantSeq ≤ t.grantSeq := by
  rcases step_cases h with ⟨gate, calls, commitAtMs, -, hleases, hcommit⟩ | ⟨g, -, -, houtbox, hleases⟩ |
    ⟨hleases, hentries, hcheckpoint⟩
  · simp only [FencedConfig.withOutboxTx, bind_eq_ok, pure_eq_ok, Except.ok.injEq] at hcommit
    obtain ⟨db, happends, _, -, _, -, rfl⟩ := hcommit
    exact ⟨FencedConfig.appendAll_grown happends, by rw [grantSeq, grantSeq, hleases]⟩
  · refine ⟨.of_eq (by rw [houtbox]) (by rw [houtbox]), ?_⟩
    rw [grantSeq, grantSeq, hleases]
    rcases installLeaseGrantInTx_cases E D source.leaseResolver s.leases g with ⟨e, he⟩ | ⟨record, u, hok, hinstall⟩
    · rw [he]
    · rw [hok]
      rcases installLeaseGrant_ok hinstall with ⟨rfl, -⟩ | ⟨hinstalls, -, rfl⟩
      · exact le_rfl
      · have hseq := hinstalls.seq
        simp only [SignedTable.append, LeaseGrant.record, Option.map_some, Option.getD_some]
        omega
  · exact ⟨.of_eq hentries hcheckpoint, by rw [grantSeq, grantSeq, hleases]⟩

end Growth

section Attested

variable {systemId : JsString} {s t : FencedSource} {c : WitnessColumns} {r : SourceCheckpointReceipt}

/-- What may be said of a source: a grant and a height that it has come to, with its head there. -/
structure Attested (systemId : JsString) (s : FencedSource) (c : WitnessColumns) : Prop where
  system : c.sourceSystemId = systemId
  grantSeq : c.maxGrantSeq ≤ s.grantSeq
  height : 1 ≤ c.maxSourceSeq
  head : s.outbox.HeadAt c.maxSourceSeq c.sourceHeadDigest

/-- A receipt under way, at a source that has gone on since. -/
structure Offered (D : Sha256Bytes) (cfg : WitnessedConfig E) (s : FencedSource)
    (r : SourceCheckpointReceipt) : Prop where
  stream : matchesStreamId 512 r.streamId = true ∧ r.streamId = cfg.source.outbox.streamId
  attested : Attested cfg.systemId s r.columns
  anchored : AnchoredIn s.outbox r
  storable : r.sourceSeq ≤ MAX_SEQ ∧ r.grantSeq ≤ MAX_SEQ ∧ matchesHex64 r.sourceHeadDigest = true
  verified : verifySourceCheckpointReceipt E D cfg.resolver r = .ok ()

theorem Attested.grown (h : Attested systemId s c) (hgrown : s.outbox.Grown t.outbox)
    (hgrant : s.grantSeq ≤ t.grantSeq) : Attested systemId t c :=
  ⟨h.system, h.grantSeq.trans hgrant, h.height, h.head.grown hgrown⟩

theorem Offered.grown (h : Offered D cfg s r) (hgrown : s.outbox.Grown t.outbox)
    (hgrant : s.grantSeq ≤ t.grantSeq) : Offered D cfg t r where
  stream := h.stream
  attested := h.attested.grown hgrown hgrant
  anchored := ⟨h.anchored.genesis, fun hpos => (h.anchored.row hpos).grown hgrown⟩
  storable := h.storable
  verified := h.verified

/-- Grants and heights go on from one attestation to the other. -/
def Behind (a b : WitnessColumns) : Prop :=
  a.maxGrantSeq ≤ b.maxGrantSeq ∧ a.maxSourceSeq ≤ b.maxSourceSeq

/-- What is issued now is offered, and nothing said before is ahead of it. -/
theorem offered_of_issue {w : WitnessedSource} {opts : CheckpointIssueOptions E}
    (hknown : KnownSource cfg w (.issue opts)) (h : w.issue D cfg opts = .ok r) :
    Offered D cfg w.source r ∧ ∀ c, Attested cfg.systemId w.source c → Behind c r.columns := by
  have hissued := issueSourceCheckpointReceipt_ok h
  obtain ⟨-, hsource, hgrant, hhead, hverified⟩ :=
    signSourceCheckpointReceipt_ok hissued.signed
  obtain ⟨hheight, cp, hcp, hseq⟩ := hissued.height
  refine ⟨⟨?_, ⟨hissued.system, hissued.grantSeq.le, hheight, hissued.head⟩, hissued.anchored,
    ⟨hsource, hgrant, hhead⟩, hverified cfg.resolver hknown⟩, fun c hc => ⟨?_, ?_⟩⟩
  · exact ⟨hissued.stream.2 ▸ hissued.stream.1, hissued.stream.2⟩
  · exact hc.grantSeq.trans hissued.grantSeq.ge
  · obtain ⟨cp', hcp', hle, -⟩ := hc.head
    obtain rfl := Option.some.inj (hcp.symm.trans hcp')
    simp only [SourceCheckpointReceipt.columns]
    omega

end Attested

/-- All that the witness and the receipts under way say of the source, from the oldest on. -/
def WitnessedSource.attestations (w : WitnessedSource) : List WitnessColumns :=
  (w.witness.head.map (·.body)).toList ++ w.inFlight.map (·.columns)

/-- What holds of every source that is never restored, and of its witness. -/
structure Honest (D : Sha256Bytes) (cfg : WitnessedConfig E) (w : WitnessedSource) : Prop where
  keyed : w.source.outbox.Keyed
  table : w.witness.SoundTo (witnessReader E D cfg.resolver cfg.source.outbox.streamId) MAX_SEQ
  witnessed : ∀ c ∈ w.witness.head, Attested cfg.systemId w.source c.body
  offered : ∀ r ∈ w.inFlight, Offered D cfg w.source r
  order : w.attestations.Pairwise Behind

namespace Honest

variable {w w' : WitnessedSource} {r : SourceCheckpointReceipt} {record : WitnessRecord}
  {t : SourceWitnessTable}

theorem attested (h : Honest D cfg w) {c : WitnessColumns} (hc : c ∈ w.attestations) :
    Attested cfg.systemId w.source c := by
  simp only [WitnessedSource.attestations, List.mem_append, Option.mem_toList, Option.map_eq_some_iff,
    List.mem_map] at hc
  rcases hc with ⟨row, hrow, rfl⟩ | ⟨r, hr, rfl⟩
  · exact h.witnessed row hrow
  · exact (h.offered r hr).attested

theorem behind (h : Honest D cfg w) {r : SourceCheckpointReceipt} (hr : r ∈ w.inFlight.head?)
    {row : WitnessRecord} (hrow : row ∈ w.witness.head) : Behind row.body r.columns := by
  obtain ⟨rest, hrest⟩ := List.head?_eq_some_iff.mp hr
  have horder := h.order
  rw [WitnessedSource.attestations, hrow, hrest] at horder
  exact (List.pairwise_cons.mp horder).1 r.columns (by simp)

/-- The row that an offered receipt adds is read back by the witness. -/
theorem valid_next (h : Honest D cfg w) (hoffered : Offered D cfg w.source r)
    (hseq : (nextWitnessRecord E D cfg.resolver cfg.guard w.witness r).seq ≤ MAX_SEQ) :
    (witnessReader E D cfg.resolver r.streamId).Valid
      (nextWitnessRecord E D cfg.resolver cfg.guard w.witness r) := by
  obtain ⟨hsource, hgrant, hhead⟩ := hoffered.storable
  have hprev : (w.witness.head.map (·.digest)).all matchesHex64 = true := by
    cases hlast : w.witness.head with
    | none => rfl
    | some row =>
      have hmem : row ∈ w.witness.history := List.mem_of_getLast? (h.table.headed.symm.trans hlast)
      have hbehind : row.seq + 1 ≤ MAX_SEQ := by
        simpa only [nextWitnessRecord, SignedTable.next, hlast, Option.map_some, Option.getD_some] using hseq
      have hreadable := (h.table.valid row hmem (by omega)).readable
      simp only [witnessReader, Bool.and_eq_true] at hreadable
      exact hreadable.2
  refine ⟨?_, rfl, ?_⟩
  · simp only [nextWitnessRecord, SignedTable.next, SourceCheckpointReceipt.columns] at hseq ⊢
    simp only [witnessReader, hsource, hgrant, hhead, hprev, hseq, matchesHex64_hex, decide_true, Bool.and_true,
      Bool.true_and, decide_eq_true_eq]
    omega
  · refine decide_eq_true (verifySig_of_sign (?_ : edSignB64u E _ cfg.guard.privateKey _ = .ok _) cfg.knowsGuard)
    simp only [edSignB64u, bind_eq_ok, require_eq_ok]
    exact ⟨(), cfg.guardKeyId, rfl⟩

/-- An offered receipt goes on from the witness exactly when it is anchored at its height. -/
theorem checkContinuity_iff (h : Honest D cfg w) (hoffered : Offered D cfg w.source r)
    (hbehind : ∀ row ∈ w.witness.head, Behind row.body r.columns) :
    checkContinuity w.witness.head r = .ok () ↔ r.priorSeq = w.height := by
  cases hhead : w.witness.head with
  | none =>
    simp only [checkContinuity, WitnessedSource.height, hhead, bind_eq_ok, require_eq_ok, Option.map_none,
      Option.getD_none]
    constructor
    · rintro ⟨-, hprior, -⟩
      exact hprior
    · intro hprior
      exact ⟨(), hprior, hoffered.anchored.genesis hprior⟩
  | some row =>
    have hrow := h.witnessed row hhead
    simp only [checkContinuity, WitnessedSource.height, hhead, bind_eq_ok, require_eq_ok, Option.map_some,
      Option.getD_some]
    constructor
    · rintro ⟨-, -, -, -, -, -, -, hprior, -⟩
      exact hprior
    intro hprior
    have hpos : 1 ≤ r.priorSeq := by
      rw [hprior]
      exact hrow.height
    have hat := hoffered.anchored.row hpos
    rw [hprior] at hat
    obtain ⟨hgrant, hsource⟩ := hbehind row hhead
    exact ⟨(), hoffered.attested.system.trans hrow.system.symm, (), hgrant, (), hsource, (), hprior,
      hat.unique hrow.head h.keyed⟩

/-- What the witness does with an offered receipt that nothing recorded is ahead of. -/
theorem apply_iff (h : Honest D cfg w) (hoffered : Offered D cfg w.source r)
    (hbehind : ∀ row ∈ w.witness.head, Behind row.body r.columns) :
    (∃ record t, w.apply D cfg r = .ok (record, t)) ↔ w.witness.history.length ≤ MAX_SEQ ∧
      (w.Repeats r ∨ r.priorSeq = w.height ∧ w.FreshDigest D r) := by
  have hnumber := h.table.headed.seq h.table.chained
  simp only [WitnessedSource.apply, advanceSourceWitness, bind_eq_ok, require_eq_ok, pure_eq_ok,
    Except.ok.injEq]
  constructor
  · rintro ⟨record, t, ⟨record', t'⟩, hadvance, _, hkeys, heq⟩
    obtain ⟨rfl, rfl⟩ := Prod.mk.inj heq
    obtain ⟨-, -, hread, hcases⟩ := advanceSourceWitnessInTx_eq_ok.mp hadvance
    refine ⟨hnumber ▸ seq_le_of_readSourceWitness hread, ?_⟩
    rcases hcases with ⟨hhead, hbody, -⟩ | ⟨-, hcontinuity, -, rfl, rfl⟩
    · exact .inl ⟨record', hhead, hbody⟩
    · refine .inr ⟨(h.checkContinuity_iff hoffered hbehind).mp hcontinuity, ?_⟩
      rcases hkeys with hsame | hfresh
      · have hlength := congrArg (fun t => t.history.length) hsame
        simp [SignedTable.append] at hlength
      · exact fun row hrow => (hfresh row hrow).2
  · rintro ⟨hlength, hcases⟩
    have hsound := h.table.sound hlength
    rw [← hoffered.stream.2] at hsound
    have hread := readSourceWitness_of_sound hoffered.stream.1 hsound
    by_cases hrepeats : w.Repeats r
    · obtain ⟨row, hhead, hbody⟩ := hrepeats
      exact ⟨row, w.witness, (row, w.witness), advanceSourceWitnessInTx_eq_ok.mpr
        ⟨cfg.guardKeyId, hoffered.verified, hread, .inl ⟨hhead, hbody, rfl⟩⟩, (), .inl rfl, rfl⟩
    · obtain ⟨hprior, hfresh⟩ := hcases.resolve_left hrepeats
      refine ⟨_, _, _, advanceSourceWitnessInTx_eq_ok.mpr ⟨cfg.guardKeyId, hoffered.verified, hread,
        .inr ⟨fun row hrow hbody => hrepeats ⟨row, hrow, hbody⟩,
          (h.checkContinuity_iff hoffered hbehind).mpr hprior, hoffered.storable.2.2, rfl, rfl⟩⟩, (),
        .inr fun row hrow => ⟨?_, hfresh row hrow⟩, rfl⟩
      have hle := h.table.seq_le hrow
      simp only [nextWitnessRecord, SignedTable.next, hnumber]
      omega

/-- What is taken is what the witness then has at its head. -/
theorem head_of_apply (hok : w.apply D cfg r = .ok (record, t)) : t.head = some record ∧ record.body = r.columns := by
  simp only [WitnessedSource.apply, advanceSourceWitness, bind_eq_ok, pure_eq_ok, Except.ok.injEq] at hok
  obtain ⟨⟨record', t'⟩, hadvance, _, -, heq⟩ := hok
  obtain ⟨rfl, rfl⟩ := Prod.mk.inj heq
  obtain ⟨hbody, ⟨rfl, hhead⟩ | ⟨-, -, rfl⟩⟩ := advanceSourceWitnessInTx_ok hadvance
  · exact ⟨hhead, hbody⟩
  · exact ⟨rfl, hbody⟩

/-- The step lemma of an advance. -/
theorem advance (h : Honest D cfg w) (hr : r ∈ w.inFlight.head?) (hok : w.apply D cfg r = .ok (record, t)) :
    Honest D cfg { w with witness := t } := by
  obtain ⟨hhead, hbody⟩ := head_of_apply hok
  obtain ⟨rest, hrest⟩ := List.head?_eq_some_iff.mp hr
  have hoffered := h.offered r (by simp [hrest])
  refine ⟨h.keyed, ?_, fun row hrow => ?_, h.offered, ?_⟩
  · simp only [WitnessedSource.apply, advanceSourceWitness, bind_eq_ok, pure_eq_ok, Except.ok.injEq] at hok
    obtain ⟨⟨record', t'⟩, hadvance, _, -, heq⟩ := hok
    obtain ⟨rfl, rfl⟩ := Prod.mk.inj heq
    obtain ⟨-, -, -, ⟨-, -, rfl⟩ | ⟨-, -, -, rfl, rfl⟩⟩ := advanceSourceWitnessInTx_eq_ok.mp hadvance
    · exact h.table
    · refine h.table.append rfl rfl fun hseq => ?_
      rw [← hoffered.stream.2]
      exact h.valid_next hoffered hseq
  · obtain rfl := Option.some.inj (hhead.symm.trans hrow)
    rw [hbody]
    exact hoffered.attested
  · have horder := h.order
    rw [WitnessedSource.attestations, List.pairwise_append] at horder
    simp only [WitnessedSource.attestations, hhead, Option.map_some, Option.toList_some, List.singleton_append,
      hbody]
    refine List.pairwise_cons.mpr ⟨fun c hc => ?_, horder.2.1⟩
    have hinFlight := horder.2.1
    rw [hrest, List.map_cons] at hc hinFlight
    rcases List.mem_cons.mp hc with rfl | hc
    · exact ⟨le_rfl, le_rfl⟩
    · exact (List.pairwise_cons.mp hinFlight).1 c hc

theorem step {l : WitnessedLabel E} (h : Honest D cfg w) (hknown : KnownSource cfg w l)
    (hstep : (witnessedSources D cfg).step w l = some w') : Honest D cfg w' := by
  cases l with
  | source l =>
    obtain ⟨source, hsource, rfl⟩ := Option.map_eq_some_iff.mp hstep
    obtain ⟨hgrown, hgrant⟩ := FencedSource.step_grown hsource
    exact ⟨hgrown.keyed h.keyed, h.table, fun row hrow => (h.witnessed row hrow).grown hgrown hgrant,
      fun r hr => (h.offered r hr).grown hgrown hgrant, h.order⟩
  | issue opts =>
    obtain rfl := Option.some.inj hstep
    cases hissue : w.issue D cfg opts with
    | error e => exact h
    | ok r =>
      obtain ⟨hoffered, hbehind⟩ := offered_of_issue hknown hissue
      refine ⟨h.keyed, h.table, h.witnessed, fun r' hr' => ?_, ?_⟩
      · rcases List.mem_append.mp hr' with hold | hnew
        · exact h.offered r' hold
        · exact List.mem_singleton.mp hnew ▸ hoffered
      · simp only [WitnessedSource.attestations, List.map_append, List.map_singleton, ← List.append_assoc]
        refine List.pairwise_append.mpr ⟨h.order, List.pairwise_singleton _ _, fun c hc c' hc' => ?_⟩
        rw [List.mem_singleton.mp hc']
        exact hbehind c (h.attested hc)
  | advance =>
    obtain ⟨r, hr, rfl⟩ := Option.map_eq_some_iff.mp hstep
    cases happly : w.apply D cfg r with
    | error e => exact h
    | ok result => exact h.advance hr happly
  | drop =>
    obtain rfl := Option.some.inj hstep
    refine ⟨h.keyed, h.table, h.witnessed, fun r hr => h.offered r (List.mem_of_mem_tail hr), ?_⟩
    exact h.order.sublist (List.Sublist.append_left ((List.tail_sublist _).map _) _)

theorem start {s : FencedSource} (hkeyed : s.outbox.Keyed) : Honest D cfg { source := s } where
  keyed := hkeyed
  table := .empty
  witnessed _ h := by cases h
  offered _ h := by cases h
  order := .nil

end Honest

/-- From any start of the source and an empty witness, however appends, grants, revocations, receipts,
advances and repeats interleave: the oldest receipt under way is taken exactly when it is anchored at the
height of the witness or repeats it, as long as the rows of the witness can be numbered; and what is taken
is what the witness then records.  A receipt that is issued at the height and applied next is such a one. -/
theorem honest_source_witnessed {s : FencedSource} (hkeyed : s.outbox.Keyed)
    {ls : List (WitnessedLabel E)} {w : WitnessedSource}
    (h : (witnessedSources D cfg).Runs (KnownSource cfg) { source := s } ls w) :
    (∀ r ∈ w.inFlight.head?,
      (∃ record t, w.apply D cfg r = .ok (record, t)) ↔ w.witness.history.length ≤ MAX_SEQ ∧
        (w.Repeats r ∨ r.priorSeq = w.height ∧ w.FreshDigest D r)) ∧
    (∀ opts r, KnownSource cfg w (.issue opts) → w.issue D cfg opts = .ok r → opts.priorWitnessSeq = w.height →
      ((∃ record t, w.apply D cfg r = .ok (record, t)) ↔ w.witness.history.length ≤ MAX_SEQ ∧
        (w.Repeats r ∨ w.FreshDigest D r))) ∧
    ∀ r record t, w.apply D cfg r = .ok (record, t) → t.head = some record ∧ record.body = r.columns := by
  have hw : Honest D cfg w := h.invariant (fun _ _ _ hI hC hstep => hI.step hC hstep) (.start hkeyed)
  refine ⟨fun r hr => ?_, fun opts r hknown hissue hheight => ?_, fun r record t => Honest.head_of_apply⟩
  · obtain ⟨rest, hrest⟩ := List.head?_eq_some_iff.mp hr
    exact hw.apply_iff (hw.offered r (by simp [hrest])) fun row hrow => hw.behind hr hrow
  · obtain ⟨hoffered, hbehind⟩ := offered_of_issue hknown hissue
    rw [hw.apply_iff hoffered fun row hrow => hbehind row.body (hw.witnessed row hrow)]
    simp only [(issueSourceCheckpointReceipt_ok hissue).prior, hheight, true_and]

section Sample

theorem sample_guardKeyId : matchesKeyId (JsString.lit "k") = true := by decide

theorem sample_knowsGuard : some [3] = some (sampleEd25519.publicKey ([3] : List UInt8)) := rfl

def sampleWitnessed : WitnessedConfig sampleEd25519 where
  source := sampleFenced
  systemId := JsString.lit "1"
  resolver _ := some [3]
  guard := { keyId := JsString.lit "k", privateKey := ([3] : List UInt8) }
  guardKeyId := sample_guardKeyId
  knowsGuard := sample_knowsGuard

def sampleIssue (priorWitnessSeq : Nat) : WitnessedLabel sampleEd25519 :=
  .issue {
    sourceKeyId := JsString.lit "f"
    sourcePrivateKey := ([3] : List UInt8)
    leaseResolver _ := some [3]
    headResolver _ := some [5]
    priorWitnessSeq }

def sampleWitnessedAppend : WitnessedLabel sampleEd25519 :=
  .source (.append sampleGate [⟨⟨JsString.lit "s", ⟨JsString.lit "t", 5⟩, 0⟩, 20⟩] 30)

def sampleWitnessedInstall (i : Nat) : List (WitnessedLabel sampleEd25519) :=
  (sampleGrants[i]?.map (fun g => .source (.install g))).toList

/-- One receipt is issued behind each append, both of them before the witness has seen any. -/
def pipelinedRun : List (WitnessedLabel sampleEd25519) :=
  sampleWitnessedInstall 0 ++
    [sampleWitnessedAppend, sampleIssue 0, sampleWitnessedAppend, sampleIssue 0, .advance, .drop]

/-- A receipt for a record, and one for the revocation that follows it. -/
def revokedRun : List (WitnessedLabel sampleEd25519) :=
  sampleWitnessedInstall 0 ++ [sampleWitnessedAppend, sampleIssue 0, .advance, .advance, .drop] ++
    sampleWitnessedInstall 2 ++
    [sampleIssue 1]

/-- Receipts are issued at the height that the witness has then. -/
def IssuedAtHeight {E : Ed25519} (w : WitnessedSource) : WitnessedLabel E → Prop
  | .issue opts => opts.priorWitnessSeq = w.height
  | _ => True

instance (w : WitnessedSource) (l : WitnessedLabel sampleEd25519) :
    Decidable (KnownSource sampleWitnessed w l ∧ IssuedAtHeight w l) :=
  match l with
  | .issue opts => inferInstanceAs (Decidable (@Eq (Option (List UInt8)) (some [3]) (some opts.sourcePrivateKey) ∧
      opts.priorWitnessSeq = w.height))
  | .source _ => inferInstanceAs (Decidable (True ∧ True))
  | .advance => inferInstanceAs (Decidable (True ∧ True))
  | .drop => inferInstanceAs (Decidable (True ∧ True))

instance (w : WitnessedSource) (r : SourceCheckpointReceipt) : Decidable (w.FreshDigest rollingSha256 r) := by
  unfold WitnessedSource.FreshDigest
  infer_instance

/-- The rows and the height of the witness, with the anchor and the grant of the oldest receipt. -/
def WitnessedSource.observe (w : WitnessedSource) : Nat × Nat × Option (Nat × Nat × Bool) :=
  (w.witness.history.length, w.height,
    w.inFlight.head?.map (fun r => (r.priorSeq, r.grantSeq, decide (w.FreshDigest rollingSha256 r))))

end Sample

/-- Both receipts are issued at the witnessed height, and the second one is refused in its turn. -/
theorem pipelined_receipt_refused : ∃ w : WitnessedSource,
    (witnessedSources rollingSha256 sampleWitnessed).Runs
      (fun w l => KnownSource sampleWitnessed w l ∧ IssuedAtHeight w l)
      { source := { outbox := sampleFencedDb } } pipelinedRun w ∧
    ∃ r ∈ w.inFlight.head?, w.apply rollingSha256 sampleWitnessed r = .error .witnessPriorSeq := by
  obtain ⟨w, hrun, hrefused⟩ := Machine.Runs.of_observed
    (M := witnessedSources rollingSha256 sampleWitnessed)
    (C := fun w l => KnownSource sampleWitnessed w l ∧ IssuedAtHeight w l)
    { source := { outbox := sampleFencedDb } } pipelinedRun
    (fun w => w.inFlight.head?.map (fun r => match w.apply rollingSha256 sampleWitnessed r with
      | .ok _ => none
      | .error e => some e))
    (b := some (some .witnessPriorSeq)) (by decide +kernel)
  obtain ⟨r, hr, happly⟩ := Option.map_eq_some_iff.mp hrefused
  refine ⟨w, hrun, r, hr, ?_⟩
  split at happly
  · cases happly
  · next e he => rw [he, Option.some.inj happly]

/-- A renewed grant without a new record is witnessed too. -/
theorem honest_source_witnessed_sample : ∃ (w : WitnessedSource) (r : SourceCheckpointReceipt),
    r ∈ w.inFlight.head? ∧ r.grantSeq = 2 ∧
    ∃ record t, w.apply rollingSha256 sampleWitnessed r = .ok (record, t) ∧ record.body = r.columns := by
  obtain ⟨w, hrun, hobserved⟩ := Machine.Runs.of_observed
    (M := witnessedSources rollingSha256 sampleWitnessed)
    (C := fun w l => KnownSource sampleWitnessed w l ∧ IssuedAtHeight w l)
    { source := { outbox := sampleFencedDb } } revokedRun WitnessedSource.observe
    (b := (1, 1, some (1, 2, true))) (by decide +kernel)
  simp only [WitnessedSource.observe, Prod.mk.injEq, Option.map_eq_some_iff, decide_eq_true_eq] at hobserved
  obtain ⟨hlength, hheight, r, hr, hprior, hgrant, hfresh⟩ := hobserved
  have hkeyed : (FencedSource.outbox { outbox := sampleFencedDb }).Keyed := by
    rintro a ⟨⟩
  obtain ⟨hfront, -, hrecords⟩ := honest_source_witnessed hkeyed (hrun.mono fun _ _ h => h.1)
  obtain ⟨record, t, happly⟩ := (hfront r hr).mpr
    ⟨by rw [hlength]; decide, .inr ⟨hprior.trans hheight.symm, hfresh⟩⟩
  exact ⟨w, r, hr, hgrant, record, t, happly, (hrecords r record t happly).2⟩

end TskProtocol
