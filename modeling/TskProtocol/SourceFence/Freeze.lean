import TskProtocol.SourceFence.LeaseHistory
import TskProtocol.SourceFence.Ledger

namespace TskProtocol

/-- The authorized identity that a fenced outbox has been constructed with. -/
structure SourceFenceGate where
  controlToASkewBoundMs : Nat
  bound : LeaseBinding
  deriving DecidableEq, Repr

/-- A call of `appendInTx`, with the database's clock when its gate is read. -/
structure FencedCall where
  input : AppendInput
  nowMs : Nat
  deriving DecidableEq, Repr

/-- A source database of one stream: its lease tables and its outbox. -/
structure FencedSource where
  leases : SourceLeaseTable := {}
  outbox : SourceDb

/-- The parties of a stream: the keys of the guard, and the outbox with its sanitizer and signer. -/
structure FencedConfig (E : Ed25519) where
  leaseResolver : SourceVerifyKeyResolver E
  outbox : PgTskOutboxOptions

namespace FencedConfig

variable {E : Ed25519}

/-- The gate of an append, asked at the fence that the append itself has read. -/
def leaseWritable (D : Sha256Bytes) (cfg : FencedConfig E) (gate : SourceFenceGate)
    (leases : SourceLeaseTable) (db : SourceDb) (nowMs : Nat) : Bool :=
  db.fence.any (fun fence => (assertSourceLeaseWritable E D cfg.leaseResolver cfg.outbox.streamId
    leases fence gate.controlToASkewBoundMs nowMs gate.bound).toBool)

/-- The appends of one transaction. -/
def appendAll (D : Sha256Bytes) (cfg : FencedConfig E) (gate : SourceFenceGate)
    (leases : SourceLeaseTable) : SourceDb → List FencedCall → Except ContractError SourceDb
  | db, [] => .ok db
  | db, call :: rest => do
    let (_, db') ← appendInTx D cfg.outbox (cfg.leaseWritable D gate leases db call.nowMs) db call.input
    cfg.appendAll D gate leases db' rest

/-- The callback's appends, then the check of the lease as the last statement before `COMMIT`. -/
def withOutboxTx (D : Sha256Bytes) (cfg : FencedConfig E) (gate : SourceFenceGate)
    (calls : List FencedCall) (commitAtMs : Nat) (s : FencedSource) :
    Except ContractError SourceDb := do
  let db ← cfg.appendAll D gate s.leases s.outbox calls
  let _ ← orThrow db.fence .noFenceRow
  require (cfg.leaseWritable D gate s.leases db commitAtMs) .leaseNotWritable
  return db

end FencedConfig

/-- Who signs a frozen receipt, and who checks the ledger for it. -/
structure FrozenReceiptOptions (E : Ed25519) where
  sourceKeyId : JsString
  sourcePrivateKey : E.PrivateKey
  headResolver : SourceVerifyKeyResolver E

/-- What happens at a source database, one transaction at a time. -/
inductive FencedSourceLabel (E : Ed25519)
  | append (gate : SourceFenceGate) (calls : List FencedCall) (commitAtMs : Nat)
  | install (g : LeaseGrant)
  | emit (opts : FrozenReceiptOptions E) (input : FreezeInput)
  /-- The fence is moved, by whoever may. -/
  | fence (token : Nat)
  /-- The publisher marks rows. -/
  | mark (acked quarantined : OutboxRow → Bool)

namespace FencedSource

variable {E : Ed25519}

def emit (D : Sha256Bytes) (cfg : FencedConfig E) (s : FencedSource)
    (opts : FrozenReceiptOptions E) (input : FreezeInput) : Except FenceError SourceFrozenReceipt :=
  emitSourceFrozenReceipt E D cfg.leaseResolver opts.sourceKeyId opts.sourcePrivateKey s.leases
    (freezeLedger E D opts.headResolver s.outbox input.streamId) input

/-- A transaction that throws changes nothing.  Grants and receipts of other streams belong to
other rows. -/
def step (D : Sha256Bytes) (cfg : FencedConfig E) (s : FencedSource) :
    FencedSourceLabel E → Option FencedSource
  | .append gate calls commitAtMs => some <|
    match cfg.withOutboxTx D gate calls commitAtMs s with
    | .ok db => { s with outbox := db }
    | .error _ => s
  | .install g =>
    if g.streamId = cfg.outbox.streamId then
      some { s with leases := (installLeaseGrantInTx E D cfg.leaseResolver s.leases g).2 }
    else none
  | .emit _ input => if input.streamId = cfg.outbox.streamId then some s else none
  | .fence token => some { s with outbox := { s.outbox with fence := some token } }
  | .mark acked quarantined => some { s with outbox := { s.outbox with
      rows := s.outbox.rows.map (fun row =>
        { row with acked := acked row, quarantined := quarantined row }) } }

end FencedSource

def fencedSourceMachine {E : Ed25519} (D : Sha256Bytes) (cfg : FencedConfig E) :
    Machine FencedSource (FencedSourceLabel E) where
  step := FencedSource.step D cfg

variable {E : Ed25519} {D : Sha256Bytes} {cfg : FencedConfig E}

/-- The lease that a fence token stands for is installed and active. -/
structure WritableAt (leases : SourceLeaseTable) (fence : Option Nat) (lease : LeaseRecord) :
    Prop where
  head : leases.head = some lease
  active : lease.body.leaseStatus = .active
  fence : fence = some lease.body.leaseEpoch

theorem writableAt_of_leaseWritable {gate : SourceFenceGate} {leases : SourceLeaseTable}
    {db : SourceDb} {nowMs : Nat} (h : cfg.leaseWritable D gate leases db nowMs = true) :
    ∃ lease, WritableAt leases db.fence lease := by
  obtain ⟨fence, hfence, hok⟩ := Option.any_eq_true _ _ |>.mp h
  obtain ⟨lease, hlease⟩ := exists_ok_of_toBool hok
  simp only [assertSourceLeaseWritable, bind_eq_ok, require_eq_ok, vId_eq_ok, vInt_eq_ok,
    orThrow_eq_ok] at hlease
  obtain ⟨_, -, _, ⟨-, rfl⟩, _, -, _, -, _, -, _, -, st, hhead, _, -, _, hactive, _, hepoch, -⟩ := hlease
  exact ⟨st, hhead, hactive, hfence.trans (congrArg some hepoch.symm)⟩

/-- The appends of a transaction keep the fence, and extend the ledger under it. -/
theorem FencedConfig.appendAll_ok {gate : SourceFenceGate} {leases : SourceLeaseTable}
    {calls : List FencedCall} {db db' : SourceDb}
    (h : cfg.appendAll D gate leases db calls = .ok db') :
    db'.fence = db.fence ∧ ∀ entry ∈ db'.entries, entry ∈ db.entries ∨
      ∃ fence, db.fence = some fence ∧ entry.1.fenceToken = fenceTokenToDecimal fence := by
  induction calls generalizing db with
  | nil =>
    cases h
    exact ⟨rfl, fun _ hentry => .inl hentry⟩
  | cons call rest ih =>
    simp only [appendAll, bind_eq_ok] at h
    obtain ⟨⟨row, db1⟩, happend, h⟩ := h
    obtain ⟨⟨fence, checkpoint, hfence, -, hbuilt⟩, -, rfl⟩ := appendInTx_ok happend
    obtain ⟨hkept, hentries⟩ := ih h
    refine ⟨hkept, fun entry hentry => ?_⟩
    rcases hentries entry hentry with hold | ⟨fence', hfence', htoken⟩
    · simp only [SourceDb.entries, List.map_append, List.mem_append, List.map_singleton,
        List.mem_singleton] at hold
      rcases hold with hold | rfl
      · exact .inl hold
      · exact .inr ⟨fence, hfence, hbuilt.fenceToken⟩
    · exact .inr ⟨fence', hfence', htoken⟩

/-- What a committed transaction has had in front of it, and what it has written. -/
theorem FencedConfig.withOutboxTx_ok {gate : SourceFenceGate} {calls : List FencedCall}
    {commitAtMs : Nat} {s : FencedSource} {db : SourceDb}
    (h : cfg.withOutboxTx D gate calls commitAtMs s = .ok db) :
    ∃ lease, WritableAt s.leases s.outbox.fence lease ∧
      ∀ entry ∈ db.entries, entry ∈ s.outbox.entries ∨
        entry.1.fenceToken = fenceTokenToDecimal lease.body.leaseEpoch := by
  simp only [withOutboxTx, bind_eq_ok, orThrow_eq_ok, require_eq_ok] at h
  obtain ⟨db', happends, _, -, _, hwritable, h⟩ := h
  cases h
  obtain ⟨hfence, hentries⟩ := appendAll_ok happends
  obtain ⟨lease, hlease⟩ := writableAt_of_leaseWritable hwritable
  rw [hfence] at hlease
  refine ⟨lease, hlease, fun entry hentry => ?_⟩
  rcases hentries entry hentry with hold | ⟨fence, hat, htoken⟩
  · exact .inl hold
  · rw [hlease.fence] at hat
    rw [htoken, ← Option.some.inj hat]
    exact .inr rfl

/-- The head that verifying the ledger finds is the one in the checkpoint. -/
theorem frozenHead_eq {resolver : SourceVerifyKeyResolver E} {entries : List OutboxEntry}
    {streamId head : JsString} {cp : OutboxCheckpoint} {n : Nat}
    (h : frozenHead E D resolver entries streamId cp n = .ok head) :
    head = if 1 ≤ n then cp.headDigest else GENESIS_HEAD_ZERO := by
  simp only [frozenHead] at h
  split at h
  · next hn =>
    simp only [bind_eq_ok, require_eq_ok, pure_eq_ok, Except.ok.injEq] at h
    obtain ⟨_, -, _, hcp, rfl⟩ := h
    rw [if_pos hn, hcp]
  · next hn =>
    simp only [pure_eq_ok, Except.ok.injEq] at h
    rw [if_neg hn, h]

/-- What two freezes derive from one ledger is the same, whoever verifies it. -/
theorem freezeLedger_agree {resolver resolver' : SourceVerifyKeyResolver E} {db db' : SourceDb}
    {streamId : JsString} {f f' : FrozenLedger} (hentries : db'.entries = db.entries)
    (hcheckpoint : db'.checkpoint = db.checkpoint)
    (h : freezeLedger E D resolver db streamId = .ok f)
    (h' : freezeLedger E D resolver' db' streamId = .ok f') : f' = f := by
  simp only [freezeLedger, bind_eq_ok, orThrow_eq_ok, require_eq_ok, pure_eq_ok,
    Except.ok.injEq] at h h'
  obtain ⟨cp, hcp, _, -, head, hhead, digest, hdigest, rfl⟩ := h
  obtain ⟨cp', hcp', _, -, head', hhead', digest', hdigest', rfl⟩ := h'
  obtain rfl : cp = cp' := Option.some.inj (hcp.symm.trans (hcheckpoint.symm.trans hcp'))
  rw [hentries, hdigest] at hdigest'
  rw [frozenHead_eq hhead, frozenHead_eq hhead', Except.ok.inj hdigest']

/-- What a frozen receipt attests. -/
theorem FencedSource.emit_ok {s : FencedSource} {opts : FrozenReceiptOptions E} {input : FreezeInput}
    {r : SourceFrozenReceipt} (h : s.emit D cfg opts input = .ok r) :
    ∃ lease frozen, s.leases.head = some lease ∧ lease.body.leaseEpoch = r.epoch ∧
      lease.body.leaseStatus = .revoked ∧
      freezeLedger E D opts.headResolver s.outbox r.streamId = .ok frozen ∧
      r.n = frozen.n ∧ r.signedHeadDigestAtN = frozen.headDigest ∧
      r.sourceStateDigestAtN = frozen.stateDigest := by
  simp only [emit, emitSourceFrozenReceipt, bind_eq_ok, vId_eq_ok, vInt_eq_ok, orThrow_eq_ok,
    require_eq_ok, pure_eq_ok] at h
  obtain ⟨s', ⟨-, rfl⟩, _, -, epoch, ⟨-, rfl⟩, _, -, cur, hcur, lease, hlease, _, hepoch, _, hrevoked,
    _, -, frozen, hfrozen, _, -, h⟩ := h
  cases h
  rw [← head_of_readSourceLease hcur] at hlease
  exact ⟨lease, frozen, hlease, hepoch, hrevoked, hfrozen, rfl, rfl, rfl⟩

/-- An entry that a transaction has committed, with the lease it was written under. -/
structure CommittedUnder (D : Sha256Bytes) (cfg : FencedConfig E) (t : FencedSource)
    (entry : OutboxEntry) : Prop where
  committed : ∃ gate calls commitAtMs db, cfg.withOutboxTx D gate calls commitAtMs t = .ok db ∧
    entry ∈ db.entries
  lease : ∃ lease, WritableAt t.leases t.outbox.fence lease ∧
    entry.1.fenceToken = fenceTokenToDecimal lease.body.leaseEpoch

abbrev FencedSource.Lawful (D : Sha256Bytes) (cfg : FencedConfig E) (s : FencedSource) : Prop :=
  LawfulLeases E D cfg.leaseResolver cfg.outbox.streamId s.leases

/-- What has been at stake since a freeze of epoch `e`: its revocation stays, and the ledger is
still the frozen one unless a later lease has taken over. -/
structure FrozenSince (s : FencedSource) (e : Nat) (t : FencedSource) : Prop where
  revoked : ∃ row ∈ t.leases.bodies, row.leaseEpoch = e ∧ row.leaseStatus = .revoked
  ledger : (t.outbox.entries = s.outbox.entries ∧ t.outbox.checkpoint = s.outbox.checkpoint) ∨
    ∃ lease, t.leases.head = some lease ∧ e < lease.body.leaseEpoch

namespace FencedSource

variable {s t : FencedSource} {l : FencedSourceLabel E} {ls : List (FencedSourceLabel E)} {e : Nat}

/-- What a step can do to the rows of the outbox and to the leases. -/
theorem step_cases (h : (fencedSourceMachine D cfg).step s l = some t) :
    (∃ gate calls commitAtMs, l = .append gate calls commitAtMs ∧ t.leases = s.leases ∧
      cfg.withOutboxTx D gate calls commitAtMs s = .ok t.outbox) ∨
    (∃ g, l = .install g ∧ g.streamId = cfg.outbox.streamId ∧ t.outbox = s.outbox ∧
      t.leases = (installLeaseGrantInTx E D cfg.leaseResolver s.leases g).2) ∨
    (t.leases = s.leases ∧ t.outbox.entries = s.outbox.entries ∧
      t.outbox.checkpoint = s.outbox.checkpoint) := by
  cases l with
  | append gate calls commitAtMs =>
    obtain rfl := Option.some.inj h
    cases hcommit : cfg.withOutboxTx D gate calls commitAtMs s with
    | error e => exact .inr (.inr ⟨rfl, rfl, rfl⟩)
    | ok db => exact .inl ⟨gate, calls, commitAtMs, rfl, rfl, hcommit⟩
  | install g =>
    simp only [fencedSourceMachine, step, Option.ite_none_right_eq_some, Option.some.injEq] at h
    obtain ⟨hstream, rfl⟩ := h
    exact .inr (.inl ⟨g, rfl, hstream, rfl, rfl⟩)
  | emit opts input =>
    simp only [fencedSourceMachine, step, Option.ite_none_right_eq_some, Option.some.injEq] at h
    obtain ⟨-, rfl⟩ := h
    exact .inr (.inr ⟨rfl, rfl, rfl⟩)
  | fence token =>
    obtain rfl := Option.some.inj h
    exact .inr (.inr ⟨rfl, rfl, rfl⟩)
  | mark acked quarantined =>
    obtain rfl := Option.some.inj h
    refine .inr (.inr ⟨rfl, ?_, rfl⟩)
    simp only [SourceDb.entries, List.map_map]
    rfl

theorem Lawful.step (hs : s.Lawful D cfg) (h : (fencedSourceMachine D cfg).step s l = some t) :
    t.Lawful D cfg := by
  rcases step_cases h with ⟨_, _, _, -, hleases, -⟩ | ⟨g, -, hstream, -, hleases⟩ | ⟨hleases, -, -⟩
  · rw [Lawful, hleases]
    exact hs
  · rw [Lawful, hleases, ← hstream]
    rw [Lawful, ← hstream] at hs
    exact hs.installLeaseGrantInTx
  · rw [Lawful, hleases]
    exact hs

theorem Lawful.reaches (hs : s.Lawful D cfg) (h : (fencedSourceMachine D cfg).Reaches s ls t) :
    t.Lawful D cfg :=
  h.invariant (fun _ _ _ hlawful _ hstep => hlawful.step hstep) hs

theorem bodies_step (h : (fencedSourceMachine D cfg).step s l = some t) {row : LeaseColumns}
    (hrow : row ∈ s.leases.bodies) : row ∈ t.leases.bodies := by
  rcases step_cases h with ⟨_, _, _, -, hleases, -⟩ | ⟨g, -, -, -, hleases⟩ | ⟨hleases, -, -⟩
  · rw [hleases]
    exact hrow
  · rw [hleases]
    exact subset_installLeaseGrantInTx _ _ hrow
  · rw [hleases]
    exact hrow

theorem bodies_reaches (h : (fencedSourceMachine D cfg).Reaches s ls t) {row : LeaseColumns}
    (hrow : row ∈ s.leases.bodies) : row ∈ t.leases.bodies :=
  h.invariant (I := fun t => row ∈ t.leases.bodies)
    (fun _ _ _ hmem _ hstep => bodies_step hstep hmem) hrow

/-- The head is at or behind no row, and at the epoch of a revocation it is revoked. -/
theorem Lawful.lt_of_writableAt (hs : s.Lawful D cfg) {fence : Option Nat} {lease : LeaseRecord}
    (hlease : WritableAt s.leases fence lease) {row : LeaseColumns} (hrow : row ∈ s.leases.bodies)
    (hrevoked : row.leaseStatus = .revoked) : row.leaseEpoch < lease.body.leaseEpoch := by
  have hle : row.leaseEpoch ≤ lease.body.leaseEpoch :=
    hs.sound.headed.rel_of_pairwise hs.epochs (fun _ => le_rfl) hlease.head hrow
  refine hle.lt_of_ne fun hepoch => ?_
  have hstatus := hs.sound.headed.rel_of_pairwise hs.revoked (fun _ _ hrev => hrev) hlease.head hrow
    hepoch hrevoked
  rw [hlease.active] at hstatus
  cases hstatus

/-- Every row that a run has added to the outbox was committed under a lease. -/
theorem exists_committedUnder (h : (fencedSourceMachine D cfg).Reaches s ls t) {entry : OutboxEntry}
    (hentry : entry ∈ t.outbox.entries) : entry ∈ s.outbox.entries ∨
      ∃ before gate calls commitAtMs after u, ls = before ++ .append gate calls commitAtMs :: after ∧
        (fencedSourceMachine D cfg).Reaches s before u ∧ CommittedUnder D cfg u entry := by
  induction h with
  | nil => exact .inl hentry
  | @snoc u v ls l hrun _ hstep ih =>
    have hbefore (hold : entry ∈ u.outbox.entries) : entry ∈ s.outbox.entries ∨
        ∃ before gate calls commitAtMs after w,
          ls ++ [l] = before ++ .append gate calls commitAtMs :: after ∧
          (fencedSourceMachine D cfg).Reaches s before w ∧ CommittedUnder D cfg w entry := by
      rcases ih hold with hs | ⟨before, gate, calls, commitAtMs, after, w, rfl, hw, hunder⟩
      · exact .inl hs
      · exact .inr ⟨before, gate, calls, commitAtMs, after ++ [l], w, by simp, hw, hunder⟩
    rcases step_cases hstep with ⟨gate, calls, commitAtMs, rfl, -, hcommit⟩ | ⟨_, -, -, houtbox, -⟩ |
      ⟨-, hentries, -⟩
    · obtain ⟨lease, hlease, hwritten⟩ := FencedConfig.withOutboxTx_ok hcommit
      rcases hwritten entry hentry with hold | htoken
      · exact hbefore hold
      · exact .inr ⟨ls, gate, calls, commitAtMs, [], u, rfl, hrun,
          ⟨gate, calls, commitAtMs, _, hcommit, hentry⟩, ⟨lease, hlease, htoken⟩⟩
    · rw [houtbox] at hentry
      exact hbefore hentry
    · rw [hentries] at hentry
      exact hbefore hentry

/-- The step lemma of a freeze. -/
theorem frozenSince_step {u : FencedSource} (ht : t.Lawful D cfg) (hfrozen : FrozenSince s e t)
    (h : (fencedSourceMachine D cfg).step t l = some u) : FrozenSince s e u := by
  obtain ⟨⟨row, hrow, hepoch, hrevoked⟩, hledger⟩ := hfrozen
  refine ⟨⟨row, bodies_step h hrow, hepoch, hrevoked⟩, ?_⟩
  rcases step_cases h with ⟨_, _, _, -, hleases, hcommit⟩ | ⟨g, -, -, houtbox, hleases⟩ |
    ⟨hleases, hentries, hcheckpoint⟩
  · obtain ⟨lease, hlease, -⟩ := FencedConfig.withOutboxTx_ok hcommit
    rw [hleases, ← hepoch]
    exact .inr ⟨lease, hlease.head, ht.lt_of_writableAt hlease hrow hrevoked⟩
  · rcases hledger with hsame | ⟨lease, hhead, hlt⟩
    · rw [houtbox]
      exact .inl hsame
    · -- The rows behind the new head are those behind the old one.
      have hmem : lease.body ∈ u.leases.bodies := bodies_step h (ht.sound.headed.mem_bodies hhead)
      have hu := ht.step h
      obtain ⟨c, hc⟩ := hu.sound.headed.exists_head hmem
      exact .inr ⟨c, hc, hlt.trans_le
        (hu.sound.headed.rel_of_pairwise hu.epochs (fun _ => le_rfl) hc hmem)⟩
  · rw [hleases, hentries, hcheckpoint]
    exact hledger

theorem frozenSince_reaches (hs : s.Lawful D cfg)
    (hrevoked : ∃ row ∈ s.leases.bodies, row.leaseEpoch = e ∧ row.leaseStatus = .revoked)
    (h : (fencedSourceMachine D cfg).Reaches s ls t) : FrozenSince s e t :=
  (h.invariant (I := fun t => t.Lawful D cfg ∧ FrozenSince s e t)
    (fun _ _ _ hI _ hstep => ⟨hI.1.step hstep, frozenSince_step hI.1 hI.2 hstep⟩)
    ⟨hs, hrevoked, .inl ⟨rfl, rfl⟩⟩).2

/-- Two receipts of one epoch attest the same ledger. -/
theorem emit_agree {opts opts' : FrozenReceiptOptions E} {input input' : FreezeInput}
    {r r' : SourceFrozenReceipt} (hs : s.Lawful D cfg) (hrun : (fencedSourceMachine D cfg).Reaches s ls t)
    (h : s.emit D cfg opts input = .ok r) (h' : t.emit D cfg opts' input' = .ok r')
    (hstream : r'.streamId = r.streamId) (hepoch : r'.epoch = r.epoch) :
    r'.n = r.n ∧ r'.signedHeadDigestAtN = r.signedHeadDigestAtN ∧
      r'.sourceStateDigestAtN = r.sourceStateDigestAtN := by
  obtain ⟨lease, frozen, hhead, hat, hrevoked, hfreeze, hn, hdigest, hstate⟩ := emit_ok h
  obtain ⟨lease', frozen', hhead', hat', -, hfreeze', hn', hdigest', hstate'⟩ := emit_ok h'
  have hsince := frozenSince_reaches hs ⟨lease.body, hs.sound.headed.mem_bodies hhead, hat, hrevoked⟩ hrun
  rcases hsince.ledger with ⟨hentries, hcheckpoint⟩ | ⟨c, hc, hlt⟩
  · rw [hstream] at hfreeze'
    obtain rfl := freezeLedger_agree hentries hcheckpoint hfreeze hfreeze'
    exact ⟨hn'.trans hn.symm, hdigest'.trans hdigest.symm, hstate'.trans hstate.symm⟩
  · obtain rfl := Option.some.inj (hhead'.symm.trans hc)
    omega

end FencedSource

/-- However appends, installs and freezes interleave: what is committed was committed under an
active lease at its fence epoch, behind a revocation only under a lease of a later epoch, and the
receipts of one epoch agree. -/
theorem fenced_source_final {db : SourceDb} {ls : List (FencedSourceLabel E)} {s : FencedSource}
    (h : (fencedSourceMachine D cfg).Reaches { outbox := db } ls s) :
    (∀ entry ∈ s.outbox.entries, entry ∈ db.entries ∨
      ∃ before gate calls commitAtMs after t, ls = before ++ .append gate calls commitAtMs :: after ∧
        (fencedSourceMachine D cfg).Reaches { outbox := db } before t ∧ CommittedUnder D cfg t entry) ∧
    ∀ ks t, (fencedSourceMachine D cfg).Reaches s ks t →
      (∀ row ∈ s.leases.bodies, row.leaseStatus = .revoked → ∀ gate calls commitAtMs db',
        cfg.withOutboxTx D gate calls commitAtMs t = .ok db' →
          ∃ lease, WritableAt t.leases t.outbox.fence lease ∧ row.leaseEpoch < lease.body.leaseEpoch) ∧
      ∀ opts input r opts' input' r', s.emit D cfg opts input = .ok r →
        t.emit D cfg opts' input' = .ok r' → r'.streamId = r.streamId → r'.epoch = r.epoch →
          r'.n = r.n ∧ r'.signedHeadDigestAtN = r.signedHeadDigestAtN ∧
            r'.sourceStateDigestAtN = r.sourceStateDigestAtN := by
  have hs : s.Lawful D cfg := FencedSource.Lawful.reaches lawfulLeases_empty h
  refine ⟨fun entry hentry => FencedSource.exists_committedUnder h hentry, fun ks t hrun => ⟨?_, ?_⟩⟩
  · intro row hrow hrevoked gate calls commitAtMs db' hcommit
    obtain ⟨lease, hlease, -⟩ := FencedConfig.withOutboxTx_ok hcommit
    exact ⟨lease, hlease, (hs.reaches hrun).lt_of_writableAt hlease
      (FencedSource.bodies_reaches hrun hrow) hrevoked⟩
  · intro opts input r opts' input' r' hemit hemit' hstream hepoch
    exact FencedSource.emit_agree hs hrun hemit hemit' hstream hepoch

section Sample

theorem sample_sanitized (raw clean : TskHotpMutation) (_ : some raw = some clean) : true = true := rfl

theorem sample_maxPendingRows : 0 < 16 := by decide

def sampleFenced : FencedConfig sampleEd25519 where
  leaseResolver _ := some [3]
  outbox := {
    streamId := JsString.lit "s"
    sanitizer := ⟨some, fun _ => true, sample_sanitized⟩
    signer := ⟨JsString.lit "h", JsString.lit "ed25519", fun digest => sampleEd25519.sign [5] digest.utf8⟩
    maxPendingRows := 16
    maxPendingRows_pos := sample_maxPendingRows }

def sampleGate : SourceFenceGate where
  controlToASkewBoundMs := 10
  bound := ⟨JsString.lit "a", JsString.lit "l", (sampleGrants.head?.map (·.grantDigest)).getD []⟩

/-- Behind each grant one append is tried. -/
def sampleFencedRun : List (FencedSourceLabel sampleEd25519) :=
  sampleGrants.flatMap (fun g => [.install g,
    .append sampleGate [⟨⟨JsString.lit "s", ⟨JsString.lit "t", 5⟩, 0⟩, 20⟩] 30])

def sampleFencedDb : SourceDb where
  fence := some 0
  checkpoint := some ⟨JsString.lit "e", 0, []⟩

def sampleFreezeOptions : FrozenReceiptOptions sampleEd25519 where
  sourceKeyId := JsString.lit "f"
  sourcePrivateKey := [7]
  headResolver _ := some [5]

def sampleFreezeInput : FreezeInput := ⟨JsString.lit "s", JsString.lit "c", 0, JsString.lit "a"⟩

/-- How many rows there are, how many of them are frozen, and which leases there have been. -/
def FencedSource.observe (s : FencedSource) : Nat × Option Nat × List LeaseStatus :=
  (s.outbox.entries.length,
    ((s.emit rollingSha256 sampleFenced sampleFreezeOptions sampleFreezeInput).toOption.map (·.n)),
    s.leases.bodies.map (·.leaseStatus))

end Sample

/-- The appends behind the revocation are in vain. -/
theorem fenced_source_final_sample : ∃ s : FencedSource,
    (fencedSourceMachine rollingSha256 sampleFenced).Reaches { outbox := sampleFencedDb } sampleFencedRun s ∧
    s.observe = (2, some 2, [.active, .revoked]) ∧
    ∀ entry ∈ s.outbox.entries, ∃ t, CommittedUnder rollingSha256 sampleFenced t entry := by
  obtain ⟨s, hrun, hobserve⟩ := Machine.Runs.of_observed
    (M := fencedSourceMachine rollingSha256 sampleFenced) (C := fun _ _ => True)
    { outbox := sampleFencedDb } sampleFencedRun FencedSource.observe
    (b := (2, some 2, [.active, .revoked])) (by decide +kernel)
  refine ⟨s, hrun, hobserve, fun entry hentry => ?_⟩
  rcases (fenced_source_final hrun).1 entry hentry with hold | ⟨_, _, _, _, _, t, -, -, hunder⟩
  · cases hold
  · exact ⟨t, hunder⟩

end TskProtocol
