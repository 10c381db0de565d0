import TskProtocol.Control.Machine

namespace TskProtocol

open HaControlFencing

/-- The rows of a control database without their links and signatures. -/
structure ControlView where
  provisioning : List ProvisioningRow
  witness : List WitnessRow
  leases : List LeaseRow
  cutovers : List CutoverRow
  activations : List ActivationRow

def ControlDb.view (db : ControlDb) : ControlView where
  provisioning := db.provisioning.bodies
  witness := db.witness.bodies
  leases := db.lease.bodies
  cutovers := db.cutover.bodies
  activations := db.activation.bodies

/-- Every head is the last row of its history. -/
structure ControlDb.Headed (db : ControlDb) : Prop where
  provisioning : db.provisioning.Headed
  witness : db.witness.Headed
  lease : db.lease.Headed
  cutover : db.cutover.Headed
  activation : db.activation.Headed

theorem ControlDb.headed_empty : ({} : ControlDb).Headed :=
  ⟨rfl, rfl, rfl, rfl, rfl⟩

namespace ControlView

/-- The witness stands at a provisioned epoch. -/
def Witnessed (v : ControlView) (epoch : Nat) : Prop := v.witness.getLast? = some ⟨epoch, .provisioned⟩

/-- The cutover head stands in a phase of a promotion. -/
def CutoverAt (v : ControlView) (phase : CutoverPhase) (cmd : JsString) (target : Nat)
    (evidence : Option CutoverEvidence) : Prop :=
  v.cutovers.getLast? = some ⟨target, cmd, phase, evidence⟩

def activationEpoch (v : ControlView) : Nat := (v.activations.getLast?.map (·.epoch)).getD 0

/-- The terminal phases recorded at an epoch. -/
def terminals (v : ControlView) (epoch : Nat) : List CutoverPhase :=
  ((v.cutovers.filter (·.epoch = epoch)).map (·.phase)).filter (·.terminal)

/-- Every epoch between the current activation and the target has been given up. -/
structure GapConsumed (v : ControlView) (target : Nat) : Prop where
  advances : v.activationEpoch < target
  activated : ∀ epoch, v.activationEpoch < epoch → epoch < target →
    epoch ∉ v.activations.map (·.epoch)
  aborted : ∀ epoch, v.activationEpoch < epoch → epoch < target → v.terminals epoch = [.aborted]

/-- The evidence of the first row that a phase of this promotion has left. -/
def evidenceAt (v : ControlView) (phase : CutoverPhase) (cmd : JsString) (target : Nat) :
    Option CutoverEvidence :=
  (v.cutovers.find? (fun row => row.isAt phase cmd target)).bind (·.evidence)

def addCutover (v : ControlView) (row : CutoverRow) : ControlView :=
  { v with cutovers := v.cutovers ++ [row] }

/-- What the successful transaction of a step can do, with what it has checked. -/
inductive Change {E : Ed25519} (D : Sha256Bytes) (node : HaControlFencing E) (clock : Nat)
    (v : ControlView) : ControlLabel E → ControlView → Prop
  | intent (genesisMarker : JsString) (new : v.provisioning = []) :
      Change D node clock v (.provisionIntent genesisMarker)
        { v with provisioning := [⟨genesisMarker, .intent⟩] }
  | incomplete (genesisMarker : JsString)
      (head : v.provisioning.getLast? = some ⟨genesisMarker, .intent⟩) :
      Change D node clock v (.provisionIncomplete genesisMarker) { v with
        provisioning := v.provisioning ++ [⟨genesisMarker, .incomplete⟩]
        witness := if v.witness.isEmpty then [⟨0, .incomplete⟩] else v.witness }
  | provisioned (genesisMarker : JsString)
      (head : v.provisioning.getLast? = some ⟨genesisMarker, .incomplete⟩) (genesis : v.witness ≠ []) :
      Change D node clock v (.provisionProvisioned genesisMarker) { v with
        provisioning := v.provisioning ++ [⟨genesisMarker, .provisioned⟩]
        witness := v.witness ++ [⟨0, .provisioned⟩] }
  | lease (row : LeaseRow) (witness : v.Witnessed row.epoch)
      (horizon : row.grantedMaxExpiryMs ≤ clock + MAX_LEASE_HORIZON_MS)
      (frozen : row.status = .active → ∀ c ∈ v.cutovers.getLast?, c.phase.terminal = true)
      (fresh : ∀ l ∈ v.leases, l.grantCommandId ≠ row.grantCommandId)
      (identity : ∀ first ∈ v.leases.find? (·.epoch = row.epoch),
        first.holderNodeId = row.holderNodeId ∧ first.leaseId = row.leaseId)
      (monotone : maxExpiry v.leases row.epoch ≤ row.grantedMaxExpiryMs) :
      Change D node clock v (.writeLease row) { v with leases := v.leases ++ [row] }
  | preparing (cmd : JsString) (epoch : Nat) (witness : v.Witnessed epoch)
      (head : ∀ c ∈ v.cutovers.getLast?, c.phase.terminal = true) :
      Change D node clock v (.beginPromotionIntent cmd (epoch + 1))
        (v.addCutover ⟨epoch + 1, cmd, .preparing, none⟩)
  | sourceFenced (cmd : JsString) (target : Nat) (evidence : Option CutoverEvidence)
      (fr : SourceFrozenReceipt) (frozenResolver : SourceVerifyKeyResolver E)
      (head : v.CutoverAt .preparing cmd target evidence) (gap : v.GapConsumed target)
      (verified : verifySourceFrozenReceipt E D frozenResolver fr = .ok ())
      (commandId : fr.commandId = cmd) (streamId : fr.streamId = node.streamId)
      (epoch : fr.epoch = v.activationEpoch) :
      Change D node clock v (.bindSourceFenced cmd target fr frozenResolver)
        (v.addCutover ⟨target, cmd, .sourceFenced, some (.sourceFenced (boundFreeze fr))⟩)
  | fenced (i elapsed : Nat) (cmd : JsString) (target : Nat) (evidence : Option CutoverEvidence) (e : FenceEvidence)
      (lease : LeaseRow) (head : v.CutoverAt .sourceFenced cmd target evidence)
      (witness : v.Witnessed (target - 1)) (revoked : v.leases.getLast? = some lease)
      (leaseEpoch : lease.epoch = target - 1) (leaseStatus : lease.status = .revoked)
      (expired : maxExpiry v.leases (target - 1) + e.safetyMarginMs ≤ clock) :
      Change D node clock v (.advanceFinish i elapsed)
        { v.addCutover ⟨target, cmd, .fenced, some (.fenced e)⟩ with
          witness := v.witness ++ [⟨target, .provisioned⟩] }
  | importing (cmd : JsString) (target : Nat) (evidence : Option CutoverEvidence)
      (head : v.CutoverAt .fenced cmd target evidence) :
      Change D node clock v (.markImporting cmd target)
        (v.addCutover ⟨target, cmd, .importing, evidence⟩)
  | ready (cmd : JsString) (target : Nat) (evidence : Option CutoverEvidence)
      (br : BFinalizedReceipt) (bResolver : SourceVerifyKeyResolver E) (sf : SourceFencedEvidence)
      (head : v.CutoverAt .importing cmd target evidence)
      (freeze : v.evidenceAt .sourceFenced cmd target = some (.sourceFenced sf))
      (verified : verifyBFinalizedReceipt E D bResolver br = .ok ())
      (commandId : br.commandId = cmd) (streamId : br.streamId = node.streamId)
      (frozenReceipt : br.frozenReceiptDigest = sf.frozenReceiptDigest)
      (gap : v.GapConsumed target) (sourceEpoch : sf.sourceEpoch = v.activationEpoch)
      (epoch : br.epoch = sf.sourceEpoch) :
      Change D node clock v (.markReady cmd target br bResolver)
        (v.addCutover ⟨target, cmd, .ready, some (.ready (node.ratified br))⟩)
  | active (cmd : JsString) (target : Nat) (evidence : Option CutoverEvidence) (rd : ReadyEvidence)
      (head : v.CutoverAt .ready cmd target evidence)
      (ready : v.evidenceAt .ready cmd target = some (.ready rd)) :
      Change D node clock v (.activate cmd target)
        (v.addCutover ⟨target, cmd, .active, some (.active (goLive rd))⟩)
  | aborted (cmd : JsString) (target : Nat) (phase : CutoverPhase) (evidence : Option CutoverEvidence)
      (reason : JsString) (head : v.CutoverAt phase cmd target evidence)
      (postFence : phase.postFence = true) (witness : v.Witnessed target) :
      Change D node clock v (.abortFencedPromotion cmd target reason)
        (v.addCutover ⟨target, cmd, .aborted, some (.abort reason)⟩)
  | activation (input : ActivateSourceInput E) (sourceGuard : SourceGuard E) (e : ActiveEvidence)
      (row : ActivationRow)
      (head : v.CutoverAt .active input.commandId input.targetEpoch (some (.active e)))
      (shown : node.Shown D input sourceGuard)
      (ratified : e.bReceiptDigest = input.bReceipt.receiptDigest ∧ e.n = input.bReceipt.n ∧
        e.bSystemId = input.bReceipt.bSystemId ∧ e.bKeyId = input.bReceipt.bKeyId)
      (rooted : assertRooted D input.leaseResolver v.activations input.bReceipt.bKeyId
        input.priorTargetLeaseChain = .ok ())
      (gap : v.GapConsumed input.targetEpoch) (epoch : input.bReceipt.epoch = v.activationEpoch)
      (signed : signLeaseGrant E D sourceGuard.keyId sourceGuard.privateKey
        (node.promotedGrant sourceGuard input.commandId input.targetEpoch input.bReceipt.bKeyId
          input.priorTargetLeaseChain.getLast? clock) = .ok row.grant)
      (fresh : ∀ r ∈ v.activations, r.commandId ≠ input.commandId)
      (commandId : row.commandId = input.commandId) (rowEpoch : row.epoch = input.targetEpoch)
      (bKeyId : row.bKeyId = input.bReceipt.bKeyId)
      (receiptDigest : row.bReceiptDigest = input.bReceipt.receiptDigest)
      (priorDigest : row.priorTargetGrantDigest =
        input.priorTargetLeaseChain.getLast?.map (·.grantDigest))
      (grantDigest : row.grantDigest = row.grant.grantDigest) :
      Change D node clock v (.activateSource input) { v with activations := v.activations ++ [row] }

end ControlView

/-- Every table has at most one more row. -/
structure ControlDb.Grows {E : Ed25519} (D : Sha256Bytes) (H : HmacBytes) (node : HaControlFencing E)
    (db db' : ControlDb) : Prop where
  provisioning : HaControlFencing.Grows D H node db.provisioning db'.provisioning
  witness : HaControlFencing.Grows D H node db.witness db'.witness
  lease : HaControlFencing.Grows D H node db.lease db'.lease
  cutover : HaControlFencing.Grows D H node db.cutover db'.cutover
  activation : HaControlFencing.Grows D H node db.activation db'.activation

/-- What a transaction leaves behind. -/
structure Settles {E : Ed25519} (D : Sha256Bytes) (H : HmacBytes) (node : HaControlFencing E)
    (clock : Nat) (l : ControlLabel E) (db db' : ControlDb) : Prop where
  grows : ControlDb.Grows D H node db db'
  view : db'.view = db.view ∨ ControlView.Change D node clock db.view l db'.view

variable {E : Ed25519} {D : Sha256Bytes} {H : HmacBytes} {node : HaControlFencing E} {clock : Nat}
  {db db' : ControlDb}

theorem ControlDb.Grows.refl (db : ControlDb) : ControlDb.Grows D H node db db :=
  ⟨.inl rfl, .inl rfl, .inl rfl, .inl rfl, .inl rfl⟩

theorem ControlDb.Grows.headed (h : ControlDb.Grows D H node db db') (hd : db.Headed) :
    db'.Headed where
  provisioning := h.provisioning.headed hd.provisioning
  witness := h.witness.headed hd.witness
  lease := h.lease.headed hd.lease
  cutover := h.cutover.headed hd.cutover
  activation := h.activation.headed hd.activation

theorem Settles.refl {l : ControlLabel E} (db : ControlDb) : Settles D H node clock l db db := ⟨.refl db, .inl rfl⟩

theorem Settles.headed {l : ControlLabel E} (h : Settles D H node clock l db db') (hd : db.Headed) : db'.Headed :=
  h.grows.headed hd

namespace ControlTable

variable {α : Type} {t : ControlTable α}

theorem body_of_head {l : ControlRecord α} (h : t.Headed) (hl : t.head = some l) :
    t.bodies.getLast? = some l.body := by
  rw [← h.body, hl]
  rfl

theorem bodies_eq_nil_of_head (h : t.Headed) (hl : t.head = none) : t.bodies = [] := by
  have hlast := h.body
  rw [hl] at hlast
  exact List.getLast?_eq_none_iff.mp hlast.symm

theorem first?_body (t : ControlTable α) (p : α → Bool) :
    (t.first? p).map (·.body) = t.bodies.find? p := by
  rw [first?, SignedTable.bodies, List.find?_map]
  rfl

theorem forall_first {p : α → Bool} {q : α → Prop}
    (h : ∀ l ∈ t.first? p, q l.body) : ∀ row ∈ t.bodies.find? p, q row := by
  intro row hrow
  rw [← first?_body] at hrow
  obtain ⟨l, hl, rfl⟩ := Option.map_eq_some_iff.mp hrow
  exact h l hl

end ControlTable

theorem provisionIntent_settles {genesis : JsString} (hd : db.Headed)
    (h : node.provisionIntent D H db genesis = .ok db') : Settles D H node clock (.provisionIntent genesis) db db' := by
  simp only [provisionIntent, bind_eq_ok, require_eq_ok] at h
  obtain ⟨_, -, head, hread, h⟩ := h
  obtain rfl := head_of_read hread
  split at h
  · simp only [bind_eq_ok, require_eq_ok, pure_eq_ok] at h
    obtain ⟨_, -, h⟩ := h
    cases h
    exact .refl _
  · next hhead =>
    cases h
    refine ⟨{ ControlDb.Grows.refl db with provisioning := .inr ⟨_, rfl, rfl⟩ }, .inr ?_⟩
    have hnil := ControlTable.bodies_eq_nil_of_head hd.provisioning hhead
    have hchange : ControlView.Change D node clock db.view _ _ := .intent genesis hnil
    simpa [ControlDb.view, hnil] using hchange

theorem witnessGenesis_view (db : ControlDb) :
    (node.witnessGenesis D H db .incomplete).view =
      { db.view with
        witness := if db.witness.bodies.isEmpty then [⟨0, .incomplete⟩] else db.witness.bodies } := by
  simp only [witnessGenesis]
  cases hnil : db.witness.history.isEmpty with
  | true =>
    have hbodies : db.witness.bodies = [] := by
      simpa [SignedTable.bodies] using hnil
    simp [ControlDb.view, hbodies]
  | false =>
    have hbodies : db.witness.bodies.isEmpty = false := by
      simpa [SignedTable.bodies] using hnil
    simp [ControlDb.view, hbodies]

theorem witnessGenesis_grows {state : WitnessPhase} (h : ControlDb.Grows D H node db db')
    (hwitness : db'.witness = db.witness) :
    ControlDb.Grows D H node db (node.witnessGenesis D H db' state) := by
  simp only [witnessGenesis]
  split
  · exact { h with witness := .inr ⟨⟨0, state⟩, rfl, by rw [hwitness]⟩ }
  · exact h

theorem provisionIncomplete_settles {genesis : JsString} (hd : db.Headed)
    (h : node.provisionIncomplete D H db genesis = .ok db') : Settles D H node clock (.provisionIncomplete genesis) db db' := by
  simp only [provisionIncomplete, bind_eq_ok, require_eq_ok, orThrow_eq_ok] at h
  obtain ⟨_, hread, cur, rfl, _, hgenesis, h⟩ := h
  have hhead := ControlTable.body_of_head hd.provisioning (head_of_read hread)
  split at h
  · next hstate =>
    cases h
    have hrow : cur.body = ⟨genesis, .intent⟩ := by
      rw [← hgenesis, ← hstate]
    refine ⟨witnessGenesis_grows { ControlDb.Grows.refl db with
      provisioning := .inr ⟨_, rfl, rfl⟩ } rfl, .inr ?_⟩
    have hchange : ControlView.Change D node clock db.view _ _ :=
      .incomplete genesis (hhead.trans (by rw [hrow]))
    rw [witnessGenesis_view]
    simpa [ControlDb.view] using hchange
  · cases h
    exact .refl _

theorem witnessAdvanceState_ok {epoch : Nat} {state : WitnessPhase}
    (h : node.witnessAdvanceState D H db epoch state = .ok db') :
    (∃ w, db.witness.head = some w) ∧
      db' = { db with witness := node.extend D H db.witness { epoch, state } } := by
  simp only [witnessAdvanceState, bind_eq_ok, orThrow_eq_ok] at h
  obtain ⟨_, hread, w, rfl, h⟩ := h
  cases h
  exact ⟨⟨w, head_of_read hread⟩, rfl⟩

theorem provisionProvisioned_settles {genesis : JsString} (hd : db.Headed)
    (h : node.provisionProvisioned D H db genesis = .ok db') : Settles D H node clock (.provisionProvisioned genesis) db db' := by
  simp only [provisionProvisioned, bind_eq_ok, require_eq_ok, orThrow_eq_ok] at h
  obtain ⟨_, hread, cur, rfl, _, hgenesis, h⟩ := h
  have hhead := ControlTable.body_of_head hd.provisioning (head_of_read hread)
  split at h
  · next hstate =>
    obtain ⟨⟨w, hw⟩, rfl⟩ := witnessAdvanceState_ok h
    have hrow : cur.body = ⟨genesis, .incomplete⟩ := by
      rw [← hgenesis, ← hstate]
    have hlast := ControlTable.body_of_head hd.witness hw
    have hne : db.view.witness ≠ [] := fun hnil => by
      simp only [ControlDb.view] at hnil
      simp [hnil] at hlast
    refine ⟨{ ControlDb.Grows.refl db with
      provisioning := .inr ⟨_, rfl, rfl⟩
      witness := .inr ⟨_, rfl, rfl⟩ }, .inr ?_⟩
    have hchange : ControlView.Change D node clock db.view _ _ :=
      .provisioned genesis (hhead.trans (by rw [hrow])) hne
    simpa [ControlDb.view] using hchange
  · cases h
    exact .refl _

theorem witnessed_of_readProvisioned {w : ControlRecord WitnessRow} (hd : db.Headed)
    (h : node.readProvisioned D H db = .ok w) : db.view.Witnessed w.body.epoch := by
  simp only [readProvisioned, bind_eq_ok, orThrow_eq_ok, require_eq_ok, pure_eq_ok] at h
  obtain ⟨_, hread, w', rfl, _, hstate, h⟩ := h
  cases h
  have hhead := ControlTable.body_of_head hd.witness (head_of_read hread)
  rw [ControlView.Witnessed, ← hstate]
  exact hhead

theorem writeLease_settles {input : LeaseRow} {l : ControlRecord LeaseRow} (hd : db.Headed)
    (h : node.writeLease D H db clock input = .ok (l, db')) : Settles D H node clock (.writeLease input) db db' := by
  simp only [writeLease, bind_eq_ok, require_eq_ok] at h
  obtain ⟨_, hcheck, w, hw, _, hepoch, now, hnow, _, hhorizon, cut, hcut, _, hfrozen, _, -, h⟩ := h
  have hwitness := witnessed_of_readProvisioned hd hw
  split at h
  · simp only [bind_eq_ok, require_eq_ok, pure_eq_ok] at h
    obtain ⟨_, -, h⟩ := h
    cases h
    exact .refl _
  · next hfind =>
    simp only [bind_eq_ok, require_eq_ok, pure_eq_ok] at h
    obtain ⟨_, hidentity, _, hmonotone, h⟩ := h
    cases h
    refine ⟨{ ControlDb.Grows.refl db with
      lease := .inr ⟨_, readable_of_checkLease hcheck, rfl⟩ }, .inr ?_⟩
    have hclock : now = clock := by
      simp only [controlNowMs, check_eq_ok, vInt_eq_ok] at hnow
      exact hnow.2.symm
    have hidle : input.status = .active → ∀ c ∈ db.view.cutovers.getLast?, c.phase.terminal = true := by
      intro hactive c hc
      by_contra hterminal
      refine hfrozen ⟨hactive, ?_⟩
      obtain rfl := head_of_read hcut
      simp only [ControlDb.view, ← hd.cutover.body] at hc
      obtain ⟨l, hl, rfl⟩ := Option.map_eq_some_iff.mp hc
      simp [hl, hterminal]
    have hfresh : ∀ row ∈ db.view.leases, row.grantCommandId ≠ input.grantCommandId := by
      intro row hrow
      obtain ⟨l, hl, rfl⟩ := List.mem_map.mp hrow
      simpa using List.find?_eq_none.mp hfind l hl
    have hchange : ControlView.Change D node clock db.view _ _ :=
      .lease input (hepoch ▸ hwitness) (hclock ▸ hhorizon) hidle hfresh
        (ControlTable.forall_first hidentity) hmonotone
    simpa [ControlDb.view] using hchange

theorem assertConsumedEpochs_eq_ok {rows : List CutoverRow} {activated epochs : List Nat} {u : Unit} :
    assertConsumedEpochs rows activated epochs = .ok u ↔ ∀ epoch ∈ epochs, epoch ∉ activated ∧
      ((rows.filter (·.epoch = epoch)).map (·.phase)).filter (·.terminal) = [.aborted] := by
  induction epochs with
  | nil => simp [assertConsumedEpochs]
  | cons epoch rest ih =>
    simp only [assertConsumedEpochs, assertConsumedEpoch, bind_eq_ok, require_eq_ok, ih,
      exists_const, List.forall_mem_cons, and_assoc]

theorem mem_skippedEpochs {current target epoch : Nat} :
    epoch ∈ skippedEpochs current target ↔ current < epoch ∧ epoch < target := by
  simp only [skippedEpochs, List.mem_range'_1]
  omega

/-- The gap check of the transactions, as a property of the rows. -/
theorem assertActivationGap_eq_ok {target : Nat} {u : Unit} :
    assertActivationGap db db.view.activationEpoch target = .ok u ↔ db.view.GapConsumed target := by
  simp only [assertActivationGap, assertConsumedActivationEpochs, bind_eq_ok, require_eq_ok,
    exists_const, assertConsumedEpochs_eq_ok, mem_skippedEpochs]
  constructor
  · rintro ⟨hadvances, hskipped⟩
    refine ⟨hadvances, fun epoch hlow hhigh hmem => ?_, fun epoch hlow hhigh => ?_⟩
    · refine (hskipped epoch ⟨hlow, hhigh⟩).1 (List.mem_filter.mpr ⟨hmem, ?_⟩)
      simp [hlow, hhigh]
    · rw [← (hskipped epoch ⟨hlow, hhigh⟩).2, ControlView.terminals, List.filter_filter]
      congr 3
      funext row
      by_cases hrow : row.epoch = epoch <;> simp [hrow, hlow, hhigh]
  · intro h
    refine ⟨h.advances, fun epoch hepoch => ⟨fun hmem => ?_, ?_⟩⟩
    · exact h.activated epoch hepoch.1 hepoch.2 (List.mem_of_mem_filter hmem)
    · rw [← h.aborted epoch hepoch.1 hepoch.2, ControlView.terminals, List.filter_filter]
      congr 3
      funext row
      by_cases hrow : row.epoch = epoch <;> simp [hrow, hepoch.1, hepoch.2]

theorem isAt_eq_true {row : CutoverRow} {phase : CutoverPhase} {cmd : JsString} {target : Nat} :
    row.isAt phase cmd target = true ↔ row = ⟨target, cmd, phase, row.evidence⟩ := by
  cases row
  simp only [CutoverRow.isAt, Bool.and_eq_true, decide_eq_true_eq, CutoverRow.mk.injEq, and_true]
  tauto

theorem cutoverAt_of_head {cur : ControlRecord CutoverRow} {phase : CutoverPhase} {cmd : JsString}
    {target : Nat} (hd : db.Headed) (hcur : db.cutover.head = some cur)
    (h : cur.body.isAt phase cmd target = true) :
    db.view.CutoverAt phase cmd target cur.body.evidence := by
  rw [ControlView.CutoverAt, ← isAt_eq_true.mp h]
  exact ControlTable.body_of_head hd.cutover hcur

theorem cutTransition_settles {l : ControlLabel E} {epoch : Nat} {cmd : JsString} {phase : CutoverPhase}
    {evidence : Option CutoverEvidence} (hepoch : epoch ≤ MAX_EPOCH)
    (h : ControlView.Change D node clock db.view l
      (db.view.addCutover ⟨epoch, cmd, phase, evidence⟩)) :
    Settles D H node clock l db (node.cutTransition D H db epoch cmd phase evidence).2 := by
  refine ⟨{ ControlDb.Grows.refl db with
    cutover := .inr ⟨_, by simpa [ControlRow.readable] using hepoch, rfl⟩ }, .inr ?_⟩
  simpa [ControlDb.view, cutTransition, ControlView.addCutover] using h

/-- The activation epoch of a transaction is the one of the last activation. -/
theorem readActivationEpoch_eq {epoch : Nat} (hd : db.Headed)
    (h : node.readActivationEpoch D H db = .ok epoch) : epoch = db.view.activationEpoch := by
  simp only [readActivationEpoch, bind_eq_ok] at h
  obtain ⟨head, hread, h⟩ := h
  have hhead := head_of_read hread
  cases head with
  | none =>
    simp only [bind_eq_ok, require_eq_ok, pure_eq_ok] at h
    obtain ⟨_, -, h⟩ := h
    cases h
    have hnil : db.view.activations = [] := ControlTable.bodies_eq_nil_of_head hd.activation hhead
    simp [ControlView.activationEpoch, hnil]
  | some row =>
    cases h
    have hlast : db.view.activations.getLast? = some row.body :=
      ControlTable.body_of_head hd.activation hhead
    simp [ControlView.activationEpoch, hlast]

theorem evidenceAt_view {phase : CutoverPhase} {cmd : JsString} {target : Nat} :
    HaControlFencing.evidenceAt db phase cmd target = db.view.evidenceAt phase cmd target := by
  rw [ControlView.evidenceAt, ControlDb.view, ← ControlTable.first?_body, HaControlFencing.evidenceAt,
    Option.bind_map]
  rfl

theorem sourceFencedEvidence_eq_some {cmd : JsString} {target : Nat} {sf : SourceFencedEvidence} :
    sourceFencedEvidence db cmd target = some sf ↔
      db.view.evidenceAt .sourceFenced cmd target = some (.sourceFenced sf) := by
  rw [sourceFencedEvidence, evidenceAt_view]
  split <;> simp_all

theorem readyEvidence_eq_some {cmd : JsString} {target : Nat} {rd : ReadyEvidence} :
    readyEvidence db cmd target = some rd ↔
      db.view.evidenceAt .ready cmd target = some (.ready rd) := by
  rw [readyEvidence, evidenceAt_view]
  split <;> simp_all

section Cutover

variable {cmd : JsString} {target : Nat} {cur : ControlRecord CutoverRow}

theorem beginPromotionIntent_settles (hd : db.Headed)
    (h : node.beginPromotionIntent D H db cmd target = .ok (cur, db')) :
    Settles D H node clock (.beginPromotionIntent cmd target) db db' := by
  simp only [beginPromotionIntent, bind_eq_ok, require_eq_ok, checkCutover_eq_ok] at h
  obtain ⟨_, ⟨-, -, htarget⟩, w, hw, _, hnext, head, hread, h⟩ := h
  have hwitness := witnessed_of_readProvisioned hd hw
  have hhead := head_of_read hread
  subst hnext
  cases head with
  | none =>
    cases h
    have hnil : db.view.cutovers = [] := ControlTable.bodies_eq_nil_of_head hd.cutover hhead
    exact cutTransition_settles htarget (.preparing cmd _ hwitness (by simp [hnil]))
  | some last =>
    have hlast : db.view.cutovers.getLast? = some last.body :=
      ControlTable.body_of_head hd.cutover hhead
    simp only at h
    split at h
    · next hterminal =>
      cases h
      refine cutTransition_settles htarget (.preparing cmd _ hwitness (fun c hc => ?_))
      rw [hlast, Option.mem_some_iff] at hc
      rw [← hc, hterminal]
    · simp only [bind_eq_ok, require_eq_ok, pure_eq_ok] at h
      obtain ⟨_, -, h⟩ := h
      cases h
      exact .refl _

theorem abortFencedPromotion_settles {reason : JsString} (hd : db.Headed)
    (h : node.abortFencedPromotion D H db cmd target reason = .ok (cur, db')) :
    Settles D H node clock (.abortFencedPromotion cmd target reason) db db' := by
  simp only [abortFencedPromotion, bind_eq_ok, check_eq_ok, vId_eq_ok, orThrow_eq_ok,
    checkCutover_eq_ok] at h
  obtain ⟨_, ⟨-, -, htarget⟩, _, ⟨-, rfl⟩, _, hread, head, rfl, h⟩ := h
  split at h
  · simp only [bind_eq_ok, require_eq_ok, pure_eq_ok] at h
    obtain ⟨_, -, h⟩ := h
    cases h
    exact .refl _
  · simp only [bind_eq_ok, require_eq_ok, orThrow_eq_ok, pure_eq_ok] at h
    obtain ⟨_, ⟨hat, hpost⟩, _, hwread, w, rfl, _, ⟨hstate, hepoch⟩, h⟩ := h
    cases h
    have hw := ControlTable.body_of_head hd.witness (head_of_read hwread)
    have hrow : w.body = ⟨target, .provisioned⟩ := by
      rw [← hstate, ← hepoch]
    refine cutTransition_settles htarget (.aborted cmd target head.body.phase head.body.evidence reason
      (cutoverAt_of_head hd (head_of_read hread) hat) hpost ?_)
    rw [ControlView.Witnessed, ← hrow]
    exact hw

theorem bindSourceFenced_settles {fr : SourceFrozenReceipt} {resolver : SourceVerifyKeyResolver E}
    (hd : db.Headed) (h : node.bindSourceFenced D H db cmd target fr resolver = .ok (cur, db')) :
    Settles D H node clock (.bindSourceFenced cmd target fr resolver) db db' := by
  simp only [bindSourceFenced, bind_eq_ok, check_eq_ok, require_eq_ok, orThrow_eq_ok,
    checkCutover_eq_ok] at h
  obtain ⟨_, ⟨-, -, htarget⟩, _, hverified, _, hcmd, _, hstream, epoch, hepoch, _, hgap, _, hfr, _, hread, head,
    rfl, h⟩ := h
  obtain rfl := readActivationEpoch_eq hd hepoch
  split at h
  · simp only [bind_eq_ok, require_eq_ok, pure_eq_ok] at h
    obtain ⟨_, -, h⟩ := h
    cases h
    exact .refl _
  · simp only [bind_eq_ok, require_eq_ok, pure_eq_ok] at h
    obtain ⟨_, hat, h⟩ := h
    cases h
    exact cutTransition_settles htarget (.sourceFenced cmd target _ fr resolver
      (cutoverAt_of_head hd (head_of_read hread) hat) (assertActivationGap_eq_ok.mp hgap) hverified
      hcmd hstream hfr)

theorem markImporting_settles (hd : db.Headed)
    (h : node.markImporting D H db cmd target = .ok (cur, db')) : Settles D H node clock (.markImporting cmd target) db db' := by
  simp only [markImporting, bind_eq_ok, orThrow_eq_ok, checkCutover_eq_ok] at h
  obtain ⟨_, ⟨-, -, htarget⟩, _, hread, head, rfl, h⟩ := h
  split at h
  · cases h
    exact .refl _
  · simp only [bind_eq_ok, require_eq_ok, pure_eq_ok] at h
    obtain ⟨_, hat, _, -, h⟩ := h
    cases h
    exact cutTransition_settles htarget (.importing cmd target _
      (cutoverAt_of_head hd (head_of_read hread) hat))

theorem markReady_settles {br : BFinalizedReceipt} {resolver : SourceVerifyKeyResolver E}
    (hd : db.Headed) (h : node.markReady D H db cmd target br resolver = .ok (cur, db')) :
    Settles D H node clock (.markReady cmd target br resolver) db db' := by
  simp only [markReady, bind_eq_ok, check_eq_ok, require_eq_ok, orThrow_eq_ok,
    sourceFencedEvidence_eq_some, checkCutover_eq_ok] at h
  obtain ⟨_, ⟨-, -, htarget⟩, _, hverified, _, hcmd, _, hstream, _, hread, head, rfl, _, hat, sf, hsf, _, hfrozen,
    _, -, epoch, hepoch, _, hgap, _, hsource, _, hbr, _, -, _, -, h⟩ := h
  obtain rfl := readActivationEpoch_eq hd hepoch
  split at h
  · simp only [bind_eq_ok, require_eq_ok, pure_eq_ok] at h
    obtain ⟨_, -, h⟩ := h
    cases h
    exact .refl _
  · next hretry =>
    cases h
    exact cutTransition_settles htarget (.ready cmd target _ br resolver sf
      (cutoverAt_of_head hd (head_of_read hread) (hat.resolve_left hretry)) hsf hverified hcmd
      hstream hfrozen (assertActivationGap_eq_ok.mp hgap) hsource hbr)

theorem activate_settles (hd : db.Headed) (h : node.activate D H db cmd target = .ok (cur, db')) :
    Settles D H node clock (.activate cmd target) db db' := by
  simp only [activate, bind_eq_ok, require_eq_ok, orThrow_eq_ok, readyEvidence_eq_some,
    checkCutover_eq_ok] at h
  obtain ⟨_, ⟨-, -, htarget⟩, _, hread, head, rfl, _, hat, rd, hrd, h⟩ := h
  split at h
  · simp only [bind_eq_ok, require_eq_ok, pure_eq_ok] at h
    obtain ⟨_, -, h⟩ := h
    cases h
    exact .refl _
  · next hretry =>
    cases h
    exact cutTransition_settles htarget (.active cmd target _ rd
      (cutoverAt_of_head hd (head_of_read hread) (hat.resolve_left hretry)) hrd)

end Cutover

theorem clock_of_controlNowMs {now : Nat} (h : controlNowMs clock = .ok now) : now = clock := by
  simp only [controlNowMs, check_eq_ok, vInt_eq_ok] at h
  exact h.2.symm

/-- The old epoch is fenced when its last lease is revoked and every grant of it has expired. -/
theorem proveOldFenced_ok {target margin : Nat} {old : OldFenced} (hd : db.Headed)
    (h : node.proveOldFenced D H db clock target margin = .ok old) :
    ∃ lease, db.view.leases.getLast? = some lease ∧ lease.epoch = target - 1 ∧
      lease.status = .revoked ∧ maxExpiry db.view.leases (target - 1) + margin ≤ clock := by
  simp only [proveOldFenced, bind_eq_ok, require_eq_ok, orThrow_eq_ok] at h
  obtain ⟨_, hread, l, rfl, _, hepoch, _, hstatus, now, hnow, _, hexpired, -⟩ := h
  obtain rfl := clock_of_controlNowMs hnow
  rw [hepoch] at hexpired
  exact ⟨l.body, ControlTable.body_of_head hd.lease (head_of_read hread), hepoch, hstatus, hexpired⟩

theorem advanceFinish_settles {i elapsed clockFinal : Nat} {call : AdvanceCall} {pre : OldFenced}
    {digest : JsString} {redis : Option FenceRecord} {evidence : Option FenceEvidence}
    (hd : db.Headed)
    (h : node.advanceFinish D H db clock clockFinal call pre digest redis = .ok (evidence, db')) :
    Settles D H node clock (.advanceFinish i elapsed) db db' := by
  simp only [advanceFinish, bind_eq_ok] at h
  obtain ⟨cut, hcut, h⟩ := h
  split at h
  · simp only [bind_eq_ok, pure_eq_ok] at h
    obtain ⟨_, -, h⟩ := h
    cases h
    exact .refl _
  · simp only [bind_eq_ok, require_eq_ok, orThrow_eq_ok, pure_eq_ok] at h
    obtain ⟨_, hat, _, hwread, w, rfl, _, ⟨hstate, hepoch⟩, old, hold, _, -, _, -, rr, -, _, -,
      dbw, hadvance, h⟩ := h
    cases h
    obtain ⟨-, rfl⟩ := witnessAdvanceState_ok hadvance
    obtain ⟨head, rfl, hat⟩ := (Option.any_eq_true _ _).mp hat
    have hw := ControlTable.body_of_head hd.witness (head_of_read hwread)
    have hrow : w.body = ⟨call.targetEpoch - 1, .provisioned⟩ := by
      rw [← hstate, ← hepoch]
    obtain ⟨lease, hlease, hleaseEpoch, hrevoked, hexpired⟩ := proveOldFenced_ok hd hold
    have hrowAt := isAt_eq_true.mp hat
    have htarget : call.targetEpoch ≤ MAX_EPOCH := by
      have hreadable := readable_of_read hcut
      rw [hrowAt] at hreadable
      simpa [ControlRow.readable] using hreadable
    refine ⟨{ ControlDb.Grows.refl db with
      witness := .inr ⟨_, by simpa [ControlRow.readable] using htarget, rfl⟩
      cutover := .inr ⟨_, by simpa [ControlRow.readable] using htarget, rfl⟩ }, .inr ?_⟩
    have hchange : ControlView.Change D node clock db.view _ _ :=
      .fenced i elapsed call.commandId call.targetEpoch head.body.evidence {
        holderNodeId := old.holderNodeId
        grantSeq := old.grantSeq
        grantDigest := old.grantDigest
        maxExpiryMs := old.maxExpiryMs
        controlNowMs := old.controlNowMs
        safetyMarginMs := call.safetyMarginMs
        redisNodeId := rr.nodeId
        redisEpoch := rr.fenceEpoch
        redisExpiresMs := rr.expiresAt
        redisClaimDigest := digest
        witnessFrom := call.targetEpoch - 1
        witnessTo := call.targetEpoch } lease
      (cutoverAt_of_head hd (head_of_read hcut) hat) (hw.trans (by rw [hrow])) hlease hleaseEpoch
      hrevoked hexpired
    simpa [ControlDb.view, ControlView.addCutover, cutTransition] using hchange

/-- The columns of an activation are what its reader demands. -/
theorem readable_activation {input : ActivateSourceInput E} {sourceGuard : SourceGuard E}
    {grant : LeaseGrant} {bare : BareLeaseGrant} (hshown : node.Shown D input sourceGuard)
    (hsigned : signLeaseGrant E D sourceGuard.keyId sourceGuard.privateKey bare = .ok grant) :
    ControlRow.readable ({
      commandId := input.commandId
      epoch := input.targetEpoch
      bKeyId := input.bReceipt.bKeyId
      bReceiptDigest := input.bReceipt.receiptDigest
      priorTargetGrantDigest := input.priorTargetLeaseChain.getLast?.map (·.grantDigest)
      grantDigest := grant.grantDigest
      grant } : ActivationRow) = true := by
  have hprior : (input.priorTargetLeaseChain.getLast?.map (·.grantDigest)).all matchesHex64 := by
    rcases List.eq_nil_or_concat input.priorTargetLeaseChain with hnil | ⟨front, last, hconcat⟩
    · simp [hnil]
    · have hlast := priorGrant_of_concat (by simpa [hconcat] using hshown.chain)
      simp [hconcat, ← (verifyLeaseGrant_ok hlast.verified).2, grantDigestOf, matchesHex64_hex]
  have hgrant : matchesHex64 grant.grantDigest = true := by
    rw [(signLeaseGrant_ok hsigned).2.2.2, grantDigestOf, matchesHex64_hex]
  simp [ControlRow.readable, hshown.commandId, hshown.targetEpoch.1, hshown.targetEpoch.2, hprior,
    hgrant, matchesKeyId_of_verifyBFinalizedReceipt hshown.receipt,
    matchesHex64_of_verifyBFinalizedReceipt hshown.receipt]

theorem mintActivation_settles {input : ActivateSourceInput E} {sourceGuard : SourceGuard E}
    {head : Option (ControlRecord ActivationRow)} {e : ActiveEvidence} {grant : LeaseGrant}
    (hd : db.Headed) (hhead : db.activation.head = head)
    (hactive : db.view.CutoverAt .active input.commandId input.targetEpoch (some (.active e)))
    (hshown : node.Shown D input sourceGuard)
    (hratified : e.bReceiptDigest = input.bReceipt.receiptDigest ∧ e.n = input.bReceipt.n ∧
      e.bSystemId = input.bReceipt.bSystemId ∧ e.bKeyId = input.bReceipt.bKeyId)
    (h : node.mintActivation D H db clock input sourceGuard input.priorTargetLeaseChain.getLast? head =
      .ok (grant, db')) : Settles D H node clock (.activateSource input) db db' := by
  simp only [mintActivation, bind_eq_ok, require_eq_ok, check_eq_ok, pure_eq_ok] at h
  obtain ⟨_, hrooted, _, hgap, _, hepoch, now, hnow, minted, hsigned, _, hfresh, h⟩ := h
  cases h
  obtain rfl := clock_of_controlNowMs hnow
  have hlast : (head.map (·.body.epoch)).getD 0 = db.view.activationEpoch := by
    have hbody := hd.activation.body
    rw [hhead] at hbody
    simp only [ControlView.activationEpoch, ControlDb.view, ← hbody, Option.map_map]
    rfl
  rw [hlast] at hgap hepoch
  refine ⟨{ ControlDb.Grows.refl db with
    activation := .inr ⟨_, readable_activation hshown hsigned, rfl⟩ }, .inr ?_⟩
  have hchange : ControlView.Change D node now db.view _ _ :=
    .activation input sourceGuard e {
      commandId := input.commandId
      epoch := input.targetEpoch
      bKeyId := input.bReceipt.bKeyId
      bReceiptDigest := input.bReceipt.receiptDigest
      priorTargetGrantDigest := input.priorTargetLeaseChain.getLast?.map (·.grantDigest)
      grantDigest := grant.grantDigest
      grant } hactive hshown hratified hrooted (assertActivationGap_eq_ok.mp hgap) hepoch hsigned
    hfresh rfl rfl rfl rfl rfl rfl
  simpa [ControlDb.view] using hchange

/-- What a successful `activateSource` has seen of the cutover. -/
theorem activateSource_ok {input : ActivateSourceInput E} {grant : LeaseGrant} (hd : db.Headed)
    (h : node.activateSource D H db clock input = .ok (grant, db')) :
    ∃ sourceGuard e, node.Shown D input sourceGuard ∧
      db.view.CutoverAt .active input.commandId input.targetEpoch (some (.active e)) ∧
      (e.bReceiptDigest = input.bReceipt.receiptDigest ∧ e.n = input.bReceipt.n ∧
        e.bSystemId = input.bReceipt.bSystemId ∧ e.bKeyId = input.bReceipt.bKeyId) ∧
      ((∃ row, db.activation.head = some row ∧ row.body.commandId = input.commandId ∧
          row.body.epoch = input.targetEpoch ∧ row.body.bKeyId = input.bReceipt.bKeyId ∧
          row.body.bReceiptDigest = input.bReceipt.receiptDigest ∧
          row.body.priorTargetGrantDigest =
            input.priorTargetLeaseChain.getLast?.map (·.grantDigest) ∧
          grant = row.body.grant ∧ db' = db) ∨
        node.mintActivation D H db clock input sourceGuard input.priorTargetLeaseChain.getLast?
          db.activation.head = .ok (grant, db')) := by
  simp only [activateSource, bind_eq_ok] at h
  obtain ⟨⟨sourceGuard, prior⟩, hchecked, h⟩ := h
  obtain ⟨hshown, rfl⟩ := checkActivateSource_eq_ok.mp hchecked
  simp only [require_eq_ok, orThrow_eq_ok] at h
  obtain ⟨_, hread, cur, rfl, _, hat, e, he, _, hratified, head, hactivation, h⟩ := h
  have hhead := head_of_read hactivation
  have hevidence : cur.body.evidence = some (.active e) := by
    simp only [activeEvidence] at he
    split at he
    · next hcur => rw [hcur, Option.some.inj he]
    · cases he
  refine ⟨sourceGuard, e, hshown, hevidence ▸ cutoverAt_of_head hd (head_of_read hread) hat,
    hratified, ?_⟩
  rw [hhead]
  cases head with
  | none =>
    simp only [bind_eq_ok, require_eq_ok] at h
    obtain ⟨_, -, h⟩ := h
    exact .inr h
  | some row =>
    simp only [bind_eq_ok] at h
    obtain ⟨_, -, h⟩ := h
    split at h
    · next hcmd =>
      simp only [bind_eq_ok, require_eq_ok, pure_eq_ok] at h
      obtain ⟨_, ⟨hepoch, hkey, hreceipt, hprior⟩, _, -, _, -, h⟩ := h
      cases h
      exact .inl ⟨row, rfl, hcmd, hepoch, hkey, hreceipt, hprior, rfl, rfl⟩
    · exact .inr h

theorem activateSource_settles {input : ActivateSourceInput E} {grant : LeaseGrant} (hd : db.Headed)
    (h : node.activateSource D H db clock input = .ok (grant, db')) :
    Settles D H node clock (.activateSource input) db db' := by
  obtain ⟨sourceGuard, e, hshown, hactive, hratified, ⟨_, _, _, _, _, _, _, _, rfl⟩ | hmint⟩ :=
    activateSource_ok hd h
  · exact .refl _
  · exact mintActivation_settles hd rfl hactive hshown hratified hmint

namespace ControlState

variable {s : ControlState}

theorem settle_settles {l : ControlLabel E} {α : Type} {x : Except ControlError (α × ControlDb)}
    (h : ∀ a db', x = .ok (a, db') → Settles D H node clock l s.db db') :
    Settles D H node clock l s.db (s.settle x).db := by
  cases x with
  | error e => exact .refl _
  | ok r => exact h r.1 r.2 rfl

theorem settleDb_settles {l : ControlLabel E} {x : Except ControlError ControlDb}
    (h : ∀ db', x = .ok db' → Settles D H node clock l s.db db') :
    Settles D H node clock l s.db (s.settleDb x).db := by
  cases x with
  | error e => exact .refl _
  | ok db' => exact h db' rfl

variable (D H node) in
/-- Every step of the machine is a change of the rows, or it leaves them alone. -/
theorem apply_settles (l : ControlLabel E) (hd : s.db.Headed) :
    Settles D H node s.clock l s.db (s.apply D H node l).db := by
  cases l with
  | provisionIntent => exact settleDb_settles (fun _ h => provisionIntent_settles hd h)
  | provisionIncomplete => exact settleDb_settles (fun _ h => provisionIncomplete_settles hd h)
  | provisionProvisioned => exact settleDb_settles (fun _ h => provisionProvisioned_settles hd h)
  | writeLease => exact settle_settles (fun _ _ h => writeLease_settles hd h)
  | beginPromotionIntent => exact settle_settles (fun _ _ h => beginPromotionIntent_settles hd h)
  | bindSourceFenced => exact settle_settles (fun _ _ h => bindSourceFenced_settles hd h)
  | advanceStart =>
    simp only [apply, advanceStart]
    split <;> exact .refl _
  | advanceClaim =>
    simp only [apply, advanceClaim]
    split <;> exact .refl _
  | advanceReadBack =>
    simp only [apply, advanceReadBack]
    split
    · split <;> exact .refl _
    · exact .refl _
  | advanceFinish =>
    simp only [apply, advanceFinish]
    split
    · exact settle_settles (fun _ _ h => advanceFinish_settles hd h)
    · exact .refl _
  | markImporting => exact settle_settles (fun _ _ h => markImporting_settles hd h)
  | markReady => exact settle_settles (fun _ _ h => markReady_settles hd h)
  | activate => exact settle_settles (fun _ _ h => activate_settles hd h)
  | abortFencedPromotion => exact settle_settles (fun _ _ h => abortFencedPromotion_settles hd h)
  | activateSource => exact settle_settles (fun _ _ h => activateSource_settles hd h)
  | clock => exact .refl _
  | store => exact .refl _

end ControlState

end TskProtocol
