import TskProtocol.Control.Cutovers

namespace TskProtocol

open HaControlFencing

namespace ControlView

variable {v w : ControlView} {runs : List (List CutoverRow)}

def cutoversAt (v : ControlView) (epoch : Nat) : List CutoverRow :=
  v.cutovers.filter (·.epoch = epoch)

/-- The activation epoch that a history ends with. -/
def lastEpoch (rows : List ActivationRow) : Nat := (rows.getLast?.map (·.epoch)).getD 0

@[simp] theorem lastEpoch_concat (rows : List ActivationRow) (row : ActivationRow) :
    lastEpoch (rows ++ [row]) = row.epoch := by
  simp [lastEpoch]

theorem CutoverRuns.epoch_le {row : CutoverRow} (h : v.CutoverRuns runs) (hrow : row ∈ v.cutovers) :
    row.epoch ≤ runs.length := by
  obtain ⟨i, rows, hi, -, hepoch⟩ := h.mem_run hrow
  have := (List.getElem?_eq_some_iff.mp hi).1
  omega

/-- The rows of an epoch are one promotion. -/
theorem CutoverRuns.at_epoch {i : Nat} {rows : List CutoverRow} (h : v.CutoverRuns runs)
    (hi : runs[i]? = some rows) : v.cutoversAt (i + 1) = rows := by
  have hown : ∀ j part, runs[j]? = some part →
      part.filter (·.epoch = i + 1) = if j = i then part else [] := by
    intro j part hj
    split
    · next hji =>
      rw [List.filter_eq_self]
      intro c hc
      simp [(h.run j part hj).epoch c hc, hji]
    · next hji =>
      rw [List.filter_eq_nil_iff]
      intro c hc
      simp [(h.run j part hj).epoch c hc, hji]
  obtain ⟨hlt, hget⟩ := List.getElem?_eq_some_iff.mp hi
  have hsplit : runs = runs.take i ++ rows :: runs.drop (i + 1) := by
    rw [← hget, List.getElem_cons_drop, List.take_append_drop]
  have hfront : (runs.take i).flatten.filter (·.epoch = i + 1) = [] := by
    rw [List.filter_flatten, List.flatten_eq_nil_iff]
    intro part hpart
    obtain ⟨part, hmem, rfl⟩ := List.mem_map.mp hpart
    obtain ⟨j, hj⟩ := List.getElem?_of_mem hmem
    rw [List.getElem?_take] at hj
    split at hj
    · rw [hown j part hj, if_neg (by omega)]
    · cases hj
  have hback : (runs.drop (i + 1)).flatten.filter (·.epoch = i + 1) = [] := by
    rw [List.filter_flatten, List.flatten_eq_nil_iff]
    intro part hpart
    obtain ⟨part, hmem, rfl⟩ := List.mem_map.mp hpart
    obtain ⟨j, hj⟩ := List.getElem?_of_mem hmem
    rw [List.getElem?_drop] at hj
    rw [hown _ part hj, if_neg (by omega)]
  rw [cutoversAt, h.rows, hsplit, List.flatten_append, List.filter_append, List.flatten_cons,
    List.filter_append, hfront, hback, hown i rows hi, if_pos rfl]
  simp

/-- An epoch with an ABORTED row is one promotion that was given up. -/
theorem CutoverRuns.aborted {c : CutoverRow} (h : v.CutoverRuns runs) (hc : c ∈ v.cutovers)
    (hphase : c.phase = .aborted) : CutoverRun c.epoch (v.cutoversAt c.epoch) ∧
      ∃ last, (v.cutoversAt c.epoch).getLast? = some last ∧ last.phase = .aborted := by
  obtain ⟨i, rows, hi, hmem, hepoch⟩ := h.mem_run hc
  have hrun := h.run i rows hi
  rw [hepoch, h.at_epoch hi]
  refine ⟨hrun, ?_⟩
  have habort : CutoverPhase.aborted ∈ rows.map (·.phase) := hphase ▸ List.mem_map_of_mem hmem
  rcases hrun.phases with hforward | ⟨done, -, -, -, -, hphases⟩
  · have hmem := hforward.subset habort
    simp [promotionPhases] at hmem
  · obtain ⟨front, last, hrows, -, hlast⟩ := List.map_eq_append_iff.mp hphases
    obtain ⟨last, rfl, hlast⟩ := List.map_eq_singleton_iff.mp hlast
    exact ⟨last, by simp [hrows], by simpa using hlast⟩

/-- What one activation rests on, when `prev` is the epoch of the one before it. -/
structure Succeeds (v : ControlView) (prev : Nat) (row : ActivationRow) : Prop where
  later : prev < row.epoch
  aborted : ∀ epoch, prev < epoch → epoch < row.epoch →
    ∃ c ∈ v.cutovers, c.epoch = epoch ∧ c.phase = .aborted
  ratified : ∃ e sf, ⟨row.epoch, row.commandId, .active, some (.active e)⟩ ∈ v.cutovers ∧
    ⟨row.epoch, row.commandId, .sourceFenced, some (.sourceFenced sf)⟩ ∈ v.cutovers ∧
    e.bReceiptDigest = row.bReceiptDigest ∧ e.frozenReceiptDigest = sf.frozenReceiptDigest ∧
    sf.sourceEpoch = prev

theorem Succeeds.mono {prev : Nat} {row : ActivationRow} (h : v.Succeeds prev row)
    (hsub : v.cutovers ⊆ w.cutovers) : w.Succeeds prev row where
  later := h.later
  aborted epoch hlow hhigh := by
    obtain ⟨c, hc, hrest⟩ := h.aborted epoch hlow hhigh
    exact ⟨c, hsub hc, hrest⟩
  ratified := by
    obtain ⟨e, sf, he, hsf, hrest⟩ := h.ratified
    exact ⟨e, sf, hsub he, hsub hsf, hrest⟩

/-- The activations and the promotion in progress. -/
structure Activated (v : ControlView) : Prop where
  history : ∀ before row after, v.activations = before ++ row :: after →
    v.Succeeds (lastEpoch before) row
  idle : v.cutovers = [] → v.activations = []
  behind : ∀ c ∈ v.cutovers.getLast?, v.activationEpoch ≤ c.epoch ∧
    (v.activationEpoch = c.epoch → c.phase = .active)
  /-- Until it is activated, a promotion goes on from the freeze of the current source. -/
  freeze : ∀ c ∈ v.cutovers.getLast?, v.activationEpoch < c.epoch → ∀ f ∈ v.cutovers,
    f.epoch = c.epoch → ∀ sf, f.phase = .sourceFenced → f.evidence = some (.sourceFenced sf) →
    sf.sourceEpoch = v.activationEpoch

theorem Activated.congr (h : v.Activated) (hcutovers : w.cutovers = v.cutovers)
    (hactivations : w.activations = v.activations) : w.Activated where
  history before row after hsplit :=
    (h.history before row after (hactivations ▸ hsplit)).mono (by rw [hcutovers]; exact fun _ hc => hc)
  idle := by
    rw [hcutovers, hactivations]
    exact h.idle
  behind := by
    rw [hcutovers, activationEpoch, hactivations]
    exact h.behind
  freeze := by
    rw [hcutovers, activationEpoch, hactivations]
    exact h.freeze

/-- A cutover row behind the current activation. -/
theorem Activated.snoc {row : CutoverRow} (h : v.Activated) (hcutovers : w.cutovers = v.cutovers ++ [row])
    (hactivations : w.activations = v.activations) (hepoch : v.activationEpoch < row.epoch)
    (hold : ∀ f ∈ v.cutovers, f.epoch = row.epoch → ∀ sf, f.phase = .sourceFenced →
      f.evidence = some (.sourceFenced sf) → sf.sourceEpoch = v.activationEpoch)
    (hnew : ∀ sf, row.phase = .sourceFenced → row.evidence = some (.sourceFenced sf) →
      sf.sourceEpoch = v.activationEpoch) : w.Activated where
  history before a after hsplit := by
    refine (h.history before a after (hactivations ▸ hsplit)).mono ?_
    rw [hcutovers]
    exact List.subset_append_left _ _
  idle hnil := by simp [hcutovers] at hnil
  behind c hc := by
    obtain rfl : row = c := by simpa [hcutovers] using hc
    rw [activationEpoch, hactivations]
    exact ⟨hepoch.le, fun heq => absurd heq hepoch.ne⟩
  freeze c hc _ f hf hfe sf hphase hevidence := by
    obtain rfl : row = c := by simpa [hcutovers] using hc
    rw [activationEpoch, hactivations]
    rw [hcutovers] at hf
    rcases List.mem_append.mp hf with hf | hf
    · exact hold f hf hfe sf hphase hevidence
    · obtain rfl := List.mem_singleton.mp hf
      exact hnew sf hphase hevidence

/-- One more row of a promotion that is not ACTIVE yet. -/
theorem Activated.extend {c row : CutoverRow} (h : v.Activated) (hc : v.cutovers.getLast? = some c)
    (hphase : c.phase ≠ .active) (hcutovers : w.cutovers = v.cutovers ++ [row])
    (hactivations : w.activations = v.activations) (hepoch : row.epoch = c.epoch)
    (hnew : ∀ sf, row.phase = .sourceFenced → row.evidence = some (.sourceFenced sf) →
      sf.sourceEpoch = v.activationEpoch) : w.Activated := by
  obtain ⟨hle, hactive⟩ := h.behind c hc
  have hlt : v.activationEpoch < c.epoch := lt_of_le_of_ne hle (fun heq => hphase (hactive heq))
  exact h.snoc hcutovers hactivations (hepoch ▸ hlt)
    (fun f hf hfe => h.freeze c hc hlt f hf (hfe.trans hepoch)) hnew

variable {E : Ed25519} {D : Sha256Bytes} {node : HaControlFencing E} {clock : Nat}
  {l : ControlLabel E} {v' : ControlView}

/-- An activation takes the frozen receipt that its promotion has bound. -/
theorem Activated.activation {cmd : JsString} {target : Nat} {e : ActiveEvidence}
    {row : ActivationRow} (h : v.Activated) (hruns : v.CutoverRuns runs)
    (hhead : v.CutoverAt .active cmd target (some (.active e))) (hgap : v.GapConsumed target)
    (hcmd : row.commandId = cmd) (hepoch : row.epoch = target)
    (hreceipt : e.bReceiptDigest = row.bReceiptDigest) :
    Activated { v with activations := v.activations ++ [row] } where
  history before a after hsplit := by
    rcases List.eq_nil_or_concat after with rfl | ⟨front, last, rfl⟩
    · obtain ⟨rfl, hlast⟩ := List.append_inj' hsplit rfl
      obtain rfl := List.singleton_inj.mp hlast
      have hactive : (⟨target, cmd, .active, some (.active e)⟩ : CutoverRow) ∈ v.cutovers :=
        List.mem_of_getLast? hhead
      obtain ⟨i, rows, hi, hmem, hrowEpoch⟩ := hruns.mem_run hactive
      have hrun := hruns.run i rows hi
      obtain ⟨e', he', f, hf, sf, hphase, hevidence, hdigest⟩ := hrun.active _ hmem rfl
      obtain rfl : e = e' := by simpa using he'
      obtain ⟨cmd', hcommand⟩ := hrun.command
      have hfv : f ∈ v.cutovers := by
        rw [hruns.rows]
        exact List.mem_flatten.mpr ⟨rows, List.mem_of_getElem? hi, hf⟩
      have hfe : f.epoch = target := (hrun.epoch f hf).trans hrowEpoch.symm
      have hfc : f.commandId = cmd := (hcommand f hf).trans (hcommand _ hmem).symm
      have hfrow : f = ⟨target, cmd, .sourceFenced, some (.sourceFenced sf)⟩ := by
        rw [← hfe, ← hfc, ← hphase, ← hevidence]
      refine ⟨hepoch ▸ hgap.advances, fun epoch hlow hhigh => ?_, e, sf, ?_, ?_, hreceipt, hdigest.symm,
        ?_⟩
      · have habort : CutoverPhase.aborted ∈ v.terminals epoch := by
          rw [hgap.aborted epoch hlow (hepoch ▸ hhigh)]
          exact List.mem_singleton_self _
        obtain ⟨c, hc, hphase⟩ := List.mem_map.mp (List.mem_filter.mp habort).1
        obtain ⟨hc, hce⟩ := List.mem_filter.mp hc
        exact ⟨c, hc, by simpa using hce, hphase⟩
      · rw [hepoch, hcmd]
        exact hactive
      · rw [hepoch, hcmd, ← hfrow]
        exact hfv
      · exact h.freeze _ hhead hgap.advances f hfv hfe sf hphase hevidence
    · have hold : v.activations = before ++ a :: front := by
        rw [List.concat_eq_append, ← List.cons_append, ← List.append_assoc] at hsplit
        exact (List.append_inj' hsplit rfl).1
      exact (h.history before a front hold).mono (fun _ hc => hc)
  idle hnil := by
    rw [CutoverAt, hnil] at hhead
    cases hhead
  behind c hc := by
    obtain rfl : ⟨target, cmd, .active, some (.active e)⟩ = c := Option.some.inj (hhead.symm.trans hc)
    simp [activationEpoch, hepoch]
  freeze c hc hlt := by
    obtain rfl : ⟨target, cmd, .active, some (.active e)⟩ = c := Option.some.inj (hhead.symm.trans hc)
    simp [activationEpoch, hepoch] at hlt

theorem Activated.of_change (h : v.Activated) (hruns : v.CutoverRuns runs)
    (hchange : Change D node clock v l v') : v'.Activated := by
  cases hchange with
  | intent | incomplete | provisioned | lease => exact h.congr rfl rfl
  | preparing cmd epoch hwitness hhead =>
    have hepoch : epoch = runs.length :=
      (witnessEpoch_of_witnessed hwitness).symm.trans (hruns.witnessEpoch_of_closed hhead)
    have hlt : v.activationEpoch < epoch + 1 := by
      cases hlast : v.cutovers.getLast? with
      | none =>
        have hnil := h.idle (List.getLast?_eq_none_iff.mp hlast)
        simp [activationEpoch, hnil]
      | some c =>
        have hle := (h.behind c hlast).1
        have := hruns.epoch_le (List.mem_of_getLast? hlast)
        omega
    refine h.snoc rfl rfl hlt (fun f hf hfe => ?_) (by simp)
    have hle := hruns.epoch_le hf
    simp only at hfe
    omega
  | sourceFenced cmd target evidence fr resolver hhead _ _ _ _ hepoch =>
    refine h.extend hhead (by simp) rfl rfl rfl (fun sf _ hsf => ?_)
    obtain rfl : boundFreeze fr = sf := by simpa using hsf
    exact hepoch
  | fenced i elapsed cmd target evidence e lease hhead => exact h.extend hhead (by simp) rfl rfl rfl (by simp)
  | importing cmd target evidence hhead => exact h.extend hhead (by simp) rfl rfl rfl (by simp)
  | ready cmd target evidence br resolver sf hhead =>
    exact h.extend hhead (by simp) rfl rfl rfl (by simp)
  | active cmd target evidence rd hhead => exact h.extend hhead (by simp) rfl rfl rfl (by simp)
  | aborted cmd target phase evidence reason hhead hpost =>
    refine h.extend hhead ?_ rfl rfl rfl (by simp)
    rintro rfl
    cases hpost
  | activation input sourceGuard e row hhead hshown hratified hrooted hgap _ _ _ hcmd hepoch _
      hreceipt =>
    exact h.activation hruns hhead hgap hcmd hepoch (hratified.1.trans hreceipt.symm)

/-- The epochs of the activations increase. -/
theorem Activated.increasing (h : v.Activated) :
    v.activations.Pairwise (fun a b => a.epoch < b.epoch) := by
  have hinit : ∀ rows, rows <+: v.activations → rows.Pairwise (fun a b => a.epoch < b.epoch) ∧
      ∀ a ∈ rows, a.epoch ≤ lastEpoch rows := by
    intro rows
    induction rows using List.reverseRecOn with
    | nil => simp
    | append_singleton front last ih =>
      rintro ⟨after, hafter⟩
      rw [List.append_assoc, List.singleton_append] at hafter
      obtain ⟨hpairwise, hmax⟩ := ih ⟨last :: after, hafter⟩
      have hlater := (h.history front last after hafter.symm).later
      refine ⟨List.pairwise_append.mpr ⟨hpairwise, List.pairwise_singleton _ _, fun a ha b hb => ?_⟩,
        fun a ha => ?_⟩
      · obtain rfl := List.mem_singleton.mp hb
        exact (hmax a ha).trans_lt hlater
      · rw [lastEpoch_concat]
        rcases List.mem_append.mp ha with ha | ha
        · exact ((hmax a ha).trans_lt hlater).le
        · rw [List.mem_singleton.mp ha]
  exact (hinit _ List.prefix_rfl).1

/-- There are no more activations than epochs. -/
theorem Activated.length_le (h : v.Activated) : v.activations.length ≤ v.activationEpoch := by
  have hinit : ∀ rows, rows <+: v.activations → rows.length ≤ lastEpoch rows := by
    intro rows
    induction rows using List.reverseRecOn with
    | nil => simp
    | append_singleton front last ih =>
      rintro ⟨after, hafter⟩
      rw [List.append_assoc, List.singleton_append] at hafter
      have hle := ih ⟨last :: after, hafter⟩
      have hlater := (h.history front last after hafter.symm).later
      rw [lastEpoch_concat, List.length_append, List.length_singleton]
      omega
  exact hinit _ List.prefix_rfl

end ControlView

section Retry

variable {E : Ed25519} {D : Sha256Bytes} {H : HmacBytes} {node : HaControlFencing E} {clock now : Nat}
  {db db' : ControlDb} {input : ActivateSourceInput E} {grant : LeaseGrant}

theorem verifyActivationGrants_eq_ok {resolver : SourceVerifyKeyResolver E} {rows : List ActivationRow} :
    node.verifyActivationGrants D resolver rows = .ok () ↔
      ∀ row ∈ rows, node.verifyActivationGrant D resolver row = .ok () := by
  induction rows with
  | nil => simp [verifyActivationGrants]
  | cons row rest ih => simp [verifyActivationGrants, bind_eq_ok, ih, Unique.exists_iff]

/-- The head that a successful `activateSource` leaves is the one its retry looks for. -/
structure RetryHead (D : Sha256Bytes) (node : HaControlFencing E) (db : ControlDb)
    (input : ActivateSourceInput E) (grant : LeaseGrant) (row : ControlRecord ActivationRow) :
    Prop where
  head : db.activation.head = some row
  commandId : row.body.commandId = input.commandId
  arguments : row.body.epoch = input.targetEpoch ∧ row.body.bKeyId = input.bReceipt.bKeyId ∧
    row.body.bReceiptDigest = input.bReceipt.receiptDigest ∧
    row.body.priorTargetGrantDigest = input.priorTargetLeaseChain.getLast?.map (·.grantDigest)
  grants : node.verifyActivationGrants D input.leaseResolver db.activation.bodies = .ok ()
  verified : verifyLeaseGrant E D input.leaseResolver row.body.grant = .ok ()
  digest : row.body.grant.grantDigest = row.body.grantDigest
  grant : row.body.grant = grant

theorem mintActivation_retryHead {sourceGuard : SourceGuard E} {head : Option (ControlRecord ActivationRow)}
    (h : node.mintActivation D H db clock input sourceGuard input.priorTargetLeaseChain.getLast? head =
      .ok (grant, db'))
    (hgrants : node.verifyActivationGrants D input.leaseResolver db.activation.bodies = .ok ())
    (hresolve : input.leaseResolver sourceGuard.keyId = some (E.publicKey sourceGuard.privateKey)) :
    db'.cutover = db.cutover ∧ ∃ row, RetryHead D node db' input grant row := by
  simp only [mintActivation, bind_eq_ok, require_eq_ok, check_eq_ok, pure_eq_ok] at h
  obtain ⟨_, -, _, -, _, -, now, -, minted, hsigned, _, -, h⟩ := h
  cases h
  have hverified := verifyLeaseGrant_of_sign hsigned hresolve
  obtain ⟨-, hbare, -⟩ := signLeaseGrant_ok hsigned
  refine ⟨rfl, node.next D H db.activation _, rfl, rfl, ⟨rfl, rfl, rfl, rfl⟩, ?_, hverified, rfl, rfl⟩
  rw [verifyActivationGrants_eq_ok] at hgrants ⊢
  intro row hrow
  rw [bodies_extend] at hrow
  rcases List.mem_append.mp hrow with hrow | hrow
  · exact hgrants row hrow
  · obtain rfl := List.mem_singleton.mp hrow
    simp only [verifyActivationGrant, hverified, bind_eq_ok, check_eq_ok, require_eq_ok]
    exact ⟨(), trivial, trivial, by rw [hbare]; exact ⟨rfl, rfl, rfl, rfl⟩⟩

theorem activateSource_leaves (h : node.activateSource D H db clock input = .ok (grant, db'))
    (hresolve : ∀ g ∈ node.sourceGuard, input.leaseResolver g.keyId = some (E.publicKey g.privateKey)) :
    db'.cutover = db.cutover ∧ ∃ row, RetryHead D node db' input grant row := by
  simp only [activateSource, bind_eq_ok] at h
  obtain ⟨⟨sourceGuard, prior⟩, hchecked, h⟩ := h
  obtain ⟨hshown, rfl⟩ := checkActivateSource_eq_ok.mp hchecked
  simp only [require_eq_ok, orThrow_eq_ok] at h
  obtain ⟨_, -, _, -, _, -, _, -, _, -, head, hactivations, h⟩ := h
  have hkey := hresolve sourceGuard hshown.sourceGuard
  cases head with
  | none =>
    simp only [bind_eq_ok, require_eq_ok, List.isEmpty_iff] at h
    obtain ⟨_, hnil, h⟩ := h
    refine mintActivation_retryHead h ?_ hkey
    simp [SignedTable.bodies, hnil, verifyActivationGrants]
  | some row =>
    simp only [bind_eq_ok] at h
    obtain ⟨_, hgrants, h⟩ := h
    split at h
    · next hcmd =>
      simp only [bind_eq_ok, require_eq_ok, check_eq_ok, pure_eq_ok] at h
      obtain ⟨_, harguments, _, hverified, _, hdigest, h⟩ := h
      cases h
      exact ⟨rfl, row, head_of_read hactivations, hcmd, harguments, hgrants, hverified, hdigest, rfl⟩
    · exact mintActivation_retryHead h hgrants hkey

/-- Calling `activateSource` again repeats the stored grant and writes nothing. -/
theorem activateSource_retry {again : ControlDb}
    (h : node.activateSource D H db clock input = .ok (grant, db'))
    (hresolve : ∀ g ∈ node.sourceGuard, input.leaseResolver g.keyId = some (E.publicKey g.privateKey))
    (hcutover : again.cutover = db'.cutover) (hactivation : again.activation = db'.activation)
    (hsound : node.Sound D H again.activation) :
    node.activateSource D H again now input = .ok (grant, again) := by
  obtain ⟨hsame, row, hrow⟩ := activateSource_leaves h hresolve
  simp only [activateSource, bind_eq_ok, require_eq_ok, orThrow_eq_ok] at h
  obtain ⟨⟨sourceGuard, prior⟩, hchecked, _, hread, cur, rfl, _, hat, e, he, _, hratified, -⟩ := h
  obtain ⟨-, rfl⟩ := checkActivateSource_eq_ok.mp hchecked
  have hreadAgain : node.read D H again.activation = .ok (some row) := by
    rw [read_of_sound hsound, hactivation, hrow.head]
  have hgrants := hrow.grants
  rw [← hactivation] at hgrants
  have hverified : verifyLeaseGrant E D input.leaseResolver grant = .ok () := hrow.grant ▸ hrow.verified
  have hdigest : grant.grantDigest = row.body.grantDigest := hrow.grant ▸ hrow.digest
  rw [activateSource, hchecked, hcutover, hsame, hread]
  simp only [bind_ok, orThrow, hat, he, require, hratified, hreadAgain, hgrants, and_self, if_true,
    if_pos hrow.commandId, hrow.arguments, hrow.grant, hverified, hdigest, check, pure_eq_ok]

end Retry

namespace ControlState

open ControlView

variable {E : Ed25519} {D : Sha256Bytes} {H : HmacBytes} {node : HaControlFencing E}
  {s t : ControlState}

/-- The promotions and the activations that rest on them. -/
structure Promoted (s : ControlState) : Prop extends s.Consistent where
  activated : s.db.view.Activated

theorem promoted_start (clock : Nat) (record : Option FenceRecord) :
    (ControlState.start clock record).Promoted where
  toConsistent := consistent_start clock record
  activated := ⟨fun before row after hsplit => by simp [start, ControlDb.view] at hsplit,
    fun _ => rfl, by simp [start, ControlDb.view], by simp [start, ControlDb.view]⟩

variable (D H node) in
theorem Promoted.apply (h : s.Promoted) (l : ControlLabel E) : (s.apply D H node l).Promoted := by
  refine ⟨h.toConsistent.apply l, ?_⟩
  obtain ⟨runs, hruns⟩ := h.runs
  rcases (apply_settles D H node l h.headed).view with hview | hchange
  · rw [hview]
    exact h.activated
  · exact h.activated.of_change hruns hchange

theorem Promoted.of_runs {clock : Nat} {record : Option FenceRecord}
    {C : ControlState → ControlLabel E → Prop} {ls : List (ControlLabel E)}
    (h : (controlMachine D H node).Runs C (.start clock record) ls s) : s.Promoted := by
  refine h.invariant (fun s l t hs _ hstep => ?_) (promoted_start clock record)
  cases hstep
  exact hs.apply D H node l

/-- The activation table stays verifiable: it cannot run out of numbers before the epochs end. -/
theorem sound_activation_of_runs {clock : Nat} {record : Option FenceRecord}
    {C : ControlState → ControlLabel E → Prop} {ls : List (ControlLabel E)}
    (hresolve : node.resolver node.signer.keyId = some node.signer.secret)
    (h : (controlMachine D H node).Runs C (.start clock record) ls s) :
    node.Sound D H s.db.activation := by
  have hboth : s.Promoted ∧ node.Sound D H s.db.activation := by
    refine h.invariant (I := fun s => s.Promoted ∧ node.Sound D H s.db.activation)
      (fun s l t hs _ hstep => ?_) ⟨promoted_start clock record, SignedTable.sound_empty⟩
    cases hstep
    refine ⟨hs.1.apply D H node l, ?_⟩
    have hgrows := (apply_settles D H node l hs.1.headed).grows.activation
    have hnext := (hs.1.apply D H node l).activated
    rcases hgrows with hsame | ⟨row, hreadable, hrow⟩
    · rw [hsame]
      exact hs.2
    · rw [hrow]
      refine hs.2.extend hresolve hreadable ?_
      have hlen := hnext.length_le
      have hrows : (s.apply D H node l).db.view.activations = s.db.activation.bodies ++ [row] := by
        simp [ControlDb.view, hrow]
      rw [activationEpoch, hrows] at hlen
      simp only [List.length_append, SignedTable.bodies, List.length_map, List.getLast?_concat,
        Option.map_some, Option.getD_some, List.length_singleton] at hlen
      have hepoch : row.epoch ≤ MAX_EPOCH := by
        simp only [ControlRow.readable, Bool.and_eq_true, decide_eq_true_eq] at hreadable
        exact hreadable.1.1.1.1.2
      simp only [MAX_EPOCH, MAX_SEQ] at hepoch ⊢
      omega
  exact hboth.2

theorem apply_activateSource {input : ActivateSourceInput E} {grant : LeaseGrant} {db' : ControlDb}
    (h : node.activateSource D H s.db s.clock input = .ok (grant, db')) :
    s.apply D H node (.activateSource input) = { s with db := db' } := by
  simp only [apply, h]
  rfl

/-- The promotion is still the last one, or another one has begun behind it. -/
inductive Since (cutover : ControlTable CutoverRow) (activation : ControlTable ActivationRow)
    (target : Nat) (s : ControlState) : Prop
  | still (sameCutover : s.db.cutover = cutover) (sameActivation : s.db.activation = activation)
  | past (c : CutoverRow) (head : s.db.view.cutovers.getLast? = some c) (later : target < c.epoch)

variable (D H node) in
theorem Since.apply {cmd : JsString} {target : Nat} {e : ActiveEvidence} (hs : s.Promoted)
    (hhead : t.db.view.CutoverAt .active cmd target (some (.active e)))
    (hepoch : t.db.view.activationEpoch = target) (l : ControlLabel E)
    (h : Since t.db.cutover t.db.activation target s) :
    Since t.db.cutover t.db.activation target (s.apply D H node l) := by
  have hsettles := apply_settles D H node l hs.headed
  obtain ⟨runs, hruns⟩ := hs.runs
  have hadvances := hs.advances D H node hruns l
  cases h with
  | past c hc hlater =>
    obtain ⟨runs', hruns', hlen⟩ := hadvances.runs
    have hlast := hruns.epoch_of_head hc
    cases hnew : (s.apply D H node l).db.view.cutovers.getLast? with
    | none =>
      have hnil := hruns'.nil_of_nil (List.getLast?_eq_none_iff.mp hnew)
      simp only [hnil, List.length_nil] at hlen
      omega
    | some d =>
      have := hruns'.epoch_of_head hnew
      exact .past d hnew (by omega)
  | still hcutover hactivation =>
    have hview : s.db.view.CutoverAt .active cmd target (some (.active e)) ∧
        s.db.view.activationEpoch = target := by
      simp only [CutoverAt, activationEpoch, ControlDb.view, hcutover, hactivation]
      exact ⟨hhead, hepoch⟩
    have hstill : (s.apply D H node l).db.view.cutovers = s.db.view.cutovers →
        (s.apply D H node l).db.view.activations = s.db.view.activations →
        Since t.db.cutover t.db.activation target (s.apply D H node l) := fun hc ha =>
      .still ((hsettles.grows.cutover.eq_of_bodies hc).trans hcutover)
        ((hsettles.grows.activation.eq_of_bodies ha).trans hactivation)
    obtain ⟨hactive, hcurrent⟩ := hview
    rcases hsettles.view with hsame | hchange
    · exact hstill (by rw [hsame]) (by rw [hsame])
    · generalize hnext : (s.apply D H node l).db.view = v' at hchange
      cases hchange with
      | intent | incomplete | provisioned | lease => exact hstill (by rw [hnext]) (by rw [hnext])
      | preparing cmd' epoch hwitness hclosed =>
        have hlen := hruns.epoch_of_head hactive
        have hw := hruns.witnessEpoch_of_closed hclosed
        rw [witnessEpoch_of_witnessed hwitness] at hw
        exact .past ⟨epoch + 1, cmd', .preparing, none⟩ (by rw [hnext]; simp [addCutover])
          (by simp only at hlen ⊢; omega)
      | activation input sourceGuard e' row hhead' _ _ _ hgap =>
        have hsame := Option.some.inj (hactive.symm.trans hhead')
        have hlt := hgap.advances
        rw [hcurrent, ← (CutoverRow.mk.inj hsame).1] at hlt
        exact absurd hlt (lt_irrefl _)
      | aborted cmd' target' phase evidence reason hhead' hpost =>
        have hsame := Option.some.inj (hactive.symm.trans hhead')
        rw [← (CutoverRow.mk.inj hsame).2.2.1] at hpost
        cases hpost
      | sourceFenced _ _ _ _ _ hhead' | fenced _ _ _ _ _ _ _ hhead' | importing _ _ _ hhead'
      | ready _ _ _ _ _ _ hhead' | active _ _ _ _ hhead' =>
        have hsame := Option.some.inj (hactive.symm.trans hhead')
        simp at hsame

theorem Since.of_runs {cmd : JsString} {target : Nat} {e : ActiveEvidence} {u : ControlState}
    {C : ControlState → ControlLabel E → Prop} {ks : List (ControlLabel E)} (ht : t.Promoted)
    (hhead : t.db.view.CutoverAt .active cmd target (some (.active e)))
    (hepoch : t.db.view.activationEpoch = target) (h : (controlMachine D H node).Runs C t ks u) :
    Since t.db.cutover t.db.activation target u := by
  have hboth : u.Promoted ∧ Since t.db.cutover t.db.activation target u := by
    refine h.invariant (I := fun u => u.Promoted ∧ Since t.db.cutover t.db.activation target u)
      (fun u l w hu _ hstep => ?_) ⟨ht, .still rfl rfl⟩
    cases hstep
    exact ⟨hu.1.apply D H node l, hu.2.apply D H node hu.1 hhead hepoch l⟩
  exact hboth.2

end ControlState

open ControlView in
/-- The activations of every state that is reached have increasing epochs, every epoch between two
of them is one promotion that was given up, and each takes the freeze of the one before it.  A
retry repeats the grant and writes nothing while its promotion is the last one, and is refused
from the next promotion on. -/
theorem activation_history {E : Ed25519} {D : Sha256Bytes} {H : HmacBytes}
    {node : HaControlFencing E} {clock : Nat} {record : Option FenceRecord}
    {ls : List (ControlLabel E)} {s : ControlState}
    (hrun : (controlMachine D H node).Reaches (.start clock record) ls s) :
    s.db.view.activations.Pairwise (fun a b => a.epoch < b.epoch) ∧
    (∀ before row after, s.db.view.activations = before ++ row :: after →
      s.db.view.Succeeds (lastEpoch before) row ∧
      ∀ epoch, lastEpoch before < epoch → epoch < row.epoch →
        CutoverRun epoch (s.db.view.cutoversAt epoch) ∧
        ∃ last, (s.db.view.cutoversAt epoch).getLast? = some last ∧ last.phase = .aborted) ∧
    ∀ input grant db', node.activateSource D H s.db s.clock input = .ok (grant, db') →
      node.resolver node.signer.keyId = some node.signer.secret →
      (∀ g ∈ node.sourceGuard, input.leaseResolver g.keyId = some (E.publicKey g.privateKey)) →
      ∀ ks t, (controlMachine D H node).Reaches { s with db := db' } ks t →
        (∀ evidence, t.db.view.CutoverAt .active input.commandId input.targetEpoch evidence →
          node.activateSource D H t.db t.clock input = .ok (grant, t.db)) ∧
        ((∀ evidence, ¬ t.db.view.CutoverAt .active input.commandId input.targetEpoch evidence) →
          ∃ e, node.activateSource D H t.db t.clock input = .error e) := by
  have h := ControlState.Promoted.of_runs hrun
  obtain ⟨runs, hruns⟩ := h.runs
  refine ⟨h.activated.increasing, fun before row after hsplit => ?_,
    fun input grant db' hok hresolve hkeys ks t hks => ?_⟩
  · have hrow := h.activated.history before row after hsplit
    refine ⟨hrow, fun epoch hlow hhigh => ?_⟩
    obtain ⟨c, hc, rfl, hphase⟩ := hrow.aborted epoch hlow hhigh
    exact hruns.aborted hc hphase
  · have hstep : (controlMachine D H node).step s (.activateSource input) =
        some { s with db := db' } := congrArg some (ControlState.apply_activateSource hok)
    have hafter := hrun.snoc trivial hstep
    have hpromoted := ControlState.Promoted.of_runs hafter
    refine ⟨fun evidence hactive => ?_, fun hnot => ?_⟩
    · obtain ⟨hsame, row, hrow⟩ := activateSource_leaves hok hkeys
      obtain ⟨-, e, -, hhead, -⟩ := activateSource_ok h.headed hok
      have hcurrent : db'.view.activationEpoch = input.targetEpoch := by
        have hlast : db'.view.activations.getLast? = some row.body :=
          ControlTable.body_of_head hpromoted.headed.activation hrow.head
        simp [activationEpoch, hlast, hrow.arguments.1]
      have hbefore : db'.view.CutoverAt .active input.commandId input.targetEpoch
          (some (.active e)) := by
        simpa only [CutoverAt, ControlDb.view, hsame] using hhead
      cases ControlState.Since.of_runs hpromoted hbefore hcurrent hks with
      | still hcutover hactivation =>
        exact activateSource_retry hok hkeys hcutover hactivation
          (ControlState.sound_activation_of_runs hresolve (hafter.append hks))
      | past c hc hlater =>
        obtain rfl := Option.some.inj (hc.symm.trans hactive)
        exact absurd hlater (lt_irrefl _)
    · have hheaded := (ControlState.Promoted.of_runs (hafter.append hks)).headed
      cases hagain : node.activateSource D H t.db t.clock input with
      | error e => exact ⟨e, rfl⟩
      | ok r =>
        obtain ⟨-, e, -, hactive, -⟩ := activateSource_ok hheaded hagain
        exact absurd hactive (hnot _)

section Sample

/-- The call behind `sampleActive`; the target has no lease yet. -/
def sampleActivateSource : ActivateSourceInput sampleEd25519 where
  commandId := JsString.lit "x"
  targetEpoch := 1
  bReceipt := sampleFinalized "x" 0
  bResolver := sampleKeys
  leaseResolver _ := some ([3] : List UInt8)
  priorTargetLeaseChain := []

/-- Whether the call succeeds now, and whether it still does when the next promotion has begun. -/
def sampleRetry (s : ControlState) : Bool × Bool :=
  let t := (s.apply rollingSha256 sampleHmac sampleControl (.activateSource sampleActivateSource)).apply
    rollingSha256 sampleHmac sampleControl (.beginPromotionIntent (JsString.lit "y") 2)
  ((sampleControl.activateSource rollingSha256 sampleHmac s.db s.clock sampleActivateSource).toBool,
    (sampleControl.activateSource rollingSha256 sampleHmac t.db t.clock sampleActivateSource).toBool)

theorem sample_retry_observed : ∃ s,
    (controlMachine rollingSha256 sampleHmac sampleControl).Reaches (.start 0 none) sampleActive s ∧
    sampleRetry s = (true, false) :=
  Machine.Runs.of_observed _ _ _ (by decide +kernel)

theorem sample_retry : ∃ s grant db',
    (controlMachine rollingSha256 sampleHmac sampleControl).Reaches (.start 0 none) sampleActive s ∧
    sampleControl.activateSource rollingSha256 sampleHmac s.db s.clock sampleActivateSource =
      .ok (grant, db') ∧
    ∃ t, (controlMachine rollingSha256 sampleHmac sampleControl).Reaches { s with db := db' }
        [.beginPromotionIntent (JsString.lit "y") 2] t ∧
      (sampleControl.activateSource rollingSha256 sampleHmac t.db t.clock
        sampleActivateSource).toBool = false := by
  obtain ⟨s, hrun, hobserved⟩ := sample_retry_observed
  obtain ⟨hok, hrefused⟩ := Prod.mk.inj hobserved
  obtain ⟨⟨grant, db'⟩, hok⟩ := exists_ok_of_toBool hok
  rw [ControlState.apply_activateSource hok] at hrefused
  exact ⟨s, grant, db', hrun, hok, _, (Machine.Runs.nil _).snoc trivial rfl, hrefused⟩

end Sample

/-- A source has been activated; once the next promotion has begun, the same call is refused. -/
theorem activation_retry_refused : ∃ s grant db',
    (controlMachine rollingSha256 sampleHmac sampleControl).Reaches (.start 0 none) sampleActive s ∧
    sampleControl.activateSource rollingSha256 sampleHmac s.db s.clock sampleActivateSource =
      .ok (grant, db') ∧
    ∃ t, (controlMachine rollingSha256 sampleHmac sampleControl).Reaches { s with db := db' }
        [.beginPromotionIntent (JsString.lit "y") 2] t ∧
      sampleControl.activateSource rollingSha256 sampleHmac t.db t.clock sampleActivateSource ≠
        .ok (grant, t.db) := by
  obtain ⟨s, grant, db', hrun, hok, t, hbegin, hrefused⟩ := sample_retry
  refine ⟨s, grant, db', hrun, hok, t, hbegin, fun hagain => ?_⟩
  rw [hagain] at hrefused
  cases hrefused

open ControlView in
/-- The first activation of a stream, and its retry. -/
theorem activation_history_sample : ∃ s grant db',
    (controlMachine rollingSha256 sampleHmac sampleControl).Reaches (.start 0 none) sampleActive s ∧
    s.db.view.activations.Pairwise (fun a b => a.epoch < b.epoch) ∧
    sampleControl.activateSource rollingSha256 sampleHmac s.db s.clock sampleActivateSource =
      .ok (grant, db') ∧
    sampleControl.activateSource rollingSha256 sampleHmac db' s.clock sampleActivateSource =
      .ok (grant, db') := by
  obtain ⟨s, grant, db', hrun, hok, -⟩ := sample_retry
  obtain ⟨hincreasing, -, hretry⟩ := activation_history hrun
  have hkeys : ∀ g ∈ sampleControl.sourceGuard, sampleActivateSource.leaseResolver g.keyId =
      some (sampleEd25519.publicKey g.privateKey) := by
    rintro g ⟨⟩
    rfl
  obtain ⟨-, e, -, hhead, -⟩ := activateSource_ok (ControlState.Promoted.of_runs hrun).headed hok
  have hsame := (activateSource_leaves hok hkeys).1
  refine ⟨s, grant, db', hrun, hincreasing, hok,
    (hretry _ grant db' hok rfl hkeys [] _ (.nil _)).1 (some (.active e)) ?_⟩
  simpa only [CutoverAt, ControlDb.view, hsame] using hhead

end TskProtocol
