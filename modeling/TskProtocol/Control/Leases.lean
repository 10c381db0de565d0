import TskProtocol.Control.Cutovers

namespace TskProtocol

open HaControlFencing

theorem le_maxExpiry {rows : List LeaseRow} {row : LeaseRow} (h : row ∈ rows) :
    row.grantedMaxExpiryMs ≤ maxExpiry rows row.epoch := by
  simp only [maxExpiry]
  induction rows with
  | nil => cases h
  | cons first rest ih =>
    rcases List.mem_cons.mp h with rfl | hrest
    · simp
    · by_cases hepoch : first.epoch = row.epoch
      · simpa [hepoch] using .inr (ih hrest)
      · simpa [hepoch] using ih hrest

/-- The high-water expiry of an epoch does not fall when rows are added. -/
theorem maxExpiry_append (rows new : List LeaseRow) (epoch : Nat) :
    maxExpiry rows epoch ≤ maxExpiry (rows ++ new) epoch := by
  induction rows with
  | nil => simp [maxExpiry]
  | cons first rest ih =>
    simp only [maxExpiry, List.cons_append, List.filter_cons] at ih ⊢
    split
    · simp only [List.map_cons, List.foldr_cons]
      exact max_le_max_left _ ih
    · exact ih

/-- Of two rows of one epoch the later one has the same holder and lease, and no earlier
expiry. -/
def LeaseRow.Renews (row next : LeaseRow) : Prop :=
  row.epoch = next.epoch → row.holderNodeId = next.holderNodeId ∧ row.leaseId = next.leaseId ∧
    row.grantedMaxExpiryMs ≤ next.grantedMaxExpiryMs

namespace ControlView

variable {v : ControlView}

def leasesAt (v : ControlView) (epoch : Nat) : List LeaseRow := v.leases.filter (·.epoch = epoch)

/-- What the rows of the lease history have in common. -/
def Renewing (v : ControlView) : Prop := v.leases.Pairwise LeaseRow.Renews

theorem Renewing.snoc {row : LeaseRow} (h : v.Renewing)
    (hidentity : ∀ first ∈ v.leases.find? (·.epoch = row.epoch),
      first.holderNodeId = row.holderNodeId ∧ first.leaseId = row.leaseId)
    (hmonotone : maxExpiry v.leases row.epoch ≤ row.grantedMaxExpiryMs) :
    Renewing { v with leases := v.leases ++ [row] } := by
  rw [Renewing, List.pairwise_append]
  refine ⟨h, List.pairwise_singleton _ _, fun l hl new hnew hepoch => ?_⟩
  obtain rfl := List.mem_singleton.mp hnew
  have hexpiry := le_maxExpiry hl
  rw [hepoch] at hexpiry
  obtain ⟨first, hfirst⟩ : ∃ first, v.leases.find? (·.epoch = new.epoch) = some first := by
    rw [← Option.isSome_iff_exists, List.find?_isSome]
    exact ⟨l, hl, by simpa using hepoch⟩
  have hnew := hidentity first hfirst
  have hfirstEpoch : first.epoch = new.epoch := by
    simpa using List.find?_some hfirst
  -- the first row of the epoch stands before every other one
  obtain ⟨-, front, back, hsplit, hfront⟩ := List.find?_eq_some_iff_append.mp hfirst
  have hsame : first.holderNodeId = l.holderNodeId ∧ first.leaseId = l.leaseId := by
    rw [hsplit] at hl
    rcases List.mem_append.mp hl with hl | hl
    · have := hfront l hl
      simp [hepoch] at this
    · rcases List.mem_cons.mp hl with rfl | hl
      · exact ⟨rfl, rfl⟩
      · rw [Renewing, hsplit, List.pairwise_append] at h
        obtain ⟨hholder, hid, -⟩ :=
          (List.pairwise_cons.mp h.2.1).1 l hl (hfirstEpoch.trans hepoch.symm)
        exact ⟨hholder, hid⟩
  exact ⟨hsame.1.symm.trans hnew.1, hsame.2.symm.trans hnew.2, hexpiry.trans hmonotone⟩

/-- What FENCED at the epoch behind `epoch` has found of the leases of `epoch`. -/
structure LeaseFenced (v : ControlView) (clock epoch : Nat) (row : CutoverRow) : Prop where
  expired : ∃ e, row.evidence = some (.fenced e) ∧
    ∀ l ∈ v.leases, l.epoch = epoch → l.grantedMaxExpiryMs + e.safetyMarginMs ≤ clock
  revoked : ∃ lease, (v.leasesAt epoch).getLast? = some lease ∧ lease.status = .revoked

theorem LeaseFenced.mono {w : ControlView} {clock now epoch : Nat} {row : CutoverRow}
    (h : v.LeaseFenced clock epoch row) (hleases : w.leasesAt epoch = v.leasesAt epoch)
    (hclock : clock ≤ now) : w.LeaseFenced now epoch row := by
  obtain ⟨⟨e, he, hexpired⟩, hrevoked⟩ := h
  refine ⟨⟨e, he, fun l hl hepoch => ?_⟩, hleases.symm ▸ hrevoked⟩
  have hmem : l ∈ w.leasesAt epoch := List.mem_filter.mpr ⟨hl, by simpa using hepoch⟩
  rw [hleases] at hmem
  exact (hexpired l (List.mem_filter.mp hmem).1 hepoch).trans hclock

variable {E : Ed25519} {D : Sha256Bytes} {node : HaControlFencing E} {clock : Nat}
  {l : ControlLabel E} {v' : ControlView}

/-- The lease history grows by rows of the witnessed epoch. -/
theorem Change.leases (h : Change D node clock v l v') : v'.leases = v.leases ∨
    ∃ row, v.Witnessed row.epoch ∧ v'.leases = v.leases ++ [row] := by
  cases h with
  | lease row hwitness => exact .inr ⟨row, hwitness, rfl⟩
  | _ => exact .inl rfl

theorem Change.renewing (h : Change D node clock v l v') (hv : v.Renewing) : v'.Renewing := by
  cases h with
  | lease row _ _ _ _ hidentity hmonotone => exact hv.snoc hidentity hmonotone
  | _ => exact hv

theorem Change.leaseFenced {row : CutoverRow} (h : Change D node clock v l v')
    (hcutovers : v'.cutovers = v.cutovers ++ [row]) (hrow : row.phase = .fenced) :
    v'.LeaseFenced clock (row.epoch - 1) row := by
  cases h with
  | fenced i elapsed cmd target evidence e lease _ _ hlast hepoch hstatus hexpired =>
    obtain rfl : (⟨target, cmd, .fenced, some (.fenced e)⟩ : CutoverRow) = row := by
      simpa [addCutover] using hcutovers
    refine ⟨⟨e, rfl, fun l hl hle => ?_⟩, lease, ?_, hstatus⟩
    · have hexpiry := le_maxExpiry (show l ∈ v.leases from hl)
      rw [hle] at hexpiry
      exact (Nat.add_le_add_right hexpiry _).trans hexpired
    · rcases List.eq_nil_or_concat v.leases with hnil | ⟨front, last, hconcat⟩
      · simp [hnil] at hlast
      · obtain rfl : last = lease := by simpa [hconcat] using hlast
        simp [leasesAt, addCutover, hconcat, List.filter_append, hepoch]
  | preparing | sourceFenced | importing | ready | active | aborted =>
    simp [addCutover] at hcutovers
    simp [← hcutovers] at hrow
  | _ => simp at hcutovers

end ControlView

/-- The clock of the control database does not go back. -/
def ClockForward {E : Ed25519} (s : ControlState) : ControlLabel E → Prop
  | .clock now => s.clock ≤ now
  | _ => True

instance {E : Ed25519} (s : ControlState) (l : ControlLabel E) : Decidable (ClockForward s l) := by
  cases l <;> unfold ClockForward <;> infer_instance

namespace ControlState

open ControlView

variable {E : Ed25519} {D : Sha256Bytes} {H : HmacBytes} {node : HaControlFencing E}
  {s t : ControlState}

/-- From an earlier to a later state of a run. -/
structure LeasesGrow (s t : ControlState) : Prop where
  clock : s.clock ≤ t.clock
  witness : s.db.view.witnessEpoch ≤ t.db.view.witnessEpoch
  leases : s.db.view.leases <+: t.db.view.leases
  /-- Nothing is granted behind the witness. -/
  behind : ∀ epoch < s.db.view.witnessEpoch, t.db.view.leasesAt epoch = s.db.view.leasesAt epoch

theorem LeasesGrow.refl (s : ControlState) : LeasesGrow s s :=
  ⟨le_rfl, le_rfl, List.prefix_rfl, fun _ _ => rfl⟩

theorem LeasesGrow.trans {u : ControlState} (h : LeasesGrow s t) (h' : LeasesGrow t u) :
    LeasesGrow s u where
  clock := h.clock.trans h'.clock
  witness := h.witness.trans h'.witness
  leases := h.leases.trans h'.leases
  behind epoch hepoch :=
    (h'.behind epoch (hepoch.trans_le h.witness)).trans (h.behind epoch hepoch)

variable (D H node) in
/-- Only a step of the clock, and the last part of `advanceEpoch`, move the clock. -/
theorem clock_le_apply {l : ControlLabel E} (h : ClockForward s l) :
    s.clock ≤ (s.apply D H node l).clock := by
  have hsettle : ∀ {α : Type} (x : Except ControlError (α × ControlDb)),
      (s.settle x).clock = s.clock := by
    rintro α (_ | _) <;> rfl
  have hsettleDb : ∀ x : Except ControlError ControlDb, (s.settleDb x).clock = s.clock := by
    rintro (_ | _) <;> rfl
  cases l with
  | clock now => exact h
  | advanceStart =>
    simp only [apply, advanceStart]
    split <;> exact le_rfl
  | advanceClaim =>
    simp only [apply, advanceClaim]
    split <;> exact le_rfl
  | advanceReadBack =>
    simp only [apply, advanceReadBack]
    split
    · split <;> exact le_rfl
    · exact le_rfl
  | advanceFinish i elapsed =>
    simp only [apply, advanceFinish]
    split
    · exact Nat.le_add_right _ _
    · exact le_rfl
  | store => exact le_rfl
  | provisionIntent | provisionIncomplete | provisionProvisioned => exact (hsettleDb _).ge
  | _ => exact (hsettle _).ge

variable (D H node) in
theorem Consistent.leasesGrow {l : ControlLabel E} (h : s.Consistent) (hclock : ClockForward s l) :
    LeasesGrow s (s.apply D H node l) := by
  obtain ⟨runs, hruns⟩ := h.runs
  have hwitness : s.db.view.witnessEpoch ≤ (s.apply D H node l).db.view.witnessEpoch := by
    rcases (h.advances D H node hruns l).witness with ⟨hsame, -⟩ | ⟨_, -, -, hnext, -⟩ <;> omega
  rcases (apply_settles D H node l h.headed).view with hview | hchange
  · exact ⟨clock_le_apply D H node hclock, hwitness, hview ▸ List.prefix_rfl, fun _ _ => by rw [hview]⟩
  · rcases hchange.leases with hleases | ⟨row, hrow, hleases⟩
    · exact ⟨clock_le_apply D H node hclock, hwitness, hleases ▸ List.prefix_rfl, fun _ _ => by
        rw [leasesAt, hleases, leasesAt]⟩
    · refine ⟨clock_le_apply D H node hclock, hwitness, hleases ▸ List.prefix_append _ _,
        fun epoch hepoch => ?_⟩
      have hne : ¬ row.epoch = epoch := by
        rw [witnessEpoch_of_witnessed hrow] at hepoch
        omega
      simp [leasesAt, hleases, List.filter_append, hne]

theorem Consistent.leasesGrow_of_runs {ks : List (ControlLabel E)} (h : s.Consistent)
    (hrun : (controlMachine D H node).Runs ClockForward s ks t) : LeasesGrow s t := by
  refine hrun.relates .refl (fun _ _ _ => .trans) (fun s l t hs _ hstep => ?_)
    (fun s l t hs hclock hstep => ?_) h
  · cases hstep
    exact hs.apply l
  · cases hstep
    exact hs.leasesGrow D H node hclock

theorem renewing_of_runs {clock : Nat} {record : Option FenceRecord}
    {C : ControlState → ControlLabel E → Prop} {ls : List (ControlLabel E)}
    (h : (controlMachine D H node).Runs C (.start clock record) ls s) : s.db.view.Renewing := by
  have hboth : s.db.Headed ∧ s.db.view.Renewing := by
    refine h.invariant (I := fun s => s.db.Headed ∧ s.db.view.Renewing)
      (fun s l t hs _ hstep => ?_) ⟨ControlDb.headed_empty, .nil⟩
    cases hstep
    have hsettles := apply_settles D H node l hs.1
    refine ⟨hsettles.headed hs.1, ?_⟩
    rcases hsettles.view with hview | hchange
    · rw [hview]
      exact hs.2
    · exact hchange.renewing hs.2
  exact hboth.2

end ControlState

open ControlView in
/-- In a run with a clock that does not go back: the leases of an epoch keep their holder and id
and never lose expiry, and the history only grows.  When FENCED is committed, the epoch behind it
ends with a revoked row, every grant of it has been over for the safety margin, and it is never
granted again. -/
theorem fenced_lease_over {E : Ed25519} {D : Sha256Bytes} {H : HmacBytes}
    {node : HaControlFencing E} {clock : Nat} {record : Option FenceRecord}
    {ls : List (ControlLabel E)} {s : ControlState}
    (hrun : (controlMachine D H node).Runs ClockForward (.start clock record) ls s) :
    s.db.view.leases.Pairwise LeaseRow.Renews ∧
    (∀ ks t, (controlMachine D H node).Runs ClockForward s ks t →
      s.db.view.leases <+: t.db.view.leases ∧
      ∀ epoch, maxExpiry s.db.view.leases epoch ≤ maxExpiry t.db.view.leases epoch) ∧
    ∀ l t row, ClockForward s l → (controlMachine D H node).step s l = some t →
      t.db.view.fencedRows = s.db.view.fencedRows ++ [row] →
      ∃ epoch, row.epoch = epoch + 1 ∧ t.db.view.LeaseFenced t.clock epoch row ∧
        ∀ ks u, (controlMachine D H node).Runs ClockForward t ks u →
          u.db.view.leasesAt epoch = t.db.view.leasesAt epoch ∧
          u.db.view.LeaseFenced u.clock epoch row := by
  have h := ControlState.Consistent.of_runs hrun
  refine ⟨ControlState.renewing_of_runs hrun, fun ks t hks => ?_,
    fun l t row hclock hstep hfenced => ?_⟩
  · have hgrow := (h.leasesGrow_of_runs hks).leases
    refine ⟨hgrow, fun epoch => ?_⟩
    obtain ⟨new, hnew⟩ := hgrow
    rw [← hnew]
    exact maxExpiry_append _ _ _
  · cases hstep
    obtain ⟨runs, hruns⟩ := h.runs
    rcases (h.advances D H node hruns l).witness with
      ⟨-, hsame⟩ | ⟨row', hphase, hcutovers, hwitness, hepoch⟩
    · rw [hsame] at hfenced
      simp at hfenced
    · obtain rfl : row' = row := by
        simpa [fencedRows, hcutovers, List.filter_append, hphase] using hfenced
      rcases (ControlState.apply_settles D H node l h.headed).view with hview | hchange
      · rw [hview] at hcutovers
        simp at hcutovers
      · have hrow : row'.epoch = s.db.view.witnessEpoch + 1 := hepoch.trans hwitness
        have hlease := hchange.leaseFenced hcutovers hphase
        rw [hrow, Nat.add_sub_cancel] at hlease
        have hnow := hlease.mono rfl (ControlState.clock_le_apply D H node hclock)
        refine ⟨_, hrow, hnow, fun ks u hks => ?_⟩
        have hgrow := (h.apply l).leasesGrow_of_runs hks
        have hbehind := hgrow.behind s.db.view.witnessEpoch (by omega)
        exact ⟨hbehind, hnow.mono hbehind hgrow.clock⟩

/-- FENCED at epoch 1, a millisecond after the proof that the lease `l` of `a` is over. -/
theorem fenced_lease_over_sample : ∃ s t row,
    (controlMachine rollingSha256 sampleHmac sampleControl).Runs ClockForward (.start 0 none)
      sampleFencing s ∧
    (controlMachine rollingSha256 sampleHmac sampleControl).step s (.advanceFinish 0 1) = some t ∧
    t.db.view.fencedRows = [row] ∧ row.epoch = 1 ∧
    ∃ epoch, row.epoch = epoch + 1 ∧ t.db.view.LeaseFenced t.clock epoch row := by
  obtain ⟨s, hrun, hobserved⟩ := Machine.Runs.of_observed (C := ClockForward)
    (M := controlMachine rollingSha256 sampleHmac sampleControl) (.start 0 none) sampleFencing
    (fun s => (s.db.view.fencedRows.map (·.epoch),
      (s.apply rollingSha256 sampleHmac sampleControl (.advanceFinish 0 1)).db.view.fencedRows.map
        (·.epoch)))
    (b := ([], [1])) (by decide +kernel)
  obtain ⟨hbefore, hafter⟩ := Prod.mk.inj hobserved
  obtain ⟨row, hrow, hepoch⟩ := List.map_eq_singleton_iff.mp hafter
  obtain ⟨epoch, hnext, hover, -⟩ := (fenced_lease_over hrun).2.2 (.advanceFinish 0 1) _ row trivial
    rfl (by rw [hrow, List.map_eq_nil_iff.mp hbefore, List.nil_append])
  exact ⟨s, _, row, hrun, rfl, hrow, hepoch, epoch, hnext, hover⟩

end TskProtocol
