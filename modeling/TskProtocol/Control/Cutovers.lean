import Mathlib.Tactic.IntervalCases
import TskProtocol.Control.Changes

namespace TskProtocol

open HaControlFencing

def promotionPhases : List CutoverPhase :=
  [.preparing, .sourceFenced, .fenced, .importing, .ready, .active]

/-- The phases that a promotion can reach in one step. -/
def CutoverPhase.follows : CutoverPhase → CutoverPhase → Bool
  | .preparing, .sourceFenced => true
  | .sourceFenced, .fenced => true
  | .fenced, .importing => true
  | .importing, .ready => true
  | .ready, .active => true
  | phase, .aborted => phase.postFence
  | _, _ => false

/-- The row of a frozen receipt. -/
def CutoverRow.binds (row : CutoverRow) (frozenReceiptDigest : JsString) : Prop :=
  ∃ sf, row.phase = .sourceFenced ∧ row.evidence = some (.sourceFenced sf) ∧
    sf.frozenReceiptDigest = frozenReceiptDigest

/-- One promotion: its rows stand at one epoch under one command, in the order of the phases, and
what is ratified is bound to the frozen receipt of the same promotion. -/
structure CutoverRun (epoch : Nat) (rows : List CutoverRow) : Prop where
  nonempty : rows ≠ []
  epoch : ∀ row ∈ rows, row.epoch = epoch
  command : ∃ cmd, ∀ row ∈ rows, row.commandId = cmd
  phases : rows.map (·.phase) <+: promotionPhases ∨ ∃ done last, done <+: promotionPhases ∧
    done.getLast? = some last ∧ last.postFence = true ∧ rows.map (·.phase) = done ++ [.aborted]
  ready : ∀ row ∈ rows, row.phase = .ready → ∃ rd, row.evidence = some (.ready rd) ∧
    ∃ f ∈ rows, f.binds rd.frozenReceiptDigest
  active : ∀ row ∈ rows, row.phase = .active → ∃ e, row.evidence = some (.active e) ∧
    ∃ f ∈ rows, f.binds e.frozenReceiptDigest

theorem promotionPhases_take {done : List CutoverPhase} (h : done <+: promotionPhases) :
    ∃ n ≤ 6, done = promotionPhases.take n :=
  ⟨done.length, h.length_le, List.prefix_iff_eq_take.mp h⟩

/-- A promotion that has not been given up goes on with the next phase. -/
theorem promotionPhases_extend {done : List CutoverPhase} {last phase : CutoverPhase}
    (h : done <+: promotionPhases) (hlast : done.getLast? = some last)
    (hfollows : last.follows phase = true) (hphase : phase ≠ .aborted) :
    done ++ [phase] <+: promotionPhases := by
  obtain ⟨n, hn, rfl⟩ := promotionPhases_take h
  have htake : ∀ m ≤ 6, ∀ last phase : CutoverPhase, (promotionPhases.take m).getLast? = some last →
      last.follows phase = true → phase ≠ .aborted →
      promotionPhases.take m ++ [phase] = promotionPhases.take (m + 1) := by
    intro m hm last phase
    interval_cases m <;> cases last <;> cases phase <;> decide
  rw [htake n hn last phase hlast hfollows hphase]
  exact List.take_prefix _ _

namespace CutoverRun

variable {epoch : Nat} {rows : List CutoverRow} {c row : CutoverRow}

theorem single (cmd : JsString) : CutoverRun epoch [⟨epoch, cmd, .preparing, none⟩] where
  nonempty := by simp
  epoch := by simp
  command := ⟨cmd, by simp⟩
  phases := .inl ⟨promotionPhases.tail, rfl⟩
  ready := by simp
  active := by simp

/-- A promotion whose last row is not ABORTED has only gone forward. -/
theorem forward (h : CutoverRun epoch rows) (hlast : rows.getLast? = some c)
    (hc : c.phase ≠ .aborted) : rows.map (·.phase) <+: promotionPhases := by
  rcases h.phases with hforward | ⟨done, last, -, -, -, hphases⟩
  · exact hforward
  · have hphase : (rows.map (·.phase)).getLast? = some c.phase := by
      simp [List.getLast?_map, hlast]
    rw [hphases, List.getLast?_concat] at hphase
    exact absurd (Option.some.inj hphase).symm hc

/-- One more row of the promotion. -/
theorem snoc (h : CutoverRun epoch rows) (hlast : rows.getLast? = some c)
    (hepoch : row.epoch = c.epoch) (hcmd : row.commandId = c.commandId)
    (hfollows : c.phase.follows row.phase = true)
    (hready : row.phase = .ready → ∃ rd, row.evidence = some (.ready rd) ∧
      ∃ f ∈ rows, f.binds rd.frozenReceiptDigest)
    (hactive : row.phase = .active → ∃ e, row.evidence = some (.active e) ∧
      ∃ f ∈ rows, f.binds e.frozenReceiptDigest) :
    CutoverRun epoch (rows ++ [row]) := by
  have hc : c ∈ rows := List.mem_of_getLast? hlast
  have hne : c.phase ≠ .aborted := by
    intro hphase
    rw [hphase] at hfollows
    cases hrow : row.phase <;> simp [hrow, CutoverPhase.follows, CutoverPhase.postFence] at hfollows
  have hforward := h.forward hlast hne
  have hphase : (rows.map (·.phase)).getLast? = some c.phase := by
    simp [List.getLast?_map, hlast]
  refine ⟨by simp, fun r hr => ?_, ?_, ?_, fun r hr hp => ?_, fun r hr hp => ?_⟩
  · rcases List.mem_append.mp hr with hr | hr
    · exact h.epoch r hr
    · rw [List.mem_singleton.mp hr, hepoch]
      exact h.epoch c hc
  · obtain ⟨cmd, hcommand⟩ := h.command
    refine ⟨cmd, fun r hr => ?_⟩
    rcases List.mem_append.mp hr with hr | hr
    · exact hcommand r hr
    · rw [List.mem_singleton.mp hr, hcmd]
      exact hcommand c hc
  · rw [List.map_append, List.map_singleton]
    by_cases habort : row.phase = .aborted
    · refine .inr ⟨_, c.phase, hforward, hphase, ?_, by rw [habort]⟩
      rw [habort] at hfollows
      cases hcp : c.phase <;> simp_all [CutoverPhase.follows]
    · exact .inl (promotionPhases_extend hforward hphase hfollows habort)
  · rcases List.mem_append.mp hr with hr | hr
    · obtain ⟨rd, hrd, f, hf, hbinds⟩ := h.ready r hr hp
      exact ⟨rd, hrd, f, List.mem_append_left _ hf, hbinds⟩
    · rw [List.mem_singleton.mp hr] at hp ⊢
      obtain ⟨rd, hrd, f, hf, hbinds⟩ := hready hp
      exact ⟨rd, hrd, f, List.mem_append_left _ hf, hbinds⟩
  · rcases List.mem_append.mp hr with hr | hr
    · obtain ⟨e, he, f, hf, hbinds⟩ := h.active r hr hp
      exact ⟨e, he, f, List.mem_append_left _ hf, hbinds⟩
    · rw [List.mem_singleton.mp hr] at hp ⊢
      obtain ⟨e, he, f, hf, hbinds⟩ := hactive hp
      exact ⟨e, he, f, List.mem_append_left _ hf, hbinds⟩

end CutoverRun

namespace ControlView

def witnessEpoch (v : ControlView) : Nat := (v.witness.getLast?.map (·.epoch)).getD 0

def fencedRows (v : ControlView) : List CutoverRow := v.cutovers.filter (·.phase = .fenced)

/-- How far the provisioning saga has come. -/
structure Saga (v : ControlView) : Prop where
  none : v.provisioning = [] → v.witness = []
  intent : ∀ p ∈ v.provisioning.getLast?, p.state = .intent → v.witness = []
  incomplete : ∀ p ∈ v.provisioning.getLast?, p.state = .incomplete → v.witness = [⟨0, .incomplete⟩]

/-- The promotions of a stream, one for each epoch from 1 on. -/
structure CutoverRuns (v : ControlView) (runs : List (List CutoverRow)) : Prop where
  rows : v.cutovers = runs.flatten
  run : ∀ i rows, runs[i]? = some rows → CutoverRun (i + 1) rows
  closed : ∀ rows ∈ runs.dropLast, ∀ c ∈ rows.getLast?, c.phase.terminal = true
  /-- The witness is one epoch behind until FENCED. -/
  witness : ∀ c ∈ v.cutovers.getLast?, v.witnessEpoch +
    (if c.phase = .preparing ∨ c.phase = .sourceFenced then 1 else 0) = runs.length
  genesis : v.cutovers = [] → v.witnessEpoch = 0

variable {v : ControlView} {runs : List (List CutoverRow)}

theorem witnessEpoch_of_witnessed {epoch : Nat} (h : v.Witnessed epoch) : v.witnessEpoch = epoch := by
  rw [Witnessed] at h
  simp [witnessEpoch, h]

theorem CutoverRuns.nonempty (h : v.CutoverRuns runs) : ∀ rows ∈ runs, rows ≠ [] := by
  intro rows hrows
  obtain ⟨i, hi⟩ := List.getElem?_of_mem hrows
  exact (h.run i rows hi).nonempty

/-- The cutover head is the last row of the last promotion. -/
theorem CutoverRuns.last {c : CutoverRow} (h : v.CutoverRuns runs)
    (hc : v.cutovers.getLast? = some c) :
    ∃ front rows, runs = front ++ [rows] ∧ rows.getLast? = some c ∧
      CutoverRun (front.length + 1) rows := by
  rcases List.eq_nil_or_concat runs with rfl | ⟨front, rows, rfl⟩
  · rw [h.rows] at hc
    simp at hc
  · rw [List.concat_eq_append] at h ⊢
    refine ⟨front, rows, rfl, ?_, h.run front.length rows (by simp)⟩
    have hne : rows ≠ [] := h.nonempty rows (by simp)
    rw [h.rows, List.flatten_append, List.getLast?_append] at hc
    obtain ⟨last, hlast⟩ := Option.isSome_iff_exists.mp (by simpa using hne : rows.getLast?.isSome)
    simpa [hlast] using hc

theorem CutoverRuns.nil_of_nil (h : v.CutoverRuns runs) (hnil : v.cutovers = []) : runs = [] := by
  have hflat := h.rows
  rw [hnil, eq_comm, List.flatten_eq_nil_iff] at hflat
  exact List.eq_nil_iff_forall_not_mem.mpr
    (fun rows hrows => h.nonempty rows hrows (hflat rows hrows))

/-- Between two promotions the witness stands at the last one. -/
theorem CutoverRuns.witnessEpoch_of_closed (h : v.CutoverRuns runs)
    (hhead : ∀ c ∈ v.cutovers.getLast?, c.phase.terminal = true) : v.witnessEpoch = runs.length := by
  cases hlast : v.cutovers.getLast? with
  | none =>
    have hnil := List.getLast?_eq_none_iff.mp hlast
    rw [h.genesis hnil, h.nil_of_nil hnil]
    rfl
  | some c =>
    have hw := h.witness c hlast
    have hterminal := hhead c hlast
    cases hphase : c.phase <;> simp_all [CutoverPhase.terminal]

/-- A new promotion behind a closed one. -/
theorem CutoverRuns.begin {epoch : Nat} (h : v.CutoverRuns runs) (cmd : JsString)
    (hwitness : v.Witnessed epoch) (hhead : ∀ c ∈ v.cutovers.getLast?, c.phase.terminal = true) :
    (v.addCutover ⟨epoch + 1, cmd, .preparing, none⟩).CutoverRuns
      (runs ++ [[⟨epoch + 1, cmd, .preparing, none⟩]]) := by
  have hepoch : epoch = runs.length :=
    (witnessEpoch_of_witnessed hwitness).symm.trans (h.witnessEpoch_of_closed hhead)
  subst hepoch
  refine ⟨by simp [addCutover, h.rows], fun i rows hi => ?_, fun rows hrows c hc => ?_, ?_, ?_⟩
  · rcases Nat.lt_trichotomy i runs.length with hlt | rfl | hgt
    · rw [List.getElem?_append_left hlt] at hi
      exact h.run i rows hi
    · obtain rfl : [⟨runs.length + 1, cmd, .preparing, none⟩] = rows := by simpa using hi
      exact .single cmd
    · rw [List.getElem?_eq_none (by simp; omega)] at hi
      cases hi
  · rw [List.dropLast_concat] at hrows
    rcases List.eq_nil_or_concat runs with rfl | ⟨front, last, rfl⟩
    · cases hrows
    · rw [List.concat_eq_append] at h hrows
      rcases List.mem_append.mp hrows with hfront | hlast
      · exact h.closed rows (by simpa using hfront) c hc
      · obtain rfl := List.mem_singleton.mp hlast
        have hne : rows ≠ [] := h.nonempty rows (by simp)
        refine hhead c ?_
        rw [h.rows, List.flatten_append, List.getLast?_append]
        simp [Option.mem_def.mp hc]
  · intro c hc
    obtain rfl : (⟨runs.length + 1, cmd, .preparing, none⟩ : CutoverRow) = c := by
      simpa [addCutover] using hc
    have := witnessEpoch_of_witnessed hwitness
    simpa [witnessEpoch, addCutover] using this
  · intro hnil
    simp [addCutover] at hnil

/-- Every row stands in the promotion of its epoch. -/
theorem CutoverRuns.mem_run {row : CutoverRow} (h : v.CutoverRuns runs) (hrow : row ∈ v.cutovers) :
    ∃ i rows, runs[i]? = some rows ∧ row ∈ rows ∧ row.epoch = i + 1 := by
  rw [h.rows] at hrow
  obtain ⟨rows, hrows, hmem⟩ := List.mem_flatten.mp hrow
  obtain ⟨i, hi⟩ := List.getElem?_of_mem hrows
  exact ⟨i, rows, hi, hmem, (h.run i rows hi).epoch row hmem⟩

/-- One more row of the promotion in progress. -/
theorem CutoverRuns.extend {w : ControlView} {c row : CutoverRow} (h : v.CutoverRuns runs)
    (hc : v.cutovers.getLast? = some c) (hcutovers : w.cutovers = v.cutovers ++ [row])
    (hepoch : row.epoch = c.epoch) (hcmd : row.commandId = c.commandId)
    (hfollows : c.phase.follows row.phase = true)
    (hready : row.phase = .ready → ∃ rd, row.evidence = some (.ready rd) ∧
      ∃ f ∈ v.cutovers, f.epoch = row.epoch ∧ f.binds rd.frozenReceiptDigest)
    (hactive : row.phase = .active → ∃ e, row.evidence = some (.active e) ∧
      ∃ f ∈ v.cutovers, f.epoch = row.epoch ∧ f.binds e.frozenReceiptDigest)
    (hwitness : w.witnessEpoch + (if row.phase = .preparing ∨ row.phase = .sourceFenced then 1 else 0)
      = v.witnessEpoch + (if c.phase = .preparing ∨ c.phase = .sourceFenced then 1 else 0)) :
    ∃ runs', w.CutoverRuns runs' ∧ runs'.length = runs.length := by
  obtain ⟨front, rows, rfl, hlast, hrun⟩ := h.last hc
  have hrow : row.epoch = front.length + 1 := hepoch.trans (hrun.epoch c (List.mem_of_getLast? hlast))
  have hmem : ∀ f ∈ v.cutovers, f.epoch = row.epoch → f ∈ rows := by
    intro f hf hfe
    obtain ⟨i, rows', hi, hfrows, hei⟩ := h.mem_run hf
    obtain rfl : i = front.length := by omega
    obtain rfl : rows = rows' := by simpa using hi
    exact hfrows
  have hsnoc : CutoverRun (front.length + 1) (rows ++ [row]) := by
    refine hrun.snoc hlast hepoch hcmd hfollows (fun hp => ?_) (fun hp => ?_)
    · obtain ⟨rd, hrd, f, hf, hfe, hbinds⟩ := hready hp
      exact ⟨rd, hrd, f, hmem f hf hfe, hbinds⟩
    · obtain ⟨e, he, f, hf, hfe, hbinds⟩ := hactive hp
      exact ⟨e, he, f, hmem f hf hfe, hbinds⟩
  have hw := h.witness c hc
  refine ⟨front ++ [rows ++ [row]], ⟨?_, fun i rows' hi => ?_, fun rows' hrows' => ?_, fun d hd => ?_,
    fun hnil => ?_⟩, by simp⟩
  · rw [hcutovers, h.rows]
    simp
  · rcases Nat.lt_trichotomy i front.length with hlt | rfl | hgt
    · rw [List.getElem?_append_left hlt] at hi
      exact h.run i rows' (by rw [List.getElem?_append_left hlt, hi])
    · obtain rfl : rows ++ [row] = rows' := by simpa using hi
      exact hsnoc
    · rw [List.getElem?_eq_none (by simp; omega)] at hi
      cases hi
  · refine h.closed rows' ?_
    simpa using hrows'
  · obtain rfl : row = d := by simpa [hcutovers] using hd
    rw [hwitness, hw]
    simp
  · simp [hcutovers] at hnil

theorem Saga.witnessed {epoch : Nat} (h : v.Saga) (hw : v.Witnessed epoch) :
    ∃ p, v.provisioning.getLast? = some p ∧ p.state = .provisioned := by
  rw [Witnessed] at hw
  cases hlast : v.provisioning.getLast? with
  | none =>
    rw [h.none (List.getLast?_eq_none_iff.mp hlast)] at hw
    simp at hw
  | some p =>
    refine ⟨p, rfl, ?_⟩
    cases hstate : p.state with
    | intent =>
      rw [h.intent p hlast hstate] at hw
      simp at hw
    | incomplete =>
      rw [h.incomplete p hlast hstate] at hw
      simp at hw
    | provisioned => rfl

/-- Behind the saga the witness can be moved freely. -/
theorem Saga.of_witnessed {epoch : Nat} {v' : ControlView} (h : v.Saga) (hw : v.Witnessed epoch)
    (hprov : v'.provisioning = v.provisioning) : v'.Saga := by
  obtain ⟨p, hp, hstate⟩ := h.witnessed hw
  refine ⟨fun hnil => ?_, fun q hq hs => ?_, fun q hq hs => ?_⟩
  · rw [← hprov, hnil] at hp
    simp at hp
  · rw [hprov, hp, Option.mem_some_iff] at hq
    rw [← hq, hstate] at hs
    cases hs
  · rw [hprov, hp, Option.mem_some_iff] at hq
    rw [← hq, hstate] at hs
    cases hs

/-- A change that keeps the provisioning and the witness keeps the saga. -/
theorem Saga.congr {v' : ControlView} (h : v.Saga) (hprov : v'.provisioning = v.provisioning)
    (hwitness : v'.witness = v.witness) : v'.Saga := by
  constructor
  · rw [hprov, hwitness]
    exact h.none
  · rw [hprov, hwitness]
    exact h.intent
  · rw [hprov, hwitness]
    exact h.incomplete

theorem CutoverRuns.congr {v' : ControlView} (h : v.CutoverRuns runs)
    (hcutovers : v'.cutovers = v.cutovers) (hwitness : v'.witnessEpoch = v.witnessEpoch) :
    v'.CutoverRuns runs where
  rows := by rw [hcutovers, h.rows]
  run := h.run
  closed := h.closed
  witness := by
    rw [hcutovers, hwitness]
    exact h.witness
  genesis := by
    rw [hcutovers, hwitness]
    exact h.genesis

theorem evidenceAt_mem {phase : CutoverPhase} {cmd : JsString} {target : Nat} {e : CutoverEvidence}
    (h : v.evidenceAt phase cmd target = some e) :
    (⟨target, cmd, phase, some e⟩ : CutoverRow) ∈ v.cutovers := by
  obtain ⟨row, hrow, hevidence⟩ := Option.bind_eq_some_iff.mp h
  have hrowAt : row.isAt phase cmd target = true :=
    List.find?_some (p := fun r : CutoverRow => r.isAt phase cmd target) hrow
  have hat := isAt_eq_true.mp hrowAt
  have hmem := List.mem_of_find?_eq_some hrow
  rw [hat, hevidence] at hmem
  exact hmem

theorem addCutover_witnessEpoch (row : CutoverRow) : (v.addCutover row).witnessEpoch = v.witnessEpoch :=
  rfl

/-- What one change does to the saga, the promotions and the witness. -/
structure Advances (v v' : ControlView) (runs : List (List CutoverRow)) : Prop where
  saga : v'.Saga
  runs : ∃ runs', v'.CutoverRuns runs' ∧ runs.length ≤ runs'.length
  /-- The witness moves with FENCED, by one epoch, and with nothing else. -/
  witness : (v'.witnessEpoch = v.witnessEpoch ∧ v'.fencedRows = v.fencedRows) ∨
    ∃ row, row.phase = .fenced ∧ v'.cutovers = v.cutovers ++ [row] ∧
      v'.witnessEpoch = v.witnessEpoch + 1 ∧ row.epoch = v'.witnessEpoch

/-- The head of the cutovers and the witness name the same epoch. -/
theorem CutoverRuns.epoch_of_head {c : CutoverRow} (h : v.CutoverRuns runs)
    (hc : v.cutovers.getLast? = some c) : c.epoch = runs.length := by
  obtain ⟨front, rows, rfl, hlast, hrun⟩ := h.last hc
  rw [hrun.epoch c (List.mem_of_getLast? hlast)]
  simp

theorem Advances.of_extend {row : CutoverRow} (hsaga : v.Saga) (h : v.CutoverRuns runs)
    {c : CutoverRow} (hc : v.cutovers.getLast? = some c)
    (hepoch : row.epoch = c.epoch) (hcmd : row.commandId = c.commandId)
    (hfollows : c.phase.follows row.phase = true) (hrow : row.phase ≠ .fenced)
    (hready : row.phase = .ready → ∃ rd, row.evidence = some (.ready rd) ∧
      ∃ f ∈ v.cutovers, f.epoch = row.epoch ∧ f.binds rd.frozenReceiptDigest)
    (hactive : row.phase = .active → ∃ e, row.evidence = some (.active e) ∧
      ∃ f ∈ v.cutovers, f.epoch = row.epoch ∧ f.binds e.frozenReceiptDigest) :
    Advances v (v.addCutover row) runs := by
  obtain ⟨runs', hruns', hlen⟩ := h.extend (w := v.addCutover row) hc rfl hepoch hcmd hfollows hready
    hactive (by
      rw [addCutover_witnessEpoch]
      cases hcp : c.phase <;> cases hrp : row.phase <;>
        simp_all [CutoverPhase.follows, CutoverPhase.postFence])
  refine ⟨hsaga.congr rfl rfl, ⟨runs', hruns', hlen.ge⟩, .inl ⟨rfl, ?_⟩⟩
  simp [fencedRows, addCutover, List.filter_append, hrow]

variable {E : Ed25519} {D : Sha256Bytes} {node : HaControlFencing E} {clock : Nat}
  {l : ControlLabel E} {v' : ControlView}

/-- A change that does not touch the cutovers and keeps the witnessed epoch. -/
theorem Advances.of_congr (h : v.CutoverRuns runs) (hsaga : v'.Saga)
    (hcutovers : v'.cutovers = v.cutovers) (hwitness : v'.witnessEpoch = v.witnessEpoch) :
    Advances v v' runs :=
  ⟨hsaga, ⟨runs, h.congr hcutovers hwitness, le_rfl⟩, .inl ⟨hwitness, by rw [fencedRows, hcutovers, fencedRows]⟩⟩

theorem Advances.of_change (hsaga : v.Saga) (h : v.CutoverRuns runs)
    (hchange : Change D node clock v l v') : Advances v v' runs := by
  cases hchange with
  | intent genesis hnew =>
    refine .of_congr h ⟨by simp, fun _ _ _ => hsaga.none hnew, fun p hp hs => ?_⟩ rfl rfl
    obtain rfl : (⟨genesis, .intent⟩ : ProvisioningRow) = p := by simpa using hp
    cases hs
  | incomplete genesis hhead =>
    have hnil := hsaga.intent _ hhead rfl
    refine .of_congr h ⟨by simp, fun p hp hs => ?_, fun _ _ _ => by simp [hnil]⟩ rfl ?_
    · obtain rfl : (⟨genesis, .incomplete⟩ : ProvisioningRow) = p := by simpa using hp
      cases hs
    · simp [witnessEpoch, hnil]
  | provisioned genesis hhead hgenesis =>
    have hone := hsaga.incomplete _ hhead rfl
    refine .of_congr h ⟨by simp, fun p hp hs => ?_, fun p hp hs => ?_⟩ rfl (by
      simp [witnessEpoch, hone])
    · obtain rfl : (⟨genesis, .provisioned⟩ : ProvisioningRow) = p := by simpa using hp
      cases hs
    · obtain rfl : (⟨genesis, .provisioned⟩ : ProvisioningRow) = p := by simpa using hp
      cases hs
  | lease row => exact .of_congr h (hsaga.congr rfl rfl) rfl rfl
  | preparing cmd epoch hwitness hhead =>
    refine ⟨hsaga.congr rfl rfl, ⟨_, h.begin cmd hwitness hhead, by simp⟩, .inl ⟨rfl, ?_⟩⟩
    simp [fencedRows, addCutover, List.filter_append]
  | sourceFenced cmd target evidence fr resolver hhead =>
    exact .of_extend hsaga h hhead rfl rfl rfl (by simp) (by simp) (by simp)
  | fenced i elapsed cmd target evidence e lease hhead hwitness =>
    have hepoch := witnessEpoch_of_witnessed hwitness
    have hlen := h.epoch_of_head hhead
    have hw := h.witness _ hhead
    have htarget : target = v.witnessEpoch + 1 := by
      simp only [or_true, if_true] at hw
      exact hlen.trans hw.symm
    have hnew : witnessEpoch { v.addCutover ⟨target, cmd, .fenced, some (.fenced e)⟩ with
        witness := v.witness ++ [⟨target, .provisioned⟩] } = v.witnessEpoch + 1 := by
      simp [witnessEpoch] at htarget ⊢
      exact htarget
    obtain ⟨runs', hruns', hlen'⟩ := h.extend
      (w := { v.addCutover ⟨target, cmd, .fenced, some (.fenced e)⟩ with
        witness := v.witness ++ [⟨target, .provisioned⟩] })
      hhead rfl rfl rfl rfl (by simp) (by simp) (by simpa using hnew)
    exact ⟨hsaga.of_witnessed hwitness rfl, ⟨runs', hruns', hlen'.ge⟩,
      .inr ⟨_, rfl, rfl, hnew, htarget.trans hnew.symm⟩⟩
  | importing cmd target evidence hhead =>
    exact .of_extend hsaga h hhead rfl rfl rfl (by simp) (by simp) (by simp)
  | ready cmd target evidence br resolver sf hhead hfreeze _ _ _ hfrozen =>
    refine .of_extend hsaga h hhead rfl rfl rfl (by simp) (fun _ => ?_) (by simp)
    exact ⟨_, rfl, _, evidenceAt_mem hfreeze, rfl, sf, rfl, rfl, hfrozen.symm⟩
  | active cmd target evidence rd hhead hready =>
    refine .of_extend hsaga h hhead rfl rfl rfl (by simp) (by simp) (fun _ => ?_)
    have hmem := evidenceAt_mem hready
    obtain ⟨i, rows, hi, hrow, hepoch⟩ := h.mem_run hmem
    obtain ⟨rd', hrd', f, hf, hbinds⟩ := (h.run i rows hi).ready _ hrow rfl
    obtain rfl : rd = rd' := by simpa using hrd'
    refine ⟨_, rfl, f, ?_, ((h.run i rows hi).epoch f hf).trans hepoch.symm, hbinds⟩
    rw [h.rows]
    exact List.mem_flatten.mpr ⟨rows, List.mem_of_getElem? hi, hf⟩
  | aborted cmd target phase evidence reason hhead hpost =>
    refine .of_extend hsaga h hhead rfl rfl ?_ (by simp) (by simp) (by simp)
    cases phase <;> simp_all [CutoverPhase.follows, CutoverPhase.postFence]
  | activation input sourceGuard e row => exact .of_congr h (hsaga.congr rfl rfl) rfl rfl

end ControlView

namespace ControlState

open ControlView

/-- What every operation keeps of the rows. -/
structure Consistent (s : ControlState) : Prop where
  headed : s.db.Headed
  saga : s.db.view.Saga
  runs : ∃ runs, s.db.view.CutoverRuns runs

variable {E : Ed25519} {D : Sha256Bytes} {H : HmacBytes} {node : HaControlFencing E}
  {s : ControlState}

theorem consistent_start (clock : Nat) (record : Option FenceRecord) :
    (ControlState.start clock record).Consistent where
  headed := ControlDb.headed_empty
  saga := ⟨fun _ => rfl, by simp [start, ControlDb.view], by simp [start, ControlDb.view]⟩
  runs := ⟨[], ⟨rfl, by simp, by simp, by simp [start, ControlDb.view], fun _ => rfl⟩⟩

variable (D H node) in
/-- Each step adds at most one row to the last promotion, or begins the next one. -/
theorem Consistent.advances {runs : List (List CutoverRow)} (h : s.Consistent)
    (hruns : s.db.view.CutoverRuns runs) (l : ControlLabel E) :
    Advances s.db.view (s.apply D H node l).db.view runs := by
  rcases (apply_settles D H node l h.headed).view with hview | hchange
  · rw [hview]
    exact .of_congr hruns h.saga rfl rfl
  · exact .of_change h.saga hruns hchange

theorem Consistent.apply (h : s.Consistent) (l : ControlLabel E) :
    (s.apply D H node l).Consistent := by
  obtain ⟨runs, hruns⟩ := h.runs
  have hadvances := h.advances D H node hruns l
  obtain ⟨runs', hruns', -⟩ := hadvances.runs
  exact ⟨(apply_settles D H node l h.headed).headed h.headed, hadvances.saga,
    runs', hruns'⟩

theorem Consistent.of_runs {clock : Nat} {record : Option FenceRecord}
    {C : ControlState → ControlLabel E → Prop} {ls : List (ControlLabel E)}
    (h : (controlMachine D H node).Runs C (.start clock record) ls s) : s.Consistent := by
  refine h.invariant (fun s l t hs _ hstep => ?_) (consistent_start clock record)
  cases hstep
  exact hs.apply l

end ControlState

open ControlView in
/-- In every state that is reached, the cutover history is one promotion for each epoch from 1 on,
all but the last of them closed.  A step either leaves the witnessed epoch and the FENCED rows
alone, or it records FENCED at the next epoch, which it witnesses. -/
theorem cutover_history {E : Ed25519} {D : Sha256Bytes} {H : HmacBytes}
    {node : HaControlFencing E} {clock : Nat} {record : Option FenceRecord}
    {ls : List (ControlLabel E)} {s : ControlState}
    (hrun : (controlMachine D H node).Reaches (.start clock record) ls s) :
    (∃ runs : List (List CutoverRow), s.db.view.cutovers = runs.flatten ∧
      (∀ i rows, runs[i]? = some rows → CutoverRun (i + 1) rows) ∧
      ∀ rows ∈ runs.dropLast, ∀ c ∈ rows.getLast?, c.phase.terminal = true) ∧
    ∀ l t, (controlMachine D H node).step s l = some t →
      (t.db.view.witnessEpoch = s.db.view.witnessEpoch ∧
        t.db.view.fencedRows = s.db.view.fencedRows) ∨
      (t.db.view.witnessEpoch = s.db.view.witnessEpoch + 1 ∧
        ∃ row, row.phase = .fenced ∧ row.epoch = t.db.view.witnessEpoch ∧
          t.db.view.cutovers = s.db.view.cutovers ++ [row]) := by
  have h := ControlState.Consistent.of_runs hrun
  obtain ⟨runs, hruns⟩ := h.runs
  refine ⟨⟨runs, hruns.rows, hruns.run, hruns.closed⟩, fun l t hstep => ?_⟩
  cases hstep
  rcases (h.advances D H node hruns l).witness with
    hstays | ⟨row, hphase, hcutovers, hwitness, hepoch⟩
  · exact .inl hstays
  · exact .inr ⟨hwitness, row, hphase, hepoch, hcutovers⟩

section Sample

theorem sample_active : ∃ s,
    (controlMachine rollingSha256 sampleHmac sampleControl).Reaches (.start 0 none) sampleActive s ∧
    s.observed = ([.preparing, .sourceFenced, .fenced, .importing, .ready, .active],
      [⟨0, .incomplete⟩, ⟨0, .provisioned⟩, ⟨1, .provisioned⟩], []) :=
  Machine.Runs.of_observed _ _ _ (by decide +kernel)

end Sample

/-- One promotion up to ACTIVE. -/
theorem cutover_history_sample : ∃ s,
    (controlMachine rollingSha256 sampleHmac sampleControl).Reaches (.start 0 none) sampleActive s ∧
    s.db.view.cutovers.length = 6 ∧
    (∃ runs : List (List CutoverRow), s.db.view.cutovers = runs.flatten ∧
      (∀ i rows, runs[i]? = some rows → CutoverRun (i + 1) rows) ∧
      ∀ rows ∈ runs.dropLast, ∀ c ∈ rows.getLast?, c.phase.terminal = true) := by
  obtain ⟨s, hrun, hobserved⟩ := sample_active
  refine ⟨s, hrun, ?_, (cutover_history hrun).1⟩
  have hphases := congrArg (fun o => o.1.length) hobserved
  simpa [ControlState.observed, ControlDb.view] using hphases

end TskProtocol
