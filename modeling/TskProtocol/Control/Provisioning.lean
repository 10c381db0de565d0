import TskProtocol.Control.Changes

namespace TskProtocol

open HaControlFencing

/-- The rows of a stream that is provisioned. -/
def sagaRows (marker : JsString) : List ProvisioningRow :=
  [⟨marker, .intent⟩, ⟨marker, .incomplete⟩, ⟨marker, .provisioned⟩]

/-- How far the saga of a marker has come, with the witness rows that belong to it. -/
inductive SagaStage (marker : JsString) : List ProvisioningRow → List WitnessRow → Prop
  | fresh : SagaStage marker [] []
  | intent : SagaStage marker [⟨marker, .intent⟩] []
  | incomplete : SagaStage marker [⟨marker, .intent⟩, ⟨marker, .incomplete⟩] [⟨0, .incomplete⟩]
  | provisioned {advanced : List WitnessRow} : (∀ w ∈ advanced, w.state = .provisioned) →
      SagaStage marker (sagaRows marker) (⟨0, .incomplete⟩ :: ⟨0, .provisioned⟩ :: advanced)

namespace SagaStage

variable {marker : JsString} {rows : List ProvisioningRow} {witness : List WitnessRow}

theorem isPrefix (h : SagaStage marker rows witness) : rows <+: sagaRows marker := by
  cases h with
  | fresh => exact List.nil_prefix
  | intent => exact ⟨_, rfl⟩
  | incomplete => exact ⟨_, rfl⟩
  | provisioned => exact List.prefix_rfl

theorem marker_eq (h : SagaStage marker rows witness) : ∀ p ∈ rows, p.genesisMarker = marker := by
  intro p hp
  have hmem := h.isPrefix.subset hp
  simp only [sagaRows, List.mem_cons, List.not_mem_nil, or_false] at hmem
  rcases hmem with rfl | rfl | rfl <;> rfl

/-- A provisioned witness may move on. -/
theorem advance {w w' : WitnessRow} (h : SagaStage marker rows witness) (hlast : witness.getLast? = some w)
    (hw : w.state = .provisioned) (hw' : w'.state = .provisioned) : SagaStage marker rows (witness ++ [w']) := by
  cases h with
  | fresh => cases hlast
  | intent => cases hlast
  | incomplete =>
    obtain rfl := Option.some.inj hlast
    cases hw
  | provisioned hadvanced =>
    refine .provisioned fun k hk => ?_
    rcases List.mem_append.mp hk with hk | hk
    · exact hadvanced k hk
    · rw [List.mem_singleton.mp hk, hw']

end SagaStage

namespace ControlView

variable {E : Ed25519} {D : Sha256Bytes} {node : HaControlFencing E} {clock : Nat} {v v' : ControlView}
  {l : ControlLabel E} {marker : JsString}

/-- The stage of the stream. -/
def Stage (v : ControlView) (marker : JsString) : Prop := SagaStage marker v.provisioning v.witness

theorem Stage.isPrefix (h : v.Stage marker) : v.provisioning <+: sagaRows marker := SagaStage.isPrefix h

theorem Stage.intended (h : v.Stage marker) {genesis : JsString}
    (hhead : v.provisioning.getLast? = some ⟨genesis, .intent⟩) :
    genesis = marker ∧ v.provisioning = [⟨marker, .intent⟩] ∧ v.witness = [] := by
  rw [Stage] at h
  generalize v.provisioning = rows at h hhead
  generalize v.witness = witness at h
  cases h <;> simp [sagaRows] at hhead ⊢
  exact hhead.symm

theorem Stage.begun (h : v.Stage marker) {genesis : JsString}
    (hhead : v.provisioning.getLast? = some ⟨genesis, .incomplete⟩) :
    genesis = marker ∧ v.provisioning = [⟨marker, .intent⟩, ⟨marker, .incomplete⟩] ∧ v.witness = [⟨0, .incomplete⟩] := by
  rw [Stage] at h
  generalize v.provisioning = rows at h hhead
  generalize v.witness = witness at h
  cases h <;> simp [sagaRows] at hhead ⊢
  exact hhead.symm

theorem Stage.unwitnessed (h : v.Stage marker) (hnil : v.provisioning = []) : v.witness = [] := by
  rw [Stage, hnil] at h
  generalize v.witness = witness at h
  cases h
  rfl

/-- A change goes on with the saga of its marker, or begins the saga of a fresh stream. -/
theorem Stage.of_change (h : v.Stage marker) (hchange : Change D node clock v l v') :
    (v'.Stage marker ∧ (v.provisioning = [] → v'.provisioning = [])) ∨
      v.provisioning = [] ∧ ∃ genesis, l = .provisionIntent genesis ∧ v'.Stage genesis := by
  cases hchange with
  | intent genesis hnil =>
    refine .inr ⟨hnil, genesis, rfl, ?_⟩
    rw [Stage, h.unwitnessed hnil]
    exact .intent
  | incomplete genesis hhead =>
    obtain ⟨rfl, hrows, hwitness⟩ := h.intended hhead
    left
    rw [Stage, hrows, hwitness]
    exact ⟨.incomplete, nofun⟩
  | provisioned genesis hhead _ =>
    obtain ⟨rfl, hrows, hwitness⟩ := h.begun hhead
    left
    rw [Stage, hrows, hwitness]
    exact ⟨.provisioned nofun, nofun⟩
  | fenced _ _ _ _ _ _ _ _ hwitnessed => exact .inl ⟨SagaStage.advance h hwitnessed rfl rfl, id⟩
  | lease => exact .inl ⟨h, id⟩
  | preparing => exact .inl ⟨h, id⟩
  | sourceFenced => exact .inl ⟨h, id⟩
  | importing => exact .inl ⟨h, id⟩
  | ready => exact .inl ⟨h, id⟩
  | active => exact .inl ⟨h, id⟩
  | aborted => exact .inl ⟨h, id⟩
  | activation => exact .inl ⟨h, id⟩

/-- The rows of the saga are never taken back. -/
theorem provisioning_prefix (hchange : Change D node clock v l v') : v.provisioning <+: v'.provisioning := by
  cases hchange with
  | intent genesis hnil =>
    rw [hnil]
    exact List.nil_prefix
  | incomplete => exact List.prefix_append _ _
  | provisioned => exact List.prefix_append _ _
  | _ => exact List.prefix_rfl

end ControlView

def validMarker (marker : JsString) : Prop := 1 ≤ marker.length ∧ marker.length ≤ 512

section Runs

variable {E : Ed25519} {D : Sha256Bytes} {H : HmacBytes} {node : HaControlFencing E} {s t : ControlState}
  {marker : JsString}

/-- What the saga keeps of a stream: its stage, and tables that are read without complaint. -/
structure ControlState.Provisions (D : Sha256Bytes) (H : HmacBytes) (node : HaControlFencing E) (marker : JsString)
    (s : ControlState) : Prop where
  headed : s.db.Headed
  stage : s.db.view.Stage marker
  valid : s.db.view.provisioning ≠ [] → validMarker marker
  sound : node.Sound D H s.db.provisioning
  /-- Until the saga is through, nothing else moves the witness. -/
  witness : s.db.view.witness.length ≤ 1 → node.Sound D H s.db.witness

theorem valid_of_provisionIntent {db db' : ControlDb} (h : node.provisionIntent D H db marker = .ok db') :
    validMarker marker := by
  simp only [provisionIntent, bind_eq_ok, require_eq_ok] at h
  obtain ⟨_, hvalid, -⟩ := h
  exact hvalid

theorem length_history {α : Type} (table : ControlTable α) : table.history.length = table.bodies.length := by
  rw [SignedTable.bodies, List.length_map]

namespace ControlState.Provisions

theorem length_le (h : s.Provisions D H node marker) : s.db.view.provisioning.length ≤ 3 :=
  h.stage.isPrefix.length_le

/-- A step goes on with the saga of the marker, or gives a fresh stream one. -/
theorem apply (h : s.Provisions D H node marker)
    (hresolve : node.resolver node.signer.keyId = some node.signer.secret) (l : ControlLabel E) :
    ∃ marker', (s.apply D H node l).Provisions D H node marker' ∧ (s.db.view.provisioning ≠ [] → marker' = marker) := by
  have hsettles := apply_settles D H node l h.headed
  have hheaded := hsettles.headed h.headed
  have hlength : s.db.provisioning.history.length < MAX_SEQ := by
    have hle : s.db.provisioning.bodies.length ≤ 3 := h.length_le
    rw [length_history, MAX_SEQ]
    omega
  have hsound := hsettles.grows.provisioning.sound h.sound hresolve hlength
  have hwitness : (s.apply D H node l).db.view.witness.length ≤ 1 →
      node.Sound D H (s.apply D H node l).db.witness := by
    intro hle
    rcases hsettles.grows.witness with heq | ⟨body, hbody, heq⟩
    · rw [heq]
      refine h.witness ?_
      rwa [ControlDb.view, heq] at hle
    · have hbefore : s.db.witness.bodies.length = 0 := by
        simpa [ControlDb.view, heq] using hle
      rw [heq]
      refine (h.witness (le_of_eq_of_le hbefore (Nat.zero_le 1))).extend hresolve hbody ?_
      rw [length_history, hbefore]
      decide
  rcases hsettles.view with hview | hchange
  · exact ⟨marker, ⟨hheaded, hview ▸ h.stage, hview ▸ h.valid, hsound, hwitness⟩, fun _ => rfl⟩
  rcases h.stage.of_change hchange with ⟨hstage, hnil⟩ | ⟨hnil, genesis, rfl, hstage⟩
  · exact ⟨marker, ⟨hheaded, hstage, fun hne => h.valid (mt hnil hne), hsound, hwitness⟩, fun _ => rfl⟩
  · refine ⟨genesis, ⟨hheaded, hstage, fun hne => ?_, hsound, hwitness⟩, fun hne => (hne hnil).elim⟩
    cases hresult : node.provisionIntent D H s.db genesis with
    | error e =>
      simp only [ControlState.apply, settleDb, hresult] at hne
      exact (hne hnil).elim
    | ok db' => exact valid_of_provisionIntent hresult

theorem prefix_apply (h : s.Provisions D H node marker) (l : ControlLabel E) :
    s.db.view.provisioning <+: (s.apply D H node l).db.view.provisioning := by
  rcases (apply_settles D H node l h.headed).view with hview | hchange
  · simp only [hview, List.prefix_rfl]
  · exact ControlView.provisioning_prefix hchange

/-- Over a run the rows only grow, and their marker stays. -/
theorem of_runs {C : ControlState → ControlLabel E → Prop} {ls : List (ControlLabel E)}
    (h : s.Provisions D H node marker) (hresolve : node.resolver node.signer.keyId = some node.signer.secret)
    (hrun : (controlMachine D H node).Runs C s ls t) :
    ∃ marker', t.Provisions D H node marker' ∧ (s.db.view.provisioning ≠ [] → marker' = marker) ∧
      s.db.view.provisioning <+: t.db.view.provisioning := by
  induction hrun with
  | nil => exact ⟨marker, h, fun _ => rfl, List.prefix_rfl⟩
  | @snoc t u ls l hrun _ hstep ih =>
    obtain ⟨marker₁, h₁, hsame, hprefix⟩ := ih
    obtain rfl := Option.some.inj hstep
    obtain ⟨marker₂, h₂, hsame₂⟩ := h₁.apply hresolve l
    have hgrown := h₁.prefix_apply l
    refine ⟨marker₂, h₂, fun hne => ?_, hprefix.trans hgrown⟩
    rw [hsame₂ (mt (fun hnil => List.prefix_nil.mp (hnil ▸ hprefix)) hne), hsame hne]

/-- On a stream that has rows, their marker goes on over a run. -/
theorem continues {C : ControlState → ControlLabel E → Prop} {ls : List (ControlLabel E)}
    (h : s.Provisions D H node marker) (hresolve : node.resolver node.signer.keyId = some node.signer.secret)
    (hne : s.db.view.provisioning ≠ []) (hrun : (controlMachine D H node).Runs C s ls t) :
    t.Provisions D H node marker ∧ s.db.view.provisioning <+: t.db.view.provisioning := by
  obtain ⟨marker', h', hsame, hprefix⟩ := h.of_runs hresolve hrun
  exact ⟨hsame hne ▸ h', hprefix⟩

/-- The verified head of the saga. -/
theorem exists_head (h : s.Provisions D H node marker) (hne : s.db.view.provisioning ≠ []) :
    ∃ cur, node.read D H s.db.provisioning = .ok (some cur) ∧ cur.body.genesisMarker = marker ∧
      s.db.view.provisioning.getLast? = some cur.body := by
  cases hhead : s.db.provisioning.head with
  | none => exact (hne (ControlTable.bodies_eq_nil_of_head h.headed.provisioning hhead)).elim
  | some cur =>
    have hlast := ControlTable.body_of_head h.headed.provisioning hhead
    exact ⟨cur, by rw [read_of_sound h.sound, hhead], h.stage.marker_eq _ (List.mem_of_getLast? hlast), hlast⟩

end ControlState.Provisions

end Runs

end TskProtocol
