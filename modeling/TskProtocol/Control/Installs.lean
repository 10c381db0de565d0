import TskProtocol.SourceFence.Lease
import TskProtocol.Control.Activations

namespace TskProtocol

open HaControlFencing

/-- A source database whose lease history is this chain. -/
def leaseTableOf (chain : List LeaseGrant) : SourceLeaseTable where
  head := chain.getLast?.map (·.record)
  history := chain.map (·.record)

section PriorChain

variable {E : Ed25519} {D : Sha256Bytes} {leaseResolver resolver : SourceVerifyKeyResolver E}
  {streamId : JsString} {target : Nat} {chain : List LeaseGrant}

theorem priorGrant_of_mem {g : LeaseGrant}
    (h : checkPriorChain E D leaseResolver streamId target [] chain = .ok ()) (hg : g ∈ chain) :
    ∃ seen, PriorGrant E D leaseResolver streamId target seen g := by
  obtain ⟨front, back, rfl⟩ := List.append_of_mem hg
  exact ⟨front.reverse, priorGrant_of_split h⟩

/-- The last grant of a chain carries its length. -/
theorem seq_of_priorChain
    (h : checkPriorChain E D leaseResolver streamId target [] chain = .ok ()) :
    (chain.getLast?.map (·.leaseGrantSeq)).getD 0 = chain.length := by
  rcases List.eq_nil_or_concat chain with rfl | ⟨front, last, rfl⟩
  · rfl
  · rw [List.concat_eq_append] at h ⊢
    simp [(priorGrant_of_concat h).seq]

theorem chained_of_priorChain
    (h : checkPriorChain E D leaseResolver streamId target [] chain = .ok ()) :
    ∃ n prev, ChainReader.Chained n prev (chain.map (·.record)) := by
  induction chain using List.reverseRecOn with
  | nil => exact ⟨1, none, .nil⟩
  | append_singleton front last ih =>
    obtain ⟨n, prev, hchain⟩ := ih (checkPriorChain_append.mp h).1
    have hlast := priorGrant_of_concat h
    obtain ⟨rfl, rfl⟩ := hchain.next
    rw [List.map_append, List.map_singleton]
    refine ⟨_, _, hchain.snoc ?_ ?_⟩
    · simpa [LeaseGrant.record] using hlast.seq
    · have hprev := hlast.prev
      rw [List.head?_reverse] at hprev
      simpa [LeaseGrant.record, List.getLast?_map, Function.comp_def] using hprev

/-- A database holding a chain that a control authority has accepted reads its own head. -/
theorem sound_of_priorChain
    (h : checkPriorChain E D leaseResolver streamId target [] chain = .ok ())
    (hverified : ∀ g ∈ chain, verifyLeaseGrant E D resolver g = .ok ()) :
    (leaseTableOf chain).Sound (leaseReader E D resolver streamId) where
  headed := by simp [SignedTable.Headed, leaseTableOf, List.getLast?_map]
  chained := chained_of_priorChain h
  valid l hl := by
    obtain ⟨g, hg, rfl⟩ := List.mem_map.mp hl
    obtain ⟨seen, hprior⟩ := priorGrant_of_mem h hg
    have hok := hverified g hg
    rw [← hprior.streamId]
    exact valid_of_verifyLeaseGrant hok

end PriorChain

section Minted

variable {E : Ed25519} {D : Sha256Bytes} {H : HmacBytes} {node : HaControlFencing E}
  {clock : Nat} {db db' : ControlDb} {s : ControlState}

/-- The call that has minted an activation. -/
structure MintedBy (D : Sha256Bytes) (node : HaControlFencing E) (input : ActivateSourceInput E)
    (row : ActivationRow) : Prop where
  grant : ∃ sourceGuard now, node.Shown D input sourceGuard ∧
    signLeaseGrant E D sourceGuard.keyId sourceGuard.privateKey (node.promotedGrant sourceGuard
      input.commandId input.targetEpoch input.bReceipt.bKeyId input.priorTargetLeaseChain.getLast?
      now) = .ok row.grant
  commandId : row.commandId = input.commandId
  epoch : row.epoch = input.targetEpoch
  bKeyId : row.bKeyId = input.bReceipt.bKeyId
  prior : row.priorTargetGrantDigest = input.priorTargetLeaseChain.getLast?.map (·.grantDigest)

theorem ControlView.Change.minted {v v' : ControlView} {l : ControlLabel E}
    (h : Change D node clock v l v') : v'.activations = v.activations ∨
      ∃ input row, l = .activateSource input ∧ MintedBy D node input row ∧
        v'.activations = v.activations ++ [row] := by
  cases h with
  | activation input sourceGuard e row _ hshown _ _ _ _ hsigned _ hcmd hepoch hkey _ hprior =>
    exact .inr ⟨input, row, rfl, ⟨⟨sourceGuard, clock, hshown, hsigned⟩, hcmd, hepoch, hkey, hprior⟩,
      rfl⟩
  | _ => exact .inl rfl

/-- Every activation has been appended by a step of the run. -/
theorem activation_of_runs {clock : Nat} {record : Option FenceRecord}
    {C : ControlState → ControlLabel E → Prop} {ls : List (ControlLabel E)}
    (h : (controlMachine D H node).Runs C (.start clock record) ls s) :
    ∀ row ∈ s.db.view.activations, ∃ l ∈ ls, ∃ now v v', ControlView.Change D node now v l v' ∧
      v'.activations = v.activations ++ [row] := by
  induction h with
  | nil =>
    intro row hrow
    cases hrow
  | @snoc t u ls l hrun _ hstep ih =>
    cases hstep
    have hold : ∀ row ∈ t.db.view.activations, ∃ k ∈ ls ++ [l], ∃ now v v',
        ControlView.Change D node now v k v' ∧ v'.activations = v.activations ++ [row] := by
      intro row hrow
      obtain ⟨k, hmem, hchange⟩ := ih row hrow
      exact ⟨k, List.mem_append_left _ hmem, hchange⟩
    have hheaded := (ControlState.Consistent.of_runs hrun).headed
    rcases (ControlState.apply_settles D H node l hheaded).view with hview | hchange
    · rw [hview]
      exact hold
    · rcases hchange.minted with hsame | ⟨input, row, rfl, -, hactivations⟩
      · rw [hsame]
        exact hold
      · intro row' hrow'
        rw [hactivations] at hrow'
        rcases List.mem_append.mp hrow' with hrow' | hrow'
        · exact hold row' hrow'
        · obtain rfl := List.mem_singleton.mp hrow'
          exact ⟨_, by simp, _, _, _, hchange, hactivations⟩

/-- Every activation has been minted by a call of the run. -/
theorem minted_of_runs {clock : Nat} {record : Option FenceRecord}
    {C : ControlState → ControlLabel E → Prop} {ls : List (ControlLabel E)}
    (h : (controlMachine D H node).Runs C (.start clock record) ls s) :
    ∀ row ∈ s.db.view.activations, ∃ input, .activateSource input ∈ ls ∧ MintedBy D node input row := by
  intro row hrow
  obtain ⟨l, hl, now, v, v', hchange, hactivations⟩ := activation_of_runs h row hrow
  rcases hchange.minted with hsame | ⟨input, row', rfl, hminted, happended⟩
  · rw [hsame] at hactivations
    exact absurd (congrArg List.length hactivations) (by simp)
  · obtain rfl := List.singleton_inj.mp (List.append_cancel_left (happended.symm.trans hactivations))
    exact ⟨input, hl, hminted⟩

end Minted

/-- The lease chain that a call shows. -/
def ControlLabel.shownGrants {E : Ed25519} : ControlLabel E → List LeaseGrant
  | .activateSource input => input.priorTargetLeaseChain
  | _ => []

/-- The hash does not collide on the messages of these grants. -/
def DistinctDigests (D : Sha256Bytes) (grants : List LeaseGrant) : Prop :=
  ∀ a ∈ grants, ∀ b ∈ grants,
    D.hex (leaseGrantMsg a.toBareLeaseGrant []) = D.hex (leaseGrantMsg b.toBareLeaseGrant []) →
      leaseGrantMsg a.toBareLeaseGrant [] = leaseGrantMsg b.toBareLeaseGrant []

section Returned

variable {E : Ed25519} {D : Sha256Bytes} {H : HmacBytes} {node : HaControlFencing E}
  {resolver : SourceVerifyKeyResolver E} {input : ActivateSourceInput E} {sourceGuard : SourceGuard E}
  {grant : LeaseGrant} {now : Nat}

theorem HaControlFencing.Shown.last {input : ActivateSourceInput E} {g : LeaseGrant}
    (h : node.Shown D input sourceGuard) (hg : input.priorTargetLeaseChain.getLast? = some g) :
    g ∈ input.priorTargetLeaseChain ∧ g.Conformant ∧ grantDigestOf D g.toBareLeaseGrant = g.grantDigest := by
  have hmem := List.mem_of_getLast? hg
  obtain ⟨seen, hprior⟩ := priorGrant_of_mem h.chain hmem
  exact ⟨hmem, verifyLeaseGrant_ok hprior.verified⟩

/-- A retry is shown the chain that its grant was minted behind. -/
theorem promotedGrant_congr {earlier : ActivateSourceInput E} {guard' : SourceGuard E}
    {grants : List LeaseGrant} (hdistinct : DistinctDigests D grants)
    (h : node.Shown D input sourceGuard) (h' : node.Shown D earlier guard')
    (hsub : input.priorTargetLeaseChain ⊆ grants) (hsub' : earlier.priorTargetLeaseChain ⊆ grants)
    (hdigest : earlier.priorTargetLeaseChain.getLast?.map (·.grantDigest) =
      input.priorTargetLeaseChain.getLast?.map (·.grantDigest)) (cmd holder : JsString) (target : Nat) :
    node.promotedGrant guard' cmd target holder earlier.priorTargetLeaseChain.getLast? now =
      node.promotedGrant guard' cmd target holder input.priorTargetLeaseChain.getLast? now := by
  have hseq : earlier.priorTargetLeaseChain.getLast?.map (·.leaseGrantSeq) =
      input.priorTargetLeaseChain.getLast?.map (·.leaseGrantSeq) := by
    cases hlast : input.priorTargetLeaseChain.getLast? with
    | none =>
      rw [hlast] at hdigest
      simp only [Option.map_none, Option.map_eq_none_iff] at hdigest
      rw [hdigest]
    | some b =>
      rw [hlast, Option.map_some] at hdigest
      obtain ⟨a, ha, hab⟩ := Option.map_eq_some_iff.mp hdigest
      obtain ⟨hmemA, hconfA, hdigestA⟩ := h'.last ha
      obtain ⟨hmemB, hconfB, hdigestB⟩ := h.last hlast
      have hmsg := hdistinct a (hsub' hmemA) b (hsub hmemB) (hdigestA.trans (hab.trans hdigestB.symm))
      have hbare := leaseGrantMsg_injective hconfA hconfB hmsg
      rw [ha, Option.map_some, Option.map_some, hbare]
  simp only [promotedGrant, hseq, hdigest]

/-- What `activateSource` returns is signed by the guard behind the chain that the call shows. -/
theorem returned_grant {clock : Nat} {record : Option FenceRecord} {ls : List (ControlLabel E)}
    {s : ControlState} {db' : ControlDb}
    (hrun : (controlMachine D H node).Reaches (.start clock record) ls s)
    (hdistinct : DistinctDigests D (ls.flatMap ControlLabel.shownGrants ++ input.priorTargetLeaseChain))
    (hok : node.activateSource D H s.db s.clock input = .ok (grant, db')) :
    ∃ sourceGuard now, node.Shown D input sourceGuard ∧
      signLeaseGrant E D sourceGuard.keyId sourceGuard.privateKey (node.promotedGrant sourceGuard
        input.commandId input.targetEpoch input.bReceipt.bKeyId input.priorTargetLeaseChain.getLast?
        now) = .ok grant := by
  have hheaded := (ControlState.Consistent.of_runs hrun).headed
  obtain ⟨sourceGuard, e, hshown, -, -, ⟨row, hhead, hcmd, hepoch, hkey, -, hprior, rfl, -⟩ | hmint⟩ :=
    activateSource_ok hheaded hok
  · have hrow : row.body ∈ s.db.view.activations :=
      List.mem_of_getLast? (ControlTable.body_of_head hheaded.activation hhead)
    obtain ⟨earlier, hcall, ⟨guard', now, hshown', hsigned⟩, hcmd', hepoch', hkey', hprior'⟩ :=
      minted_of_runs hrun row.body hrow
    have hsub : earlier.priorTargetLeaseChain ⊆
        ls.flatMap ControlLabel.shownGrants ++ input.priorTargetLeaseChain := fun g hg =>
      List.mem_append_left _ (List.mem_flatMap.mpr ⟨_, hcall, hg⟩)
    rw [promotedGrant_congr hdistinct hshown hshown' (List.subset_append_right _ _) hsub
      (hprior'.symm.trans hprior), ← hcmd', ← hepoch', ← hkey', hcmd, hepoch, hkey] at hsigned
    exact ⟨guard', now, by
      rw [Option.some.inj (hshown'.sourceGuard.symm.trans hshown.sourceGuard)]; exact hshown, hsigned⟩
  · simp only [mintActivation, bind_eq_ok, require_eq_ok, check_eq_ok, pure_eq_ok] at hmint
    obtain ⟨_, -, _, -, _, -, now, -, minted, hsigned, _, -, h⟩ := hmint
    cases h
    exact ⟨sourceGuard, now, hshown, hsigned⟩

/-- The grant fits behind the chain, whatever the chain is, but for its command. -/
theorem installs_of_fresh (hshown : node.Shown D input sourceGuard)
    (hgrant : grant.toBareLeaseGrant = node.promotedGrant sourceGuard input.commandId input.targetEpoch
      input.bReceipt.bKeyId input.priorTargetLeaseChain.getLast? now)
    (hfresh : ∀ g ∈ input.priorTargetLeaseChain, g.commandId ≠ input.commandId) :
    Installs (leaseTableOf input.priorTargetLeaseChain) grant := by
  have hepoch : ∀ g ∈ input.priorTargetLeaseChain, g.leaseEpoch < grant.leaseEpoch := by
    intro g hg
    rw [hgrant]
    exact (priorGrant_of_mem hshown.chain hg).choose_spec.epoch
  have hnone : ∀ l ∈ (leaseTableOf input.priorTargetLeaseChain).history,
      l.body.leaseEpoch < grant.leaseEpoch := by
    intro l hl
    obtain ⟨g, hg, rfl⟩ := List.mem_map.mp hl
    exact hepoch g hg
  refine ⟨fun l hl => ?_, fun c hc => ?_, fun first hfirst => ?_, fun _ l hl h => ?_, ?_, ?_⟩
  · obtain ⟨g, hg, rfl⟩ := List.mem_map.mp hl
    rw [hgrant]
    exact hfresh g hg
  · obtain ⟨g, hg, rfl⟩ := Option.map_eq_some_iff.mp hc
    exact (hepoch g (List.mem_of_getLast? hg)).le
  · have hat : first.body.leaseEpoch = grant.leaseEpoch := by
      simpa using List.find?_some hfirst
    exact absurd hat (hnone first (List.mem_of_find?_eq_some hfirst)).ne
  · exact absurd h.1 (hnone l hl).ne
  · rw [hgrant]
    simp [promotedGrant, leaseTableOf, LeaseGrant.record, Function.comp_def]
  · rw [hgrant]
    simp [promotedGrant, leaseTableOf, LeaseGrant.record, Function.comp_def]

end Returned

/-- A source database whose lease history is the chain that `activateSource` was shown installs the
grant that it returns as its new head exactly when no grant of the chain carries the command. -/
theorem activated_grant_installs {E : Ed25519} {D : Sha256Bytes} {H : HmacBytes}
    {node : HaControlFencing E} {clock : Nat} {record : Option FenceRecord}
    {ls : List (ControlLabel E)} {s : ControlState} {input : ActivateSourceInput E}
    {grant : LeaseGrant} {db' : ControlDb} {resolver : SourceVerifyKeyResolver E}
    (hrun : (controlMachine D H node).Reaches (.start clock record) ls s)
    (hdistinct : DistinctDigests D (ls.flatMap ControlLabel.shownGrants ++ input.priorTargetLeaseChain))
    (hok : node.activateSource D H s.db s.clock input = .ok (grant, db'))
    (hguard : ∀ g ∈ node.sourceGuard, resolver g.keyId = some (E.publicKey g.privateKey))
    (hchain : ∀ g ∈ input.priorTargetLeaseChain, verifyLeaseGrant E D resolver g = .ok ()) :
    (∃ installed t, installLeaseGrant E D resolver (leaseTableOf input.priorTargetLeaseChain) grant =
      .ok (installed, t) ∧ t.head = some grant.record) ↔
      ∀ g ∈ input.priorTargetLeaseChain, g.commandId ≠ input.commandId := by
  obtain ⟨sourceGuard, now, hshown, hsigned⟩ := returned_grant hrun hdistinct hok
  obtain ⟨hconf, hbare, -, -⟩ := signLeaseGrant_ok hsigned
  have hseq : grant.leaseGrantSeq = input.priorTargetLeaseChain.length + 1 := by
    rw [hbare]
    exact congrArg (· + 1) (seq_of_priorChain hshown.chain)
  constructor
  · rintro ⟨installed, t, hinstall, hhead⟩ g hg hcmd
    rcases installLeaseGrant_ok hinstall with ⟨rfl, -⟩ | ⟨hinstalls, -⟩
    · -- nothing was installed, and the head is a shorter chain's last grant
      obtain ⟨last, hlast, hrecord⟩ := Option.map_eq_some_iff.mp hhead
      have hlen := seq_of_priorChain hshown.chain
      rw [hlast, Option.map_some, Option.getD_some] at hlen
      have hsame : last.leaseGrantSeq = grant.leaseGrantSeq := congrArg Linked.seq hrecord
      omega
    · refine hinstalls.fresh g.record (List.mem_map_of_mem hg) ?_
      rw [hbare]
      exact hcmd
  · intro hfresh
    have hstream : grant.streamId = node.streamId := by
      rw [hbare]
      rfl
    have hread : readSourceLease E D resolver grant.streamId (leaseTableOf input.priorTargetLeaseChain) =
        .ok (leaseTableOf input.priorTargetLeaseChain).head := by
      rw [hstream]
      refine readSourceLease_of_sound ?_ (sound_of_priorChain hshown.chain hchain)
      rw [← hstream, hbare]
      exact hconf.streamId
    have hverified := verifyLeaseGrant_of_sign hsigned (hguard sourceGuard hshown.sourceGuard)
    exact ⟨grant.record, _, installLeaseGrant_of_installs hverified hread
      (installs_of_fresh hshown hbare hfresh), rfl⟩

/-- The first activation of a stream, installed on an empty database. -/
theorem activated_grant_installs_sample : ∃ s grant db' installed t,
    (controlMachine rollingSha256 sampleHmac sampleControl).Reaches (.start 0 none) sampleActive s ∧
    sampleControl.activateSource rollingSha256 sampleHmac s.db s.clock sampleActivateSource =
      .ok (grant, db') ∧
    installLeaseGrant sampleEd25519 rollingSha256 sampleActivateSource.leaseResolver (leaseTableOf [])
      grant = .ok (installed, t) ∧ t.head = some grant.record := by
  obtain ⟨s, grant, db', hrun, hok, -⟩ := sample_retry
  have hdistinct : DistinctDigests rollingSha256
      (sampleActive.flatMap ControlLabel.shownGrants ++ sampleActivateSource.priorTargetLeaseChain) :=
    fun a ha => by cases ha
  have hguard : ∀ g ∈ sampleControl.sourceGuard, sampleActivateSource.leaseResolver g.keyId =
      some (sampleEd25519.publicKey g.privateKey) := by
    rintro g ⟨⟩
    rfl
  obtain ⟨installed, t, hinstall, hhead⟩ := (activated_grant_installs hrun hdistinct hok hguard
    (fun g hg => by cases hg)).mpr (fun g hg => by cases hg)
  exact ⟨s, grant, db', installed, t, hrun, hok, hinstall, hhead⟩

section Sample

/-- A lease of the target `b`, revoked under the command of the promotion. -/
def sampleReusedChain : List LeaseGrant :=
  let active : BareLeaseGrant := {
    streamId := JsString.lit "s"
    leaseEpoch := 0
    leaseStatus := .active
    holderNodeId := JsString.lit "b"
    leaseId := JsString.lit "l"
    commandId := JsString.lit "1"
    leaseExpiresAtMs := 50
    leaseGrantSeq := 1
    prevGrantDigest := none }
  [sampleGuardGrant active, sampleGuardGrant { active with
    leaseStatus := .revoked
    commandId := JsString.lit "x"
    leaseGrantSeq := 2
    prevGrantDigest := some (grantDigestOf rollingSha256 active) }]

def sampleReused : ActivateSourceInput sampleEd25519 :=
  { sampleActivateSource with priorTargetLeaseChain := sampleReusedChain }

/-- Whether the call succeeds, and whether the database of the chain takes the grant. -/
def sampleInstall (s : ControlState) : Option Bool :=
  (sampleControl.activateSource rollingSha256 sampleHmac s.db s.clock sampleReused).toOption.map
    (fun r => (installLeaseGrant sampleEd25519 rollingSha256 sampleReused.leaseResolver
      (leaseTableOf sampleReusedChain) r.1).toBool)

theorem sample_install : ∃ s,
    (controlMachine rollingSha256 sampleHmac sampleControl).Reaches (.start 0 none) sampleActive s ∧
    sampleInstall s = some false :=
  Machine.Runs.of_observed _ _ _ (by decide +kernel)

end Sample

/-- The command has been used to revoke the lease of the target: its grant is minted, and the
database it is minted for refuses it. -/
theorem reused_command_refused : ∃ s grant db',
    (controlMachine rollingSha256 sampleHmac sampleControl).Reaches (.start 0 none) sampleActive s ∧
    sampleControl.activateSource rollingSha256 sampleHmac s.db s.clock sampleReused =
      .ok (grant, db') ∧
    ¬ ∃ installed t, installLeaseGrant sampleEd25519 rollingSha256 sampleReused.leaseResolver
      (leaseTableOf sampleReused.priorTargetLeaseChain) grant = .ok (installed, t) := by
  obtain ⟨s, hrun, hobserved⟩ := sample_install
  obtain ⟨⟨grant, db'⟩, hgrant, hrefused⟩ := Option.map_eq_some_iff.mp hobserved
  have hok := toOption_eq_some.mp hgrant
  refine ⟨s, grant, db', hrun, hok, ?_⟩
  rintro ⟨installed, t, hinstall⟩
  have hinstall' : installLeaseGrant sampleEd25519 rollingSha256 sampleReused.leaseResolver
      (leaseTableOf sampleReusedChain) grant = .ok (installed, t) := hinstall
  rw [hinstall'] at hrefused
  cases hrefused

end TskProtocol
