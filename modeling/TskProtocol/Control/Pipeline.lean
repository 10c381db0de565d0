import TskProtocol.Control.Installs
import TskProtocol.SourceFence.Activations

namespace TskProtocol

open HaControlFencing

section Receipts

variable {E : Ed25519} {D : Sha256Bytes} {H : HmacBytes} {node : HaControlFencing E}
  {input : ActivateSourceInput E} {grant : LeaseGrant}

/-- The receipt that a call shows. -/
def ControlLabel.shownReceipts : ControlLabel E → List BFinalizedReceipt
  | .activateSource input => [input.bReceipt]
  | _ => []

/-- The hash does not collide on the messages of these receipts. -/
def DistinctReceipts (D : Sha256Bytes) (receipts : List BFinalizedReceipt) : Prop :=
  ∀ a ∈ receipts, ∀ b ∈ receipts, D.hex (bFinalizedMsg a []) = D.hex (bFinalizedMsg b []) →
    bFinalizedMsg a [] = bFinalizedMsg b []

/-- The message of a receipt tells its epoch, behind its stream and its command. -/
theorem epoch_of_bFinalizedMsg {a b : BFinalizedReceipt} (hstream : a.streamId = b.streamId)
    (hcommand : a.commandId = b.commandId) (ha : a.epoch < 10 ^ 20) (hb : b.epoch < 10 ^ 20)
    (h : bFinalizedMsg a [] = bFinalizedMsg b []) : a.epoch = b.epoch := by
  have hshort : ∀ n : Nat, n < 10 ^ 20 → Framing.Short ((num n).map JsString.utf8) := by
    rintro n hn _ ⟨⟩
    rw [JsString.utf8_ascii fun _ => JsString.isAscii_of_mem_ofNat, List.length_map]
    exact (JsString.length_ofNat_le (by decide : 0 < 20) hn).trans_lt (by decide)
  simp only [bFinalizedMsg, frame, List.map_cons, Framing.encode_cons, hstream, hcommand,
    List.append_cancel_left_eq] at h
  obtain ⟨hepoch, -⟩ := Framing.field_append_inj (hshort _ ha) (hshort _ hb) h
  have hbytes : (JsString.ofNat a.epoch).utf8 = (JsString.ofNat b.epoch).utf8 := Option.some.inj hepoch
  exact JsString.ofNat_injective (JsString.utf8_injective (JsString.wellFormed_ofNat _)
    (JsString.wellFormed_ofNat _) hbytes)

theorem ControlView.Change.receipt {now : Nat} {v v' : ControlView} {l : ControlLabel E} {row : ActivationRow}
    (h : Change D node now v l v') (hrow : v'.activations = v.activations ++ [row]) :
    ∃ input, l = .activateSource input ∧ input.bReceipt.streamId = node.streamId ∧
      input.bReceipt.commandId = row.commandId ∧ input.bReceipt.epoch < row.epoch ∧ row.epoch ≤ MAX_EPOCH ∧
      D.hex (bFinalizedMsg input.bReceipt []) = row.bReceiptDigest := by
  cases h with
  | activation input sourceGuard e row' _ hshown _ _ hgap hepoch _ _ hcommand hrowEpoch _ hdigest =>
    obtain rfl := List.singleton_inj.mp (List.append_cancel_left hrow)
    have hreceipt := hshown.receipt
    simp only [verifyBFinalizedReceipt, bind_eq_ok, require_eq_ok] at hreceipt
    obtain ⟨_, hhex, -⟩ := hreceipt
    exact ⟨input, rfl, hshown.receiptStream, hshown.receiptCommand.trans hcommand.symm,
      by rw [hepoch, hrowEpoch]; exact hgap.advances, hrowEpoch ▸ hshown.targetEpoch.2, hhex.trans hdigest.symm⟩
  | _ => exact absurd (congrArg List.length hrow) (by simp [ControlView.addCutover])

/-- A promotion leads past the epoch of the receipt that it is shown. -/
theorem advances_of_activateSource {clock : Nat} {record : Option FenceRecord} {ls : List (ControlLabel E)}
    {s : ControlState} {db' : ControlDb}
    (hrun : (controlMachine D H node).Reaches (.start clock record) ls s)
    (hdistinct : DistinctReceipts D (ls.flatMap ControlLabel.shownReceipts ++ [input.bReceipt]))
    (hok : node.activateSource D H s.db s.clock input = .ok (grant, db')) (hepoch : input.bReceipt.epoch < 10 ^ 20) :
    input.bReceipt.epoch < input.targetEpoch := by
  have hheaded := (ControlState.Consistent.of_runs hrun).headed
  obtain ⟨sourceGuard, e, hshown, -, -, ⟨row, hhead, hcmd, htarget, -, hdigest, -⟩ | hmint⟩ :=
    activateSource_ok hheaded hok
  · -- the grant was minted for an earlier receipt of the same digest
    have hrow : row.body ∈ s.db.view.activations :=
      List.mem_of_getLast? (ControlTable.body_of_head hheaded.activation hhead)
    obtain ⟨l, hl, now, v, v', hchange, hactivations⟩ := activation_of_runs hrun row.body hrow
    obtain ⟨earlier, rfl, hstream, hcommand, hadvances, hmax, hhex⟩ := hchange.receipt hactivations
    have hreceipt := hshown.receipt
    simp only [verifyBFinalizedReceipt, bind_eq_ok, require_eq_ok] at hreceipt
    obtain ⟨_, hreceipt, -⟩ := hreceipt
    have hmsg := hdistinct earlier.bReceipt
      (List.mem_append_left _ (List.mem_flatMap.mpr ⟨_, hl, List.mem_singleton_self _⟩)) input.bReceipt (by simp)
      (hhex.trans (hdigest.trans hreceipt.symm))
    have hlast : MAX_EPOCH = 1099511627776 := rfl
    have hsame := epoch_of_bFinalizedMsg (hstream.trans hshown.receiptStream.symm)
      (hcommand.trans (hcmd.trans hshown.receiptCommand.symm)) (by omega) hepoch hmsg
    omega
  · simp only [mintActivation, assertActivationGap, assertConsumedActivationEpochs, bind_eq_ok, require_eq_ok] at hmint
    obtain ⟨_, -, _, ⟨_, hadvances, -⟩, _, hcurrent, -⟩ := hmint
    rw [hcurrent]
    exact hadvances

end Receipts

section Leases

variable {E : Ed25519} {D : Sha256Bytes} {H : HmacBytes} {node : HaControlFencing E}
  {resolver : SourceVerifyKeyResolver E} {input : ActivateSourceInput E} {sourceGuard : SourceGuard E}
  {grant : LeaseGrant} {now : Nat}

theorem DistinctDigests.mono {grants grants' : List LeaseGrant} (h : DistinctDigests D grants')
    (hsub : grants ⊆ grants') : DistinctDigests D grants := fun a ha b hb => h a (hsub ha) b (hsub hb)

/-- A lease history that lets the grants of a control authority in. -/
structure SourceLeaseTable.Shown (t : SourceLeaseTable) (D : Sha256Bytes) (node : HaControlFencing E)
    (resolver : SourceVerifyKeyResolver E) (input : ActivateSourceInput E) : Prop where
  history : t = leaseTableOf input.priorTargetLeaseChain
  commands : ∀ g ∈ input.priorTargetLeaseChain, g.commandId ≠ input.commandId
  guard : ∀ g ∈ node.sourceGuard, resolver g.keyId = some (E.publicKey g.privateKey)
  verified : ∀ g ∈ input.priorTargetLeaseChain, verifyLeaseGrant E D resolver g = .ok ()

/-- A promotion without a prior chain goes onto an empty lease history. -/
theorem SourceLeaseTable.Shown.empty (hchain : input.priorTargetLeaseChain = [])
    (hguard : ∀ g ∈ node.sourceGuard, resolver g.keyId = some (E.publicKey g.privateKey)) :
    SourceLeaseTable.Shown {} D node resolver input := by
  refine ⟨by rw [hchain]; rfl, ?_, hguard, ?_⟩ <;> simp [hchain]

/-- A grant that is signed behind a chain stands under keys that the chain does not have. -/
theorem fresh_of_signed (hshown : node.Shown D input sourceGuard)
    (hsigned : signLeaseGrant E D sourceGuard.keyId sourceGuard.privateKey (node.promotedGrant sourceGuard
      input.commandId input.targetEpoch input.bReceipt.bKeyId input.priorTargetLeaseChain.getLast? now) = .ok grant)
    (hdistinct : DistinctDigests D (input.priorTargetLeaseChain ++ [grant])) :
    ∀ l ∈ (leaseTableOf input.priorTargetLeaseChain).history,
      l.seq ≠ grant.leaseGrantSeq ∧ l.digest ≠ grant.grantDigest := by
  obtain ⟨hconf, hbare, -, hdigest⟩ := signLeaseGrant_ok hsigned
  have hlast : grant.leaseGrantSeq = input.priorTargetLeaseChain.length + 1 := by
    rw [hbare]
    exact congrArg (· + 1) (seq_of_priorChain hshown.chain)
  rw [← hbare] at hconf hdigest
  intro l hl
  obtain ⟨g, hg, rfl⟩ := List.mem_map.mp hl
  have hseq : g.leaseGrantSeq < grant.leaseGrantSeq := by
    obtain ⟨front, back, hsplit⟩ := List.append_of_mem hg
    have hprior := (priorGrant_of_split (hsplit ▸ hshown.chain)).seq
    have hlength := congrArg List.length hsplit
    simp only [List.length_append, List.length_cons, List.length_reverse] at hlength hprior
    omega
  refine ⟨hseq.ne, fun hsame => ?_⟩
  obtain ⟨seen, hprior⟩ := priorGrant_of_mem hshown.chain hg
  obtain ⟨hconf', hdigest'⟩ := verifyLeaseGrant_ok hprior.verified
  have hmsg := hdistinct g (List.mem_append_left _ hg) grant (by simp) (hdigest'.trans (hsame.trans hdigest))
  exact hseq.ne (congrArg BareLeaseGrant.leaseGrantSeq (leaseGrantMsg_injective hconf' hconf hmsg))

/-- The lease history takes the grant. -/
theorem SourceLeaseTable.Shown.installs {t : SourceLeaseTable} (h : t.Shown D node resolver input)
    (hshown : node.Shown D input sourceGuard)
    (hsigned : signLeaseGrant E D sourceGuard.keyId sourceGuard.privateKey (node.promotedGrant sourceGuard
      input.commandId input.targetEpoch input.bReceipt.bKeyId input.priorTargetLeaseChain.getLast? now) = .ok grant)
    (hdistinct : DistinctDigests D (input.priorTargetLeaseChain ++ [grant])) :
    verifyLeaseGrant E D resolver grant = .ok () ∧
      installLeaseGrantInTx E D resolver t grant = (.ok grant.record, t.append grant.record) := by
  obtain ⟨hconf, hbare, -, -⟩ := signLeaseGrant_ok hsigned
  have hverified := verifyLeaseGrant_of_sign hsigned (h.guard sourceGuard hshown.sourceGuard)
  have hstream : grant.streamId = node.streamId := congrArg BareLeaseGrant.streamId hbare
  have hread : readSourceLease E D resolver grant.streamId (leaseTableOf input.priorTargetLeaseChain) =
      .ok (leaseTableOf input.priorTargetLeaseChain).head := by
    rw [hstream]
    exact readSourceLease_of_sound hconf.streamId (sound_of_priorChain hshown.chain h.verified)
  obtain ⟨rfl, hcommands, -, -⟩ := h
  exact ⟨hverified, installLeaseGrantInTx_of_installs hverified hread
    (installs_of_fresh hshown hbare hcommands) (fresh_of_signed hshown hsigned hdistinct)⟩

/-- What the control authority grants for the receipt of a finalized export is activated. -/
theorem activate_of_promoted {bSystemId gid : JsString} {opts : ReceiverFinalizeOptions E}
    {bundle : SourceExportBundle} {manifest : GuardCountersignedExport} {u final : ReceiverTables}
    {maxSnapshotBytes : Option Nat} {maxBytes clock : Nat} {replay : ReplayedExport} {record : Option FenceRecord}
    {ls : List (ControlLabel E)} {s : ControlState} {db' : ControlDb} {target : TargetDb}
    (haccepted : AcceptedExport E D bSystemId gid opts.toReceiverVerifyOptions bundle manifest u)
    (hverified : verifiedExportSnapshot E D bundle manifest opts.toReceiverVerifyOptions = .ok replay)
    (hfinal : FinalizedAs E D bSystemId u manifest.streamId gid opts manifest replay input.bReceipt final)
    (hinstalled : target.receiver.Installed manifest.streamId gid bundle
      (ReceiverTables.newPointer manifest.streamId gid manifest replay input.bReceipt)
      (ReceiverTables.newGeneration manifest.streamId gid bSystemId manifest replay input.bReceipt))
    (hmax : validateSnapshotBytes maxSnapshotBytes = .ok maxBytes)
    (hbytes : persistedBytes bundle.stageChunks manifest ≤ maxBytes)
    (hrun : (controlMachine D H node).Reaches (.start clock record) ls s)
    (hgrants : DistinctDigests D (ls.flatMap ControlLabel.shownGrants ++ input.priorTargetLeaseChain ++ [grant]))
    (hreceipts : DistinctReceipts D (ls.flatMap ControlLabel.shownReceipts ++ [input.bReceipt]))
    (hok : node.activateSource D H s.db s.clock input = .ok (grant, db')) (htarget : input.targetEpoch ≤ 2147483647)
    (hbehind : target.outbox.Behind (allRecords bundle) manifest.checkpoint input.targetEpoch)
    (hleases : target.leases.Shown D node resolver input)
    (hbounds : (opts.activation resolver input.bReceipt grant input.targetEpoch maxSnapshotBytes).WithinBounds
      maxBytes) :
    ∃ outbox, activateFinalizedReceiverAsSource E D bSystemId target manifest.streamId gid
        (opts.activation resolver input.bReceipt grant input.targetEpoch maxSnapshotBytes) =
        .ok (⟨manifest.streamId, gid, input.targetEpoch, manifest.n, manifest.signedHeadDigestAtN,
          grant.grantDigest⟩, { target with outbox, leases := target.leases.append grant.record }) ∧
      outbox.Imported (allRecords bundle) manifest.checkpoint input.targetEpoch := by
  obtain ⟨sourceGuard, now, hshown, hsigned⟩ := returned_grant hrun
    (hgrants.mono (List.subset_append_left _ _)) hok
  obtain ⟨-, hbare, -, -⟩ := signLeaseGrant_ok hsigned
  rw [List.append_assoc] at hgrants
  obtain ⟨hgrant, hlease⟩ := hleases.installs hshown hsigned (hgrants.mono (List.subset_append_right _ _))
  have hepoch : input.bReceipt.epoch < 10 ^ 20 := by
    have hcolumn := epoch_of_installGeneration hfinal.installs
    rw [hfinal.receipt]
    exact hcolumn
  have hpromotes : grant.Promotes input.bReceipt input.targetEpoch := by
    refine ⟨?_, ?_, ?_, ?_, ?_, advances_of_activateSource hrun hreceipts hok hepoch⟩
    · rw [hshown.receiptStream, hbare]
      rfl
    · rw [hbare]
      rfl
    · rw [hbare]
      rfl
    · rw [hbare]
      rfl
    · rw [hshown.receiptCommand, hbare]
      rfl
  exact activate_returns haccepted hverified hfinal hinstalled hmax hbytes hbounds
    ⟨hshown.targetEpoch.1, htarget⟩ hgrant hpromotes hbehind hlease

end Leases

/-- An export that the receiver has accepted as a new generation is finalized, and what the control authority
then grants for the receipt is activated. -/
theorem receiver_pipeline {E : Ed25519} {D : Sha256Bytes} {H : HmacBytes} {bSystemId gid : JsString}
    {opts : ReceiverFinalizeOptions E} {bundle : SourceExportBundle} {manifest : GuardCountersignedExport}
    {u : ReceiverTables} {maxSnapshotBytes : Option Nat} {maxBytes : Nat}
    (haccepted : AcceptedExport E D bSystemId gid opts.toReceiverVerifyOptions bundle manifest u)
    (hparty : ReceiverParty E bSystemId opts) (hmax : validateSnapshotBytes maxSnapshotBytes = .ok maxBytes)
    (hbytes : persistedBytes bundle.stageChunks manifest ≤ maxBytes) :
    ∃ receipt final, finalizeReceiverGeneration E D bSystemId u manifest.streamId gid opts = .ok (receipt, final) ∧
      ∀ (node : HaControlFencing E) (clock : Nat) (record : Option FenceRecord) (ls : List (ControlLabel E))
        (s : ControlState) (input : ActivateSourceInput E) (grant : LeaseGrant) (db' : ControlDb)
        (resolver : SourceVerifyKeyResolver E) (ks : List (StagingLabel E)) (target : TargetDb),
        (controlMachine D H node).Reaches (.start clock record) ls s →
        DistinctDigests D (ls.flatMap ControlLabel.shownGrants ++ input.priorTargetLeaseChain ++ [grant]) →
        DistinctReceipts D (ls.flatMap ControlLabel.shownReceipts ++ [receipt]) →
        node.activateSource D H s.db s.clock input = .ok (grant, db') →
        input.bReceipt = receipt → input.targetEpoch ≤ 2147483647 →
        (stagingMachine E D bSystemId).Reaches final ks target.receiver →
        target.outbox.Behind (allRecords bundle) manifest.checkpoint input.targetEpoch →
        target.leases.Shown D node resolver input →
        (opts.activation resolver receipt grant input.targetEpoch maxSnapshotBytes).WithinBounds maxBytes →
        ∃ outbox, activateFinalizedReceiverAsSource E D bSystemId target manifest.streamId gid
            (opts.activation resolver receipt grant input.targetEpoch maxSnapshotBytes) =
            .ok (⟨manifest.streamId, gid, input.targetEpoch, manifest.n, manifest.signedHeadDigestAtN,
              grant.grantDigest⟩, { target with outbox, leases := target.leases.append grant.record }) ∧
          outbox.Imported (allRecords bundle) manifest.checkpoint input.targetEpoch := by
  have hlimit : maxBytes ≤ MAX_SNAPSHOT_BYTES := by
    simp only [validateSnapshotBytes, vInt_eq_ok] at hmax
    exact hmax.2 ▸ hmax.1.2
  obtain ⟨replay, receipt, final, hverified, hfinal, hinstalled⟩ := haccepted.finalize hparty (hbytes.trans hlimit)
  refine ⟨receipt, final, hfinal.returns, ?_⟩
  rintro node clock record ls s input grant db' resolver ks target hrun hgrants hreceipts hok rfl htarget hlater
    hbehind hleases hbounds
  exact activate_of_promoted haccepted hverified hfinal (hinstalled.reaches hlater) hmax hbytes hrun hgrants hreceipts
    hok htarget hbehind hleases hbounds

section Sample

instance (sanitize : PayloadSanitizer) (r : ExportedSourceRecord) : Decidable (r.Fits sanitize) :=
  decidable_of_iff (r.signature.length ≤ 4096 ∧ ∀ mutation ∈ (Json.parse r.payload).bind sanitize,
    mutation.tumblerId.fitsIdColumn = true ∧ 1 ≤ mutation.counter ∧ mutation.counter ≤ TSK_HOTP_MAX_COUNTER)
    ⟨fun h => ⟨h.1, h.2⟩, fun h => ⟨h.signature, h.mutation⟩⟩

/-- A ledger of one operation, and what it exports after its lease is revoked. -/
def sampleSingle (tumblerId : String) :
    Except FenceError (SourceFrozenReceipt × SourceExportBundle × SourceExportManifest) := do
  let row ← liftContract (buildRow rollingSha256 sampleFenced.outbox 0 (.genesis (JsString.lit "e"))
    ⟨JsString.lit tumblerId, 5⟩)
  let db : SourceDb := { fence := some 0, checkpoint := some row.entry.checkpoint, rows := [row] }
  let fr ← emitSourceFrozenReceipt sampleEd25519 rollingSha256 (fun _ => some [3]) (JsString.lit "f") [7]
    (leaseTableOf (sampleGrants.dedup.take 2))
    (freezeLedger sampleEd25519 rollingSha256 (fun _ => some [5]) db (JsString.lit "s")) sampleFreezeInput
  let (bundle, manifest) ← buildSourceExportManifest sampleEd25519 rollingSha256 db (JsString.lit "1")
    ⟨fr.streamId, fr.epoch, fr.commandId, fr.sourceNodeId⟩ {
      sourceKeyId := JsString.lit "m"
      sourcePrivateKey := [9]
      sanitize := sampleSanitize
      leaseResolver := fun _ => some [7]
      headResolver := fun _ => some [5]
      frozenReceipt := fr
      maxChunkItems := none }
  return (fr, bundle, manifest)

/-- An export of the ledger under the countersignature of a guard. -/
def sampleCountersigned (tumblerId : String) :
    Except FenceError (SourceFrozenReceipt × SourceExportBundle × GuardCountersignedExport) := do
  let (fr, bundle, manifest) ← sampleSingle tumblerId
  let manifest ← guardCountersignSourceExport sampleEd25519 rollingSha256 bundle manifest {
    guardKeyId := JsString.lit "c"
    guardPrivateKey := [11]
    sourceManifestResolver := fun _ => some [9]
    verifier := sampleVerifier
    frozenReceipt := fr
    expectedCommandId := manifest.commandId }
  return (fr, bundle, manifest)

/-- The options of a receiver that knows the guard. -/
def sampleFinalizing (fr : SourceFrozenReceipt) : ReceiverFinalizeOptions sampleEd25519 where
  verifier := sampleVerifier
  sourceResolver _ := some ([9] : List UInt8)
  guardResolver _ := some ([11] : List UInt8)
  frozenReceipt := fr
  expectedCommandId := fr.commandId
  bVerifyResolver _ := some ([13] : List UInt8)
  bKeyId := JsString.lit "b"
  bPrivateKey := ([13] : List UInt8)

/-- The control authority from its provisioning up to ACTIVE. -/
def samplePromotion (fr : SourceFrozenReceipt) (receipt : BFinalizedReceipt) : List (ControlLabel sampleEd25519) :=
  let cmd := fr.commandId
  [.provisionIntent (JsString.lit "m"), .provisionIncomplete (JsString.lit "m"),
    .provisionProvisioned (JsString.lit "m"), .writeLease (sampleLease "1" 0 .active 50),
    .writeLease (sampleLease "2" 0 .revoked 50), .beginPromotionIntent cmd 1,
    .bindSourceFenced cmd 1 fr (fun _ => some ([7] : List UInt8)), .clock 60,
    .advanceStart { sampleAdvance with commandId := cmd }, .advanceClaim 0, .advanceReadBack 0, .advanceFinish 0 1,
    .markImporting cmd 1, .markReady cmd 1 receipt (fun _ => some ([13] : List UInt8)), .activate cmd 1]

def samplePromoted (receipt : BFinalizedReceipt) : ActivateSourceInput sampleEd25519 where
  commandId := receipt.commandId
  targetEpoch := 1
  bReceipt := receipt
  bResolver _ := some ([13] : List UInt8)
  leaseResolver _ := some ([3] : List UInt8)
  priorTargetLeaseChain := []

/-- Staging an export of the sample, as the generation `g`. -/
def sampleStage (r : SourceFrozenReceipt × SourceExportBundle × GuardCountersignedExport) :
    Except FenceError ReceiverTables :=
  stageReceiverExport sampleEd25519 rollingSha256 {} (JsString.lit "g") r.2.1 r.2.2
    (sampleFinalizing r.1).toReceiverVerifyOptions

def sampleFinalize (r : SourceFrozenReceipt × SourceExportBundle × GuardCountersignedExport) (t : ReceiverTables) :
    Except FenceError (BFinalizedReceipt × ReceiverTables) :=
  finalizeReceiverGeneration sampleEd25519 rollingSha256 (JsString.lit "2") t r.2.2.streamId (JsString.lit "g")
    (sampleFinalizing r.1)

/-- The receiver `2` has no generation for an export of another database, which is within the bounds. -/
def Receivable (t : ReceiverTables) (bundle : SourceExportBundle) (manifest : GuardCountersignedExport) : Prop :=
  t.pointer manifest.streamId = none ∧ JsString.lit "2" ≠ manifest.sourceSystemId ∧ manifest.chunkCount ≤ 100000 ∧
    persistedBytes bundle.stageChunks manifest ≤ 1700

instance (t : ReceiverTables) (bundle : SourceExportBundle) (manifest : GuardCountersignedExport) :
    Decidable (Receivable t bundle manifest) := inferInstanceAs (Decidable (_ ∧ _))

theorem sample_unstorable : ∃ r ∈ (sampleCountersigned "").toOption, ∃ t ∈ (sampleStage r).toOption,
    Receivable t r.2.1 r.2.2 ∧ sampleFinalize r t = .error .constraintViolation := by
  decide +kernel

/-- One export on its way through the stages of the receiver. -/
structure SampleIntake where
  exported : SourceFrozenReceipt × SourceExportBundle × GuardCountersignedExport
  staged : ReceiverTables
  receipt : BFinalizedReceipt
  final : ReceiverTables

def sampleIntake : Option SampleIntake := do
  let exported ← (sampleCountersigned "t").toOption
  let staged ← (sampleStage exported).toOption
  let (receipt, final) ← (sampleFinalize exported staged).toOption
  return { exported, staged, receipt, final }

namespace SampleIntake

variable (s : SampleIntake)

def fr : SourceFrozenReceipt := s.exported.1

def bundle : SourceExportBundle := s.exported.2.1

def manifest : GuardCountersignedExport := s.exported.2.2

/-- What the control authority grants for the receipt. -/
def promoted : Option (ControlState × LeaseGrant × ControlDb) := do
  let control ← (controlMachine rollingSha256 sampleHmac sampleControl).exec (fun _ _ => True) (.start 0 none)
    (samplePromotion s.fr s.receipt)
  let (grant, db) ← (sampleControl.activateSource rollingSha256 sampleHmac control.db control.clock
    (samplePromoted s.receipt)).toOption
  return (control, grant, db)

def options (grant : LeaseGrant) (maxSnapshotBytes : Option Nat) : ImportedSourceActivationOptions sampleEd25519 :=
  (sampleFinalizing s.fr).activation (fun _ => some ([3] : List UInt8)) s.receipt grant 1 maxSnapshotBytes

/-- The activation on a database without a ledger. -/
def activate (grant : LeaseGrant) (fence : Option Nat) (leases : SourceLeaseTable) (maxSnapshotBytes : Option Nat) :
    Except FenceError (ActivatedSource × TargetDb) :=
  activateFinalizedReceiverAsSource sampleEd25519 rollingSha256 (JsString.lit "2")
    { receiver := s.final, outbox := { fence, checkpoint := none }, leases } s.manifest.streamId (JsString.lit "g")
    (s.options grant maxSnapshotBytes)

end SampleIntake

/-- A digest that is given by its digits. -/
def hexDigest (n : Nat) : JsString :=
  (List.range 64).reverse.map fun i => toHexDigit (n / Nat.pow 16 i)

/-- The receipts that the stages of `sampleIntake` hand on. -/
def intakeFrozen : SourceFrozenReceipt where
  streamId := JsString.lit "s"
  commandId := JsString.lit "c"
  epoch := 0
  n := 1
  signedHeadDigestAtN := hexDigest 0x8874555019c54e693aba28e043f9354234ebfd6c0e546a8398934577805dcde7
  sourceStateDigestAtN := hexDigest 0x179e44dae9eaae0ac81a347cd938cd4c78696d39f4fe267ef56ea050f8f56529
  sourceNodeId := JsString.lit "a"
  revokeCommandId := JsString.lit "2"
  leaseId := JsString.lit "l"
  leaseGrantDigest := hexDigest 0xfc91e85a563d7173335baa3533c6a20da0d996e964c96efe3506c6207aaf1914
  receiptDigest := hexDigest 0xdfb072c8ff2707ad70536b1b9db21ad47d8d90bf549b7489a911b5a5ad2c94af
  sourceKeyId := JsString.lit "f"
  sourceSignature := hexDigest 0x5c38d2a57d67213c040851e0f9eaa3492323fcfaafcaaac2f2cc7aa3c14922c8

def intakeFinalized : BFinalizedReceipt where
  streamId := JsString.lit "s"
  commandId := JsString.lit "c"
  epoch := 0
  sourceEpoch := JsString.lit "e"
  n := 1
  generationId := JsString.lit "g"
  frozenReceiptDigest := intakeFrozen.receiptDigest
  manifestDigest := hexDigest 0x8ed5cfa5575f8bd28e43a6c3c583d61653569a2141b7ff69d16fa183de647153
  manifestRoot := hexDigest 0x126c6cb9f0f016a5b71544db86006614b757753fd328dcba7dca73e54c98cbd5
  sourceSystemId := JsString.lit "1"
  sourceKeyId := JsString.lit "m"
  sourceSignature := hexDigest 0x8fcf06327f630c6da30a854f1d93d7c6e134a8afd02f0e8f96fc5bd20c9867a7
  guardKeyId := JsString.lit "c"
  guardSignature := hexDigest 0x7c2e60cbe04659f406357a6d3f9235531cd4f7a1fcba2d1f80d6cb49666408df
  signedHeadDigestAtN := intakeFrozen.signedHeadDigestAtN
  sourceStateDigestAtN := intakeFrozen.sourceStateDigestAtN
  bSystemId := JsString.lit "2"
  receiptDigest := hexDigest 0x14232826a907055b2063c2f8675dd6095336cba36bc9b7cec5444a3774eb0c65
  bKeyId := JsString.lit "b"
  bSignature := hexDigest 0x48091ff83af2b1239b06f6bdad9bfb214819e5566368147c05760a464b257074

/-- What the control authority grants for them. -/
def intakeGrant : LeaseGrant where
  streamId := JsString.lit "s"
  leaseEpoch := 1
  leaseStatus := .active
  holderNodeId := JsString.lit "b"
  leaseId := JsString.lit "bsrc-c"
  commandId := JsString.lit "c"
  leaseExpiresAtMs := 1061
  leaseGrantSeq := 1
  prevGrantDigest := none
  grantDigest := hexDigest 0xd25cf5cec47a2c874a923dc37fa1ceed8fa4ec1968521e3a2e1085aa76a0a9b6
  guardKeyId := JsString.lit "k"
  guardSignature := hexDigest 0xd454328606b7db0e87ff378833b944098c2e264711be00818d0b9908af3fa2c7

def intakeSnapshotJson : JsString :=
  ((sampleFinalizing intakeFrozen).activation (fun _ => some ([3] : List UInt8)) intakeFinalized intakeGrant 1
    none).snapshotJson

theorem sample_intake :
    (∃ s ∈ sampleIntake, (s.fr = intakeFrozen ∧ s.receipt = intakeFinalized) ∧
      Receivable s.staged s.bundle s.manifest ∧ ∀ r ∈ allRecords s.bundle, r.Fits sampleSanitize) ∧
    (∀ text ∈ intakeFinalized.texts, text.utf8.length ≤ CANON_MAX_STRING_BYTES) ∧
    intakeFinalized.toJson.canonical.utf8.length ≤ CANON_MAX_TOTAL_BYTES := by
  refine ⟨?_, ?_⟩
  · decide +kernel
  · decide +kernel

/-- The receipts are longer than the export, with the grant, and the grant does not go on from another
history. -/
theorem sample_grant :
    (∃ control ∈ (controlMachine rollingSha256 sampleHmac sampleControl).exec (fun _ _ => True) (.start 0 none)
        (samplePromotion intakeFrozen intakeFinalized),
      ∃ g ∈ (sampleControl.activateSource rollingSha256 sampleHmac control.db control.clock
        (samplePromoted intakeFinalized)).toOption, g.1 = intakeGrant) ∧
    (1700 < intakeSnapshotJson.utf8.length ∧ intakeSnapshotJson.utf8.length ≤ DEFAULT_SNAPSHOT_BYTES) ∧
    (installLeaseGrantInTx sampleEd25519 rollingSha256 (fun _ => some ([3] : List UInt8))
      (leaseTableOf sampleReusedChain) intakeGrant).1 = .error .leaseSeqNotNext := by
  refine ⟨?_, ?_, ?_⟩
  · decide +kernel
  · decide +kernel
  · decide +kernel

theorem SampleIntake.promotes {s : SampleIntake} (hfr : s.fr = intakeFrozen) (hreceipt : s.receipt = intakeFinalized) :
    ∃ g ∈ s.promoted, 1700 < (s.options g.2.1 none).snapshotJson.utf8.length ∧
      (s.options g.2.1 none).snapshotJson.utf8.length ≤ DEFAULT_SNAPSHOT_BYTES ∧
      (installLeaseGrantInTx sampleEd25519 rollingSha256 (fun _ => some ([3] : List UInt8))
        (leaseTableOf sampleReusedChain) g.2.1).1 = .error .leaseSeqNotNext := by
  obtain ⟨⟨control, hcontrol, ⟨_, db⟩, hgrant, rfl⟩, ⟨hlong, hbytes⟩, hlease⟩ := sample_grant
  refine ⟨(control, intakeGrant, db), ?_, ?_⟩
  · rw [Option.mem_def] at hcontrol hgrant ⊢
    rw [promoted, hfr, hreceipt, hcontrol]
    simp only [Option.bind_eq_bind, Option.bind_some, hgrant, Option.pure_def]
  · rw [options, hfr, hreceipt]
    exact ⟨hlong, hbytes, hlease⟩

/-- The stages of the receiver, one after the other. -/
theorem stages_of_sampleIntake {s : SampleIntake} (h : s ∈ sampleIntake) :
    sampleStage s.exported = .ok s.staged ∧ sampleFinalize s.exported s.staged = .ok (s.receipt, s.final) := by
  simp only [Option.mem_def, sampleIntake, Option.bind_eq_bind, Option.bind_eq_some_iff, toOption_eq_some,
    Option.pure_def, Option.some.injEq] at h
  obtain ⟨exported, -, staged, hstaged, ⟨receipt, final⟩, hfinal, rfl⟩ := h
  exact ⟨hstaged, hfinal⟩

theorem SampleIntake.of_promoted {s : SampleIntake} {control : ControlState} {grant : LeaseGrant}
    {db : ControlDb} (h : (control, grant, db) ∈ s.promoted) :
    (controlMachine rollingSha256 sampleHmac sampleControl).Reaches (.start 0 none)
      (samplePromotion s.fr s.receipt) control ∧
    sampleControl.activateSource rollingSha256 sampleHmac control.db control.clock
      (samplePromoted s.receipt) = .ok (grant, db) := by
  simp only [Option.mem_def, SampleIntake.promoted, Option.bind_eq_bind, Option.bind_eq_some_iff,
    toOption_eq_some, Option.pure_def, Option.some.injEq] at h
  obtain ⟨control', hcontrol, ⟨grant', db'⟩, hgrant, heq⟩ := h
  cases heq
  exact ⟨.of_exec hcontrol, hgrant⟩

theorem SampleIntake.accepted {s : SampleIntake} (hs : s ∈ sampleIntake)
    (hreceivable : Receivable s.staged s.bundle s.manifest)
    (hfits : ∀ r ∈ allRecords s.bundle, r.Fits sampleSanitize) :
    AcceptedExport sampleEd25519 rollingSha256 (JsString.lit "2") (JsString.lit "g")
      (sampleFinalizing s.fr).toReceiverVerifyOptions s.bundle s.manifest s.staged :=
  ⟨⟨[], {}, s.staged, [], .nil _, rfl, (stages_of_sampleIntake hs).1, .nil _⟩, hreceivable.1, hreceivable.2.1,
    hreceivable.2.2.1, hfits⟩

theorem sampleFinalizing_party (fr : SourceFrozenReceipt) :
    ReceiverParty sampleEd25519 (JsString.lit "2") (sampleFinalizing fr) :=
  ⟨(by decide : matchesKeyId (JsString.lit "b") = true), rfl, by decide⟩

theorem default_snapshotBytes : validateSnapshotBytes none = .ok DEFAULT_SNAPSHOT_BYTES := by decide

theorem sample_distinctDigests (fr : SourceFrozenReceipt) (receipt : BFinalizedReceipt) (grant : LeaseGrant) :
    DistinctDigests rollingSha256 ((samplePromotion fr receipt).flatMap ControlLabel.shownGrants ++
      (samplePromoted receipt).priorTargetLeaseChain ++ [grant]) := by
  intro a ha b hb _
  rw [List.mem_singleton.mp ha, List.mem_singleton.mp hb]

theorem sample_distinctReceipts (fr : SourceFrozenReceipt) (receipt : BFinalizedReceipt) :
    DistinctReceipts rollingSha256
      ((samplePromotion fr receipt).flatMap ControlLabel.shownReceipts ++ [receipt]) := by
  intro a ha b hb _
  rw [List.mem_singleton.mp ha, List.mem_singleton.mp hb]

theorem sample_leases (receipt : BFinalizedReceipt) :
    SourceLeaseTable.Shown {} rollingSha256 sampleControl (fun _ => some ([3] : List UInt8))
      (samplePromoted receipt) :=
  .empty rfl (by rintro g ⟨⟩; rfl)

/-- The grant of a sample is activated. -/
theorem SampleIntake.activates {s : SampleIntake} {control : ControlState} {grant : LeaseGrant} {db : ControlDb}
    (hs : s ∈ sampleIntake) (hpromoted : (control, grant, db) ∈ s.promoted)
    (hreceivable : Receivable s.staged s.bundle s.manifest)
    (hfits : ∀ r ∈ allRecords s.bundle, r.Fits sampleSanitize)
    (hbounds : (s.options grant none).WithinBounds DEFAULT_SNAPSHOT_BYTES) :
    ∃ result, s.activate grant none {} none = .ok result := by
  obtain ⟨hcontrol, hgrant⟩ := SampleIntake.of_promoted hpromoted
  have haccepted := SampleIntake.accepted hs hreceivable hfits
  have hbytes : persistedBytes s.bundle.stageChunks s.manifest ≤ DEFAULT_SNAPSHOT_BYTES :=
    hreceivable.2.2.2.trans (by decide)
  obtain ⟨replay, receipt, final, hverified, hfinal, hinstalled⟩ :=
    haccepted.finalize (sampleFinalizing_party s.fr) (hbytes.trans (by decide))
  obtain ⟨rfl, rfl⟩ :=
    Prod.mk.inj (Except.ok.inj ((stages_of_sampleIntake hs).2.symm.trans hfinal.returns))
  obtain ⟨outbox, hok, -⟩ := @activate_of_promoted _ _ _ _ _ (samplePromoted s.receipt) grant _ _ _ _ _ _ _ _ _ _
    _ _ _ _ _ ⟨s.final, { fence := none, checkpoint := none }, {}⟩ haccepted hverified hfinal hinstalled
    default_snapshotBytes hbytes hcontrol (sample_distinctDigests s.fr s.receipt grant)
    (sample_distinctReceipts s.fr s.receipt) hgrant (by decide : 1 ≤ 2147483647) (.empty _ _ _)
    (sample_leases s.receipt) hbounds
  exact ⟨_, hok⟩

end Sample

/-- An operation is exported, staged, finalized and activated on a database without a ledger. -/
theorem receiver_pipeline_sample : ∃ (s : SampleIntake) (grant : LeaseGrant) (outbox : SourceDb),
    sampleFinalize s.exported s.staged = .ok (s.receipt, s.final) ∧
    s.activate grant none {} none = .ok (⟨s.manifest.streamId, JsString.lit "g", 1, s.manifest.n,
      s.manifest.signedHeadDigestAtN, grant.grantDigest⟩,
      { receiver := s.final, outbox, leases := ({} : SourceLeaseTable).append grant.record }) ∧
    outbox.Imported (allRecords s.bundle) s.manifest.checkpoint 1 := by
  obtain ⟨⟨s, hs, ⟨hfr, hreceipt⟩, hreceivable, hfits⟩, hbounds⟩ := sample_intake
  obtain ⟨⟨control, grant, db⟩, hpromoted, -, hsnapshot, -⟩ := SampleIntake.promotes hfr hreceipt
  obtain ⟨htexts, hcanonical⟩ := hreceipt ▸ hbounds
  obtain ⟨hcontrol, hgrant⟩ := SampleIntake.of_promoted hpromoted
  have hfinal := (stages_of_sampleIntake hs).2
  obtain ⟨receipt, final, hfinal', hactivate⟩ := @receiver_pipeline _ _ sampleHmac _ _ _ _ _ _ _ _
    (SampleIntake.accepted hs hreceivable hfits) (sampleFinalizing_party s.fr) default_snapshotBytes
    (hreceivable.2.2.2.trans (by decide))
  obtain ⟨rfl, rfl⟩ := Prod.mk.inj (Except.ok.inj (hfinal.symm.trans hfinal'))
  obtain ⟨outbox, hok, himported⟩ := hactivate sampleControl 0 none _ control (samplePromoted s.receipt) grant db
    _ [] ⟨s.final, { fence := none, checkpoint := none }, {}⟩ hcontrol
    (sample_distinctDigests s.fr s.receipt grant) (sample_distinctReceipts s.fr s.receipt) hgrant rfl
    (by decide : 1 ≤ 2147483647) (.nil _) (.empty _ _ _) (sample_leases s.receipt) ⟨htexts, hcanonical, hsnapshot⟩
  exact ⟨s, grant, outbox, hfinal, hok, himported⟩

/-- A later stage refuses what an earlier one has accepted: an operation without a tumbler id, which no column
holds; and a promotion onto a database without a ledger whose fence is ahead, or whose lease history is not the
one that was shown, or whose bound the receipts alone exceed. -/
theorem receiver_pipeline_refused :
    (∃ r t, sampleStage r = .ok t ∧ Receivable t r.2.1 r.2.2 ∧ sampleFinalize r t = .error .constraintViolation) ∧
    ∃ (s : SampleIntake) (control : ControlState) (grant : LeaseGrant) (db : ControlDb),
      sampleStage s.exported = .ok s.staged ∧ Receivable s.staged s.bundle s.manifest ∧
      sampleFinalize s.exported s.staged = .ok (s.receipt, s.final) ∧
      (controlMachine rollingSha256 sampleHmac sampleControl).Reaches (.start 0 none)
        (samplePromotion s.fr s.receipt) control ∧
      sampleControl.activateSource rollingSha256 sampleHmac control.db control.clock
        (samplePromoted s.receipt) = .ok (grant, db) ∧
      s.activate grant (some 2) {} none = .error .targetFenceAhead ∧
      s.activate grant none (leaseTableOf sampleReusedChain) none = .error .leaseSeqNotNext ∧
      s.activate grant none {} (some 1700) = .error (.outOfRange "snapshot") := by
  refine ⟨?_, ?_⟩
  · obtain ⟨r, -, t, ht, hrefused⟩ := sample_unstorable
    exact ⟨r, t, toOption_eq_some.mp ht, hrefused⟩
  · obtain ⟨⟨s, hs, ⟨hfr, hreceipt⟩, hreceivable, hfits⟩, hbounds⟩ := sample_intake
    obtain ⟨⟨control, grant, db⟩, hpromoted, hlong, hsnapshot, hlease⟩ := SampleIntake.promotes hfr hreceipt
    obtain ⟨htexts, hcanonical⟩ := hreceipt ▸ hbounds
    obtain ⟨hstage, hfinal⟩ := stages_of_sampleIntake hs
    obtain ⟨hcontrol, hgrant⟩ := SampleIntake.of_promoted hpromoted
    obtain ⟨result, hactivates⟩ :=
      SampleIntake.activates hs hpromoted hreceivable hfits ⟨htexts, hcanonical, hsnapshot⟩
    exact ⟨s, control, grant, db, hstage, hreceivable, hfinal, hcontrol, hgrant,
      activate_targetFenceAhead hactivates (by decide : 1 < 2), activate_refusedLease hactivates hlease,
      activate_outOfRange hactivates (by decide) hlong⟩

end TskProtocol
