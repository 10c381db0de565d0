import TskProtocol.SourceFence.Exports
import TskProtocol.SourceFence.Freeze

namespace TskProtocol

variable {E : Ed25519} {D : Sha256Bytes}

/-- What the chunks of a bundle are digested as. -/
def SourceExportBundle.messages (bundle : SourceExportBundle) : List (List UInt8) :=
  bundle.stateChunk.message :: bundle.historyChunks.map ExportHistoryChunk.message

def CollisionFree (D : Sha256Bytes) (messages : List (List UInt8)) : Prop :=
  ∀ a ∈ messages, ∀ b ∈ messages, D.hex a = D.hex b → a = b

instance (messages : List (List UInt8)) : Decidable (CollisionFree D messages) :=
  inferInstanceAs (Decidable (∀ a ∈ messages, ∀ b ∈ messages, D.hex a = D.hex b → a = b))

/-- One manifest binds one bundle, whoever verifies it: its records and its chunks, and the state
that its records replay to. -/
theorem exportBundle_unique {verifier verifier' : ExportVerifier E} {bundle bundle' : SourceExportBundle}
    {manifest : SourceExportManifest} {fr fr' : SourceFrozenReceipt} {replay replay' : ReplayedExport}
    (hcollision : CollisionFree D (bundle.messages ++ bundle'.messages))
    (h : assertExportBundleBinds E D verifier bundle manifest fr = .ok replay)
    (h' : assertExportBundleBinds E D verifier' bundle' manifest fr' = .ok replay') :
    bundle = bundle' ∧
    replaySourceExport E D verifier.sanitize verifier.headResolver manifest.streamId manifest.sourceEpoch
      (allRecords bundle) = .ok replay ∧
    bundle.stateChunk.pairs = replay.derivedStatePairs := by
  have hbinds := assertExportBundleBinds_ok h
  have hbinds' := assertExportBundleBinds_ok h'
  have hmem {b : SourceExportBundle} {c : ExportHistoryChunk} (hc : c ∈ b.historyChunks) : c.message ∈ b.messages :=
    List.mem_cons_of_mem _ (List.mem_map_of_mem hc)
  refine ⟨hbinds.unique hbinds' (fun c hc c' hc' => ?_) ?_, hbinds.replayed, hbinds.pairs⟩
  · exact hcollision _ (List.mem_append_left _ (hmem hc)) _ (List.mem_append_right _ (hmem hc'))
  · exact hcollision _ (List.mem_append_left _ List.mem_cons_self) _
      (List.mem_append_right _ List.mem_cons_self)

section Sample

def sampleVerifier : ExportVerifier sampleEd25519 where
  sanitize := sampleSanitize
  headResolver _ := some [5]
  frozenResolver _ := some [7]

/-- The frozen source, with what it exports under its receipt. -/
def sampleExport : Except FenceError (SourceFrozenReceipt × SourceExportBundle × SourceExportManifest) := do
  let s ← orThrow ((fencedSourceMachine rollingSha256 sampleFenced).exec (fun _ _ => True)
    { outbox := sampleFencedDb } sampleFencedRun) .noLease
  let fr ← s.emit rollingSha256 sampleFenced sampleFreezeOptions sampleFreezeInput
  let (bundle, manifest) ← buildSourceExportManifest sampleEd25519 rollingSha256 s.outbox (JsString.lit "1")
    ⟨fr.streamId, fr.epoch, fr.commandId, fr.sourceNodeId⟩ {
      sourceKeyId := JsString.lit "m"
      sourcePrivateKey := [9]
      sanitize := sampleSanitize
      leaseResolver := fun _ => some [7]
      headResolver := fun _ => some [5]
      frozenReceipt := fr
      maxChunkItems := some 1 }
  return (fr, bundle, manifest)

/-- An export, with what verifying it replays. -/
def sampleBound : Except FenceError
    (SourceFrozenReceipt × SourceExportBundle × SourceExportManifest × ReplayedExport) := do
  let (fr, bundle, manifest) ← sampleExport
  let replay ← assertExportBundleBinds sampleEd25519 rollingSha256 sampleVerifier bundle manifest fr
  return (fr, bundle, manifest, replay)

/-- The number of its chunks, and whether two of them collide. -/
def SourceExportBundle.observe (bundle : SourceExportBundle) : Nat × Bool :=
  (bundle.historyChunks.length, CollisionFree rollingSha256 (bundle.messages ++ bundle.messages))

end Sample

theorem exportBundle_unique_sample : ∃ fr bundle manifest replay,
    assertExportBundleBinds sampleEd25519 rollingSha256 sampleVerifier bundle manifest fr = .ok replay ∧
    bundle.observe = (2, true) ∧
    replaySourceExport sampleEd25519 rollingSha256 sampleSanitize (fun _ => some [5]) manifest.streamId
      manifest.sourceEpoch (allRecords bundle) = .ok replay ∧
    bundle.stateChunk.pairs = replay.derivedStatePairs := by
  have hsample : sampleBound.toOption.map (fun r => r.2.1.observe) = some (2, true) := by decide +kernel
  obtain ⟨⟨fr, bundle, manifest, replay⟩, hbound, hobserve⟩ := Option.map_eq_some_iff.mp hsample
  have hbinds : assertExportBundleBinds sampleEd25519 rollingSha256 sampleVerifier bundle manifest fr =
      .ok replay := by
    have hbound := toOption_eq_some.mp hbound
    simp only [sampleBound, bind_eq_ok, pure_eq_ok, Except.ok.injEq] at hbound
    obtain ⟨⟨fr', bundle', manifest'⟩, -, replay', hbinds, heq⟩ := hbound
    obtain ⟨rfl, rfl, rfl, rfl⟩ := heq
    exact hbinds
  have hcollision : CollisionFree rollingSha256 (bundle.messages ++ bundle.messages) :=
    of_decide_eq_true (Prod.mk.inj hobserve).2
  exact ⟨fr, bundle, manifest, replay, hbinds, hobserve, (exportBundle_unique hcollision hbinds hbinds).2⟩

end TskProtocol
