import TskProtocol.SourceFence.Bundles
import TskProtocol.SourceFence.Receiver

namespace TskProtocol

variable {E : Ed25519} {D : Sha256Bytes} {bSystemId : JsString} {db db' : ReceiverTables}
  {s gid : JsString} {bundle : SourceExportBundle} {m manifest : GuardCountersignedExport}
  {replay : ReplayedExport}

/-- What no transaction takes back: what is staged, the pointers, and the state under a pointer. -/
structure ReceiverTables.Kept (db db' : ReceiverTables) : Prop where
  stage : ∀ s gid st, db.stage s gid = some st → (db'.stage s gid).map (·.manifest) = some st.manifest
  chunks : ∀ s gid st, db.stage s gid = some st → db'.stageChunks s gid = db.stageChunks s gid
  pointer : ∀ s p, db.pointer s = some p → db'.pointer s = some p
  states : ∀ s p gid, db.pointer s = some p → db'.stateRows s gid = db.stateRows s gid

section Inserts

/-- A loop of inserts appends one row for each element. -/
theorem foldlM_appended {ε σ α β : Type} {f : σ → α → Except ε σ} {row : α → β}
    (append : σ → List β → σ) (hnil : ∀ s, append s [] = s)
    (hcons : ∀ s r rows, append (append s [r]) rows = append s (r :: rows))
    (hf : ∀ s a t, f s a = .ok t → t = append s [row a]) {xs : List α} {s t : σ}
    (h : xs.foldlM f s = .ok t) : t = append s (xs.map row) := by
  induction xs generalizing s with
  | nil =>
    rw [List.map_nil, hnil]
    exact (Except.ok.inj h).symm
  | cons x xs ih =>
    rw [List.foldlM_cons, bind_eq_ok] at h
    obtain ⟨u, hu, hrest⟩ := h
    rw [ih hrest, hf s x u hu, hcons, List.map_cons]

namespace ReceiverTables

/-- The tables with a new generation staged. -/
def staging (db : ReceiverTables) (s gid : JsString) (manifest : GuardCountersignedExport)
    (bundle : SourceExportBundle) : ReceiverTables :=
  { db with
    stages := db.stages ++ [⟨s, gid, manifest, .staged⟩]
    chunks := db.chunks ++ bundle.stageChunks.map (fun c => ⟨c, s, gid⟩) }

theorem insertStage_ok {row : ReceiverStage} (h : db.insertStage row = .ok db') :
    db' = { db with stages := db.stages ++ [row] } := by
  simp only [insertStage, bind_eq_ok, pure_eq_ok, Except.ok.injEq] at h
  obtain ⟨_, -, rfl⟩ := h
  rfl

theorem insertStageChunk_ok {row : ReceiverStageChunk} (h : db.insertStageChunk row = .ok db') :
    db' = { db with chunks := db.chunks ++ [row] } := by
  simp only [insertStageChunk, bind_eq_ok, pure_eq_ok, Except.ok.injEq] at h
  obtain ⟨_, -, rfl⟩ := h
  rfl

theorem insertState_ok {row : ReceiverStateRow} (h : db.insertState row = .ok db') :
    db' = { db with states := db.states ++ [row] } := by
  simp only [insertState, bind_eq_ok, pure_eq_ok, Except.ok.injEq] at h
  obtain ⟨_, -, rfl⟩ := h
  rfl

theorem insertStageChunks_ok {cs : List StageChunk}
    (h : cs.foldlM (fun db c => db.insertStageChunk ⟨c, s, gid⟩) db = .ok db') :
    db' = { db with chunks := db.chunks ++ cs.map (fun c => ⟨c, s, gid⟩) } := by
  refine foldlM_appended (fun db rows => { db with chunks := db.chunks ++ rows }) (fun db => ?_)
    (fun db r rows => ?_) (fun db c u hu => insertStageChunk_ok hu) h
  · simp only [List.append_nil]
  · simp only [List.append_assoc, List.singleton_append]

theorem insertStates_ok {pairs : List StatePair}
    (h : pairs.foldlM (fun db pair => db.insertState ⟨s, gid, pair.1, pair.2⟩) db = .ok db') :
    db' = { db with states := db.states ++ pairs.map (fun pair => ⟨s, gid, pair.1, pair.2⟩) } := by
  refine foldlM_appended (fun db rows => { db with states := db.states ++ rows }) (fun db => ?_)
    (fun db r rows => ?_) (fun db pair u hu => insertState_ok hu) h
  · simp only [List.append_nil]
  · simp only [List.append_assoc, List.singleton_append]

/-- The generation that an install writes. -/
def newGeneration (s gid bSystemId : JsString) (m : GuardCountersignedExport) (replay : ReplayedExport)
    (receipt : BFinalizedReceipt) : ReceiverGeneration :=
  ⟨s, gid, m, replay.signedHeadDigestAtN, replay.sourceStateDigestAtN, bSystemId, receipt⟩

def newPointer (s gid : JsString) (m : GuardCountersignedExport) (replay : ReplayedExport)
    (receipt : BFinalizedReceipt) : ReceiverPointer :=
  ⟨s, gid, m.n, replay.signedHeadDigestAtN, replay.sourceStateDigestAtN, receipt⟩

/-- A stage row after its generation is sealed. -/
def sealed (s gid : JsString) (row : ReceiverStage) : ReceiverStage :=
  if row.streamId = s && row.generationId = gid && row.status = .staged then { row with status := .installed }
  else row

theorem installGeneration_ok {receipt : BFinalizedReceipt}
    (h : installGeneration db s gid bSystemId m replay receipt = .ok db') :
    db.pointer s = none ∧
    db' = { db with
      stages := db.stages.map (sealed s gid)
      generations := db.generations ++ [newGeneration s gid bSystemId m replay receipt]
      pointers := db.pointers ++ [newPointer s gid m replay receipt]
      states := db.states ++ replay.derivedStatePairs.map (fun pair => ⟨s, gid, pair.1, pair.2⟩) } := by
  simp only [installGeneration, insertGeneration, insertPointer, sealStage, bind_eq_ok, require_eq_ok,
    pure_eq_ok, Except.ok.injEq] at h
  obtain ⟨_, ⟨_, -, rfl⟩, db₂, hstates, _, ⟨_, ⟨-, -, -, -, -, -, hnone⟩, rfl⟩, _, -, rfl⟩ := h
  obtain rfl := insertStates_ok hstates
  exact ⟨Option.isNone_iff_eq_none.mp hnone, rfl⟩

@[simp] theorem sealed_streamId (row : ReceiverStage) : (sealed s gid row).streamId = row.streamId := by
  simp only [sealed]
  split <;> rfl

@[simp] theorem sealed_generationId (row : ReceiverStage) :
    (sealed s gid row).generationId = row.generationId := by
  simp only [sealed]
  split <;> rfl

@[simp] theorem sealed_manifest (row : ReceiverStage) : (sealed s gid row).manifest = row.manifest := by
  simp only [sealed]
  split <;> rfl

end ReceiverTables

end Inserts

section Kept

namespace ReceiverTables

theorem Kept.refl (db : ReceiverTables) : db.Kept db where
  stage _ _ st h := by rw [h, Option.map_some]
  chunks _ _ _ _ := rfl
  pointer _ _ h := h
  states _ _ _ _ := rfl

theorem Kept.trans {db'' : ReceiverTables} (h : db.Kept db') (h' : db'.Kept db'') : db.Kept db'' where
  stage s gid st hst := by
    obtain ⟨st', hst', hmanifest⟩ := Option.map_eq_some_iff.mp (h.stage s gid st hst)
    rw [h'.stage s gid st' hst', hmanifest]
  chunks s gid st hst := by
    obtain ⟨st', hst', -⟩ := Option.map_eq_some_iff.mp (h.stage s gid st hst)
    rw [h'.chunks s gid st' hst', h.chunks s gid st hst]
  pointer s p hp := h'.pointer s p (h.pointer s p hp)
  states s p gid hp := (h'.states s p gid (h.pointer s p hp)).trans (h.states s p gid hp)

theorem Kept.rebuilt (h : db.Kept db') (hrebuild : rebuildStagedBundle db s gid = .ok (bundle, manifest)) :
    rebuildStagedBundle db' s gid = .ok (bundle, manifest) := by
  simp only [rebuildStagedBundle, bind_eq_ok, orThrow_eq_ok] at hrebuild ⊢
  obtain ⟨st, hst, hrest⟩ := hrebuild
  obtain ⟨st', hst', hmanifest⟩ := Option.map_eq_some_iff.mp (h.stage s gid st hst)
  refine ⟨st', hst', ?_⟩
  rw [hmanifest, h.chunks s gid st hst]
  exact hrest

theorem kept_staging (hnone : db.stage s gid = none) : db.Kept (db.staging s gid manifest bundle) where
  stage s' gid' st hst := by
    simp only [stage, staging, List.find?_append] at hst ⊢
    rw [hst, Option.some_or, Option.map_some]
  chunks s' gid' st hst := by
    have hother : ¬ (s = s' ∧ gid = gid') := by
      rintro ⟨rfl, rfl⟩
      rw [hnone] at hst
      cases hst
    simp only [stageChunks, staging, List.filter_append, List.append_right_eq_self, List.filter_eq_nil_iff,
      List.forall_mem_map, Bool.and_eq_true, decide_eq_true_eq]
    exact fun _ _ => hother
  pointer _ _ h := h
  states _ _ _ _ := rfl

theorem kept_installed {receipt : BFinalizedReceipt}
    (h : installGeneration db s gid bSystemId m replay receipt = .ok db') : db.Kept db' := by
  obtain ⟨hnone, rfl⟩ := installGeneration_ok h
  have hother {s' : JsString} {p : ReceiverPointer} (hp : db.pointer s' = some p) : s ≠ s' := by
    rintro rfl
    rw [hnone] at hp
    cases hp
  constructor
  case stage =>
    intro s' gid' st hst
    simp only [stage, List.find?_map, Function.comp_def, sealed_streamId, sealed_generationId] at hst ⊢
    rw [hst]
    exact congrArg some (sealed_manifest st)
  case chunks => exact fun _ _ _ _ => rfl
  case pointer =>
    intro s' p hp
    simp only [pointer, List.find?_append] at hp ⊢
    rw [hp, Option.some_or]
  case states =>
    intro s' p gid' hp
    simp only [stateRows, List.filter_append, List.map_append, List.append_right_eq_self, List.map_eq_nil_iff,
      List.filter_eq_nil_iff, List.forall_mem_map, Bool.and_eq_true, decide_eq_true_eq]
    exact fun _ _ heq => hother hp heq.1

end ReceiverTables

end Kept

section Calls

/-- A chunk of the bundle, or its manifest, is not the one that is staged. -/
def ReceiverTables.Conflicts (db : ReceiverTables) (gid : JsString) (bundle : SourceExportBundle)
    (manifest : GuardCountersignedExport) : Prop :=
  (db.stage manifest.streamId gid).map (·.manifest.canonicalDigest) ≠ some manifest.canonicalDigest ∨
  ∃ c ∈ bundle.stageChunks,
    (db.stageChunk manifest.streamId gid c.ordinal).map (·.byteDigest) ≠ some c.byteDigest

/-- A generation is staged once; a later call compares, and writes nothing. -/
theorem stageReceiverExport_ok {opts : ReceiverVerifyOptions E}
    (h : stageReceiverExport E D db gid bundle manifest opts = .ok db') :
    ¬ db.Conflicts gid bundle manifest ∧ db' = db ∨
    db.stage manifest.streamId gid = none ∧ db' = db.staging manifest.streamId gid manifest bundle := by
  simp only [stageReceiverExport, bind_eq_ok, vId_eq_ok] at h
  obtain ⟨_, ⟨-, rfl⟩, _, -, _, ⟨-, rfl⟩, h⟩ := h
  split at h
  case h_1 st hst =>
    simp only [bind_eq_ok, require_eq_ok, pure_eq_ok, Except.ok.injEq] at h
    obtain ⟨_, hmanifest, _, hchunks, rfl⟩ := h
    refine .inl ⟨?_, rfl⟩
    rintro (hother | ⟨c, hc, hother⟩)
    · exact hother (by rw [hst, Option.map_some, hmanifest])
    · exact hother (hchunks c hc)
  case h_2 hst =>
    simp only [bind_eq_ok] at h
    obtain ⟨_, hstage, hchunks⟩ := h
    obtain rfl := ReceiverTables.insertStage_ok hstage
    exact .inr ⟨hst, ReceiverTables.insertStageChunks_ok hchunks⟩

/-- What a finalize verifies before it looks at the pointer. -/
structure Reverified (E : Ed25519) (D : Sha256Bytes) (bSystemId : JsString) (db : ReceiverTables)
    (s gid : JsString) (opts : ReceiverFinalizeOptions E) (bundle : SourceExportBundle)
    (manifest : GuardCountersignedExport) (replay : ReplayedExport) : Prop where
  streamId : matchesStreamId 512 s = true
  generationId : matchesId gid = true
  bKeyId : matchesKeyId opts.bKeyId = true
  rebuilt : rebuildStagedBundle db s gid = .ok (bundle, manifest)
  stream : manifest.streamId = s
  verified : verifiedExportSnapshot E D bundle manifest opts.toReceiverVerifyOptions = .ok replay
  distinct : bSystemId ≠ manifest.sourceSystemId

variable {opts : ReceiverFinalizeOptions E} {receipt : BFinalizedReceipt} {ptr : ReceiverPointer}

theorem Reverified.kept (h : Reverified E D bSystemId db s gid opts bundle manifest replay)
    (hkept : db.Kept db') : Reverified E D bSystemId db' s gid opts bundle manifest replay :=
  { h with rebuilt := hkept.rebuilt h.rebuilt }

theorem Reverified.binds (h : Reverified E D bSystemId db s gid opts bundle manifest replay) :
    Binds E D opts.verifier bundle manifest.toSourceExportManifest replay := by
  have hverified := h.verified
  simp only [verifiedExportSnapshot, bind_eq_ok] at hverified
  obtain ⟨_, -, _, -, _, -, hbinds⟩ := hverified
  exact assertExportBundleBinds_ok hbinds

/-- A finalize under a pointer returns the stored receipt, and writes nothing. -/
theorem finalize_pointer (hptr : db.pointer s = some ptr) :
    finalizeReceiverGeneration E D bSystemId db s gid opts = .ok (receipt, db') ↔
      (∃ bundle manifest replay, Reverified E D bSystemId db s gid opts bundle manifest replay ∧
        verifyBFinalizedReceipt E D opts.bVerifyResolver ptr.bFinalizedReceipt = .ok () ∧
        ptr.bFinalizedReceipt.manifestDigest = manifest.canonicalDigest ∧
        ptr.bFinalizedReceipt.manifestRoot = manifest.manifestRoot) ∧
      ptr.activeGenerationId = gid ∧ receipt = ptr.bFinalizedReceipt ∧ db' = db := by
  simp only [finalizeReceiverGeneration, bind_eq_ok, vId_eq_ok, require_eq_ok]
  constructor
  · rintro ⟨_, ⟨hs, rfl⟩, _, ⟨hgid, rfl⟩, _, ⟨hkey, rfl⟩, ⟨bundle, manifest⟩, hrebuilt, _, ⟨-, rfl⟩, _, hstream,
      replay, hverified, _, hdistinct, h⟩
    simp only [hptr, bind_eq_ok, require_eq_ok, pure_eq_ok, Except.ok.injEq, Prod.mk.injEq] at h
    obtain ⟨_, hactive, _, hreceipt, _, hdigests, rfl, rfl⟩ := h
    exact ⟨⟨bundle, manifest, replay, ⟨hs, hgid, hkey, hrebuilt, hstream, hverified, hdistinct⟩, hreceipt,
      hdigests⟩, hactive, rfl, rfl⟩
  · rintro ⟨⟨bundle, manifest, replay, h, hreceipt, hdigests⟩, hactive, rfl, rfl⟩
    refine ⟨_, ⟨h.streamId, rfl⟩, _, ⟨h.generationId, rfl⟩, _, ⟨h.bKeyId, rfl⟩, _, h.rebuilt, _,
      ⟨h.stream ▸ h.streamId, rfl⟩, (), h.stream, replay, h.verified, (), h.distinct, ?_⟩
    simp only [hptr, bind_eq_ok, require_eq_ok, pure_eq_ok]
    exact ⟨(), hactive, (), hreceipt, (), hdigests, trivial⟩

/-- The first finalize of a stream installs the generation under the receipt it signs. -/
theorem finalize_install (hptr : db.pointer s = none)
    (h : finalizeReceiverGeneration E D bSystemId db s gid opts = .ok (receipt, db')) :
    ∃ bundle manifest replay, Reverified E D bSystemId db s gid opts bundle manifest replay ∧
      receipt.manifestDigest = manifest.canonicalDigest ∧ receipt.manifestRoot = manifest.manifestRoot ∧
      verifyBFinalizedReceipt E D opts.bVerifyResolver receipt = .ok () ∧
      installGeneration db s gid bSystemId manifest replay receipt = .ok db' := by
  simp only [finalizeReceiverGeneration, bind_eq_ok, vId_eq_ok, require_eq_ok] at h
  obtain ⟨_, ⟨hs, rfl⟩, _, ⟨hgid, rfl⟩, _, ⟨hkey, rfl⟩, ⟨bundle, manifest⟩, hrebuilt, _, ⟨-, rfl⟩, _, hstream,
    replay, hverified, _, hdistinct, h⟩ := h
  simp only [hptr, bind_eq_ok, pure_eq_ok, Except.ok.injEq, Prod.mk.injEq] at h
  obtain ⟨_, hsigned, _, hreceipt, _, hinstalled, rfl, rfl⟩ := h
  simp only [signBFinalizedReceipt, bind_eq_ok, pure_eq_ok, Except.ok.injEq] at hsigned
  obtain ⟨_, -, rfl⟩ := hsigned
  exact ⟨bundle, manifest, replay, ⟨hs, hgid, hkey, hrebuilt, hstream, hverified, hdistinct⟩, rfl, rfl, hreceipt,
    hinstalled⟩

end Calls

section Run

/-- The rows of the active generation are the replay of its persisted history. -/
def Materialized (E : Ed25519) (D : Sha256Bytes) (db : ReceiverTables) (s : JsString) (p : ReceiverPointer) :
    Prop :=
  ∃ (bundle : SourceExportBundle) (manifest : GuardCountersignedExport) (verifier : ExportVerifier E)
    (replay : ReplayedExport), rebuildStagedBundle db s p.activeGenerationId = .ok (bundle, manifest) ∧
    manifest.streamId = s ∧ Binds E D verifier bundle manifest.toSourceExportManifest replay ∧
    db.stateRows s p.activeGenerationId = replay.derivedStatePairs

/-- Every generation is the active one of its stream, and only active generations have state. -/
structure Receiving (E : Ed25519) (D : Sha256Bytes) (db : ReceiverTables) : Prop where
  generations : (db.generations.map (·.streamId)).Nodup
  active : ∀ g ∈ db.generations, ∃ p, db.pointer g.streamId = some p ∧
    p.activeGenerationId = g.generationId ∧ p.bFinalizedReceipt = g.bFinalizedReceipt
  states : ∀ row ∈ db.states, (db.pointer row.streamId).isSome
  materialized : ∀ s p, db.pointer s = some p → Materialized E D db s p

theorem Materialized.kept {p : ReceiverPointer} (h : Materialized E D db s p) (hkept : db.Kept db')
    (hp : db.pointer s = some p) : Materialized E D db' s p := by
  obtain ⟨bundle, manifest, verifier, replay, hrebuilt, hstream, hbinds, hrows⟩ := h
  exact ⟨bundle, manifest, verifier, replay, hkept.rebuilt hrebuilt, hstream, hbinds,
    (hkept.states s p _ hp).trans hrows⟩

theorem Receiving.staged (h : Receiving E D db) (hnone : db.stage s gid = none) :
    Receiving E D (db.staging s gid manifest bundle) where
  generations := h.generations
  active := h.active
  states := h.states
  materialized s' p hp := (h.materialized s' p hp).kept (ReceiverTables.kept_staging hnone) hp

/-- A pointer after an install is an old one, or the installed one. -/
theorem installed_pointer {receipt : BFinalizedReceipt}
    (hinstall : installGeneration db s gid bSystemId m replay receipt = .ok db') (s' : JsString)
    (p : ReceiverPointer) : db'.pointer s' = some p ↔
      db.pointer s' = some p ∨ s' = s ∧ p = ReceiverTables.newPointer s gid m replay receipt := by
  obtain ⟨hnone, rfl⟩ := ReceiverTables.installGeneration_ok hinstall
  simp only [ReceiverTables.pointer, List.find?_append, List.find?_singleton, Option.or_eq_some_iff,
    Option.ite_none_right_eq_some, Option.some.injEq, decide_eq_true_eq]
  constructor
  · rintro (h | ⟨-, rfl, rfl⟩)
    · exact .inl h
    · exact .inr ⟨rfl, rfl⟩
  · rintro (h | ⟨rfl, rfl⟩)
    · exact .inl h
    · exact .inr ⟨hnone, rfl, rfl⟩

/-- A stream without state has, after an install, the pairs of the replay. -/
theorem stateRows_installed {pairs : List StatePair} (h : ∀ row ∈ db.states, row.streamId ≠ s)
    (hstates : db'.states = db.states ++ pairs.map (fun pair => ⟨s, gid, pair.1, pair.2⟩)) :
    db'.stateRows s gid = pairs := by
  have hold : db.states.filter (fun row => row.streamId = s && row.generationId = gid) = [] := by
    simp only [List.filter_eq_nil_iff, Bool.and_eq_true, decide_eq_true_eq]
    exact fun row hrow heq => h row hrow heq.1
  simp only [ReceiverTables.stateRows, hstates, List.filter_append, hold, List.nil_append, List.filter_map,
    Function.comp_def, decide_true, Bool.and_self, List.filter_true, List.map_map, Prod.mk.eta, List.map_id']

theorem Receiving.installed {opts : ReceiverFinalizeOptions E} {receipt : BFinalizedReceipt}
    (h : Receiving E D db) (hverified : Reverified E D bSystemId db s gid opts bundle manifest replay)
    (hinstall : installGeneration db s gid bSystemId manifest replay receipt = .ok db') :
    Receiving E D db' := by
  have hkept := ReceiverTables.kept_installed hinstall
  have hpointer := installed_pointer hinstall
  obtain ⟨hnone, rfl⟩ := ReceiverTables.installGeneration_ok hinstall
  constructor
  case generations =>
    have hfresh : s ∉ db.generations.map (·.streamId) := by
      intro hmem
      obtain ⟨g, hg, rfl⟩ := List.mem_map.mp hmem
      obtain ⟨p, hp, -⟩ := h.active g hg
      rw [hnone] at hp
      cases hp
    rw [List.map_append, List.map_singleton, ← List.concat_eq_append]
    exact h.generations.concat hfresh
  case active =>
    intro g hg
    rcases List.mem_append.mp hg with hg | hg
    · obtain ⟨p, hp, hactive⟩ := h.active g hg
      exact ⟨p, hkept.pointer _ p hp, hactive⟩
    · obtain rfl := List.mem_singleton.mp hg
      exact ⟨_, (hpointer _ _).mpr (.inr ⟨rfl, rfl⟩), rfl, rfl⟩
  case states =>
    intro row hrow
    rcases List.mem_append.mp hrow with hrow | hrow
    · obtain ⟨p, hp⟩ := Option.isSome_iff_exists.mp (h.states row hrow)
      exact Option.isSome_of_eq_some (hkept.pointer _ p hp)
    · obtain ⟨pair, -, rfl⟩ := List.mem_map.mp hrow
      exact Option.isSome_of_eq_some ((hpointer _ _).mpr (.inr ⟨rfl, rfl⟩))
  case materialized =>
    intro s' p hp
    rcases (hpointer s' p).mp hp with hp | ⟨rfl, rfl⟩
    · exact (h.materialized s' p hp).kept hkept hp
    · refine ⟨bundle, manifest, opts.verifier, replay, hkept.rebuilt hverified.rebuilt, hverified.stream,
        hverified.binds, ?_⟩
      refine stateRows_installed (fun row hrow heq => ?_) rfl
      have hsome := h.states row hrow
      rw [heq, hnone] at hsome
      cases hsome

variable {opts : ReceiverFinalizeOptions E} {receipt : BFinalizedReceipt}

/-- The generation is active under the receipt, and `opts` accept both. -/
structure Finalized (E : Ed25519) (D : Sha256Bytes) (bSystemId : JsString) (db : ReceiverTables)
    (s gid : JsString) (opts : ReceiverFinalizeOptions E) (receipt : BFinalizedReceipt) : Prop where
  pointer : ∃ p, db.pointer s = some p ∧ p.activeGenerationId = gid ∧ p.bFinalizedReceipt = receipt
  verified : ∃ bundle manifest replay, Reverified E D bSystemId db s gid opts bundle manifest replay ∧
    verifyBFinalizedReceipt E D opts.bVerifyResolver receipt = .ok () ∧
    receipt.manifestDigest = manifest.canonicalDigest ∧ receipt.manifestRoot = manifest.manifestRoot

theorem Finalized.kept (h : Finalized E D bSystemId db s gid opts receipt) (hkept : db.Kept db') :
    Finalized E D bSystemId db' s gid opts receipt := by
  obtain ⟨⟨p, hp, hactive⟩, bundle, manifest, replay, hverified, hreceipt⟩ := h
  exact ⟨⟨p, hkept.pointer s p hp, hactive⟩, bundle, manifest, replay, hverified.kept hkept, hreceipt⟩

theorem Finalized.retry (h : Finalized E D bSystemId db s gid opts receipt) :
    finalizeReceiverGeneration E D bSystemId db s gid opts = .ok (receipt, db) := by
  obtain ⟨⟨p, hp, rfl, rfl⟩, hverified⟩ := h
  exact (finalize_pointer hp).mpr ⟨hverified, rfl, rfl, rfl⟩

theorem finalize_ok (h : finalizeReceiverGeneration E D bSystemId db s gid opts = .ok (receipt, db')) :
    db.Kept db' ∧ (Receiving E D db → Receiving E D db') ∧
      Finalized E D bSystemId db' s gid opts receipt := by
  cases hptr : db.pointer s with
  | some p =>
    obtain ⟨hverified, rfl, rfl, rfl⟩ := (finalize_pointer hptr).mp h
    exact ⟨.refl _, id, ⟨p, hptr, rfl, rfl⟩, hverified⟩
  | none =>
    obtain ⟨bundle, manifest, replay, hverified, hdigest, hroot, hreceipt, hinstall⟩ := finalize_install hptr h
    have hkept := ReceiverTables.kept_installed hinstall
    refine ⟨hkept, fun hdb => hdb.installed hverified hinstall, ?_, ?_⟩
    · exact ⟨_, (installed_pointer hinstall _ _).mpr (.inr ⟨rfl, rfl⟩), rfl, rfl⟩
    · exact ⟨bundle, manifest, replay, hverified.kept hkept, hreceipt, hdigest, hroot⟩

/-- One transaction keeps what is there, and the invariant. -/
theorem ReceiverTables.step_kept {l : StagingLabel E} (h : db.step D bSystemId l = some db') :
    db.Kept db' ∧ (Receiving E D db → Receiving E D db') := by
  cases l with
  | stage gid bundle manifest opts =>
    simp only [step, Option.some.injEq] at h
    split at h
    case h_1 u hu =>
      obtain rfl := h
      rcases stageReceiverExport_ok hu with ⟨-, rfl⟩ | ⟨hnone, rfl⟩
      · exact ⟨.refl _, id⟩
      · exact ⟨kept_staging hnone, fun hdb => hdb.staged hnone⟩
    case h_2 => exact h ▸ ⟨.refl _, id⟩
  | finalize s gid opts =>
    simp only [step, Option.some.injEq] at h
    split at h
    case h_1 receipt u hu =>
      obtain rfl := h
      exact ⟨(finalize_ok hu).1, (finalize_ok hu).2.1⟩
    case h_2 => exact h ▸ ⟨.refl _, id⟩
  | crash =>
    obtain rfl := Option.some.inj h
    exact ⟨.refl _, id⟩

theorem receiving_empty : Receiving E D {} where
  generations := List.nodup_nil
  active _ hg := nomatch hg
  states _ hrow := nomatch hrow
  materialized _ _ hp := nomatch hp

variable {ls ks : List (StagingLabel E)}

theorem receiving_of_reaches (h : (stagingMachine E D bSystemId).Reaches {} ls db) : Receiving E D db :=
  h.invariant (fun _ _ _ hdb _ hstep => (ReceiverTables.step_kept hstep).2 hdb) receiving_empty

theorem kept_of_reaches (h : (stagingMachine E D bSystemId).Reaches db ks db') : db.Kept db' :=
  h.relates (I := fun _ => True) .refl (fun _ _ _ => .trans) (fun _ _ _ _ _ _ => trivial)
    (fun _ _ _ _ _ hstep => (ReceiverTables.step_kept hstep).1) trivial

/-- Whatever transactions ran before: a stream has one generation, it is active and stays so; a retry
of its finalize returns its receipt and writes nothing, and no other generation is finalized; a staged
generation is not staged again, and what conflicts with it is refused; the state under the pointer is
the replay of what is staged. -/
theorem receiver_generations (h : (stagingMachine E D bSystemId).Reaches {} ls db) :
    (db.generations.map (·.streamId)).Nodup ∧
    (∀ g ∈ db.generations, ∃ p, db.pointer g.streamId = some p ∧ p.activeGenerationId = g.generationId ∧
      p.bFinalizedReceipt = g.bFinalizedReceipt) ∧
    (∀ s gid opts receipt t,
      finalizeReceiverGeneration E D bSystemId db s gid opts = .ok (receipt, t) →
      ∀ ks u, (stagingMachine E D bSystemId).Reaches t ks u →
        finalizeReceiverGeneration E D bSystemId u s gid opts = .ok (receipt, u) ∧
        ∀ gid' opts' receipt' u', finalizeReceiverGeneration E D bSystemId u s gid' opts' = .ok (receipt', u') →
          gid' = gid ∧ receipt' = receipt ∧ u' = u) ∧
    (∀ gid bundle manifest opts, (db.stage manifest.streamId gid).isSome →
      db.step D bSystemId (.stage gid bundle manifest opts) = some db ∧
      (db.Conflicts gid bundle manifest →
        ∃ e, stageReceiverExport E D db gid bundle manifest opts = .error e)) ∧
    ∀ s p, db.pointer s = some p → ∃ bundle manifest,
      rebuildStagedBundle db s p.activeGenerationId = .ok (bundle, manifest) ∧
      (∃ (verifier : ExportVerifier E) (replay : ReplayedExport),
        replaySourceExport E D verifier.sanitize verifier.headResolver s manifest.sourceEpoch
          (allRecords bundle) = .ok replay ∧
        db.stateRows s p.activeGenerationId = replay.derivedStatePairs) ∧
      ∀ (verifier : ExportVerifier E) (fr : SourceFrozenReceipt) (replay : ReplayedExport),
        assertExportBundleBinds E D verifier bundle manifest.toSourceExportManifest fr = .ok replay →
        db.stateRows s p.activeGenerationId = replay.derivedStatePairs := by
  have hdb := receiving_of_reaches h
  refine ⟨hdb.generations, hdb.active, ?_, ?_, ?_⟩
  · intro s gid opts receipt t hfinal ks u hrun
    have hfinalized := (finalize_ok hfinal).2.2.kept (kept_of_reaches hrun)
    refine ⟨hfinalized.retry, fun gid' opts' receipt' u' hfinal' => ?_⟩
    obtain ⟨p, hp, rfl, rfl⟩ := hfinalized.pointer
    obtain ⟨-, hgid, hreceipt, hu⟩ := (finalize_pointer hp).mp hfinal'
    exact ⟨hgid.symm, hreceipt, hu⟩
  · intro gid bundle manifest opts hsome
    have hok {db' : ReceiverTables} (hok : stageReceiverExport E D db gid bundle manifest opts = .ok db') :
        ¬ db.Conflicts gid bundle manifest ∧ db' = db := by
      rcases stageReceiverExport_ok hok with hsame | ⟨hnone, -⟩
      · exact hsame
      · rw [hnone] at hsome
        cases hsome
    simp only [ReceiverTables.step]
    cases hstage : stageReceiverExport E D db gid bundle manifest opts with
    | error e => exact ⟨rfl, fun _ => ⟨e, rfl⟩⟩
    | ok db' => exact ⟨congrArg some (hok hstage).2, fun hconflict => ((hok hstage).1 hconflict).elim⟩
  · intro s p hp
    obtain ⟨bundle, manifest, verifier, replay, hrebuilt, rfl, hbinds, hrows⟩ := hdb.materialized s p hp
    refine ⟨bundle, manifest, hrebuilt, ⟨verifier, replay, hbinds.replayed, hrows⟩, ?_⟩
    intro verifier' fr replay' hbinds'
    rw [hrows, ← hbinds.pairs, (assertExportBundleBinds_ok hbinds').pairs]

end Run

section Sample

/-- A bundle is staged, finalized twice, and staged again as another generation. -/
def sampleTransactions (fr : SourceFrozenReceipt) (bundle : SourceExportBundle)
    (manifest : GuardCountersignedExport) : List (StagingLabel sampleEd25519) :=
  let opts : ReceiverFinalizeOptions sampleEd25519 := {
    verifier := sampleVerifier
    sourceResolver := fun _ => some [9]
    guardResolver := fun _ => some [11]
    frozenReceipt := fr
    expectedCommandId := manifest.commandId
    bVerifyResolver := fun _ => some [13]
    bKeyId := JsString.lit "b"
    bPrivateKey := [13] }
  let stage (gid : String) := .stage (JsString.lit gid) bundle manifest opts.toReceiverVerifyOptions
  let finalize (gid : String) := .finalize manifest.streamId (JsString.lit gid) opts
  [stage "g1", finalize "g1", finalize "g1", .crash, stage "g2", finalize "g2"]

def sampleStaging : Except FenceError (List (StagingLabel sampleEd25519)) := do
  let (fr, bundle, manifest) ← sampleExport
  let manifest ← guardCountersignSourceExport sampleEd25519 rollingSha256 bundle manifest {
    guardKeyId := JsString.lit "c"
    guardPrivateKey := [11]
    sourceManifestResolver := fun _ => some [9]
    verifier := sampleVerifier
    frozenReceipt := fr
    expectedCommandId := manifest.commandId }
  return sampleTransactions fr bundle manifest

/-- The stages, the active generations, and their state. -/
def ReceiverTables.observe (db : ReceiverTables) : List StageStatus × List JsString × List StatePair :=
  (db.stages.map (·.status), db.generations.map (·.generationId),
    db.generations.flatMap (fun g => db.stateRows g.streamId g.generationId))

end Sample

/-- The second generation is staged, but never installed. -/
theorem receiver_generations_sample : ∃ ls db,
    (stagingMachine sampleEd25519 rollingSha256 (JsString.lit "2")).Reaches {} ls db ∧
    db.observe = ([.installed, .staged], [JsString.lit "g1"], [(JsString.lit "t", 5)]) ∧
    (db.generations.map (·.streamId)).Nodup := by
  have hsample : (sampleStaging.toOption.bind fun ls =>
      (stagingMachine sampleEd25519 rollingSha256 (JsString.lit "2")).exec (fun _ _ => True) {} ls).map
        ReceiverTables.observe =
      some ([.installed, .staged], [JsString.lit "g1"], [(JsString.lit "t", 5)]) := by
    decide +kernel
  obtain ⟨db, hdb, hobserve⟩ := Option.map_eq_some_iff.mp hsample
  obtain ⟨ls, -, hrun⟩ := Option.bind_eq_some_iff.mp hdb
  exact ⟨ls, db, .of_exec hrun, hobserve, (receiver_generations (.of_exec hrun)).1⟩

end TskProtocol
