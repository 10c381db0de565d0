import TskProtocol.SourceFence.Receivers

namespace TskProtocol

variable {E : Ed25519} {D : Sha256Bytes} {bSystemId : JsString} {db db' : ReceiverTables}
  {s gid : JsString} {bundle : SourceExportBundle} {m manifest : GuardCountersignedExport}
  {replay : ReplayedExport} {receipt : BFinalizedReceipt}

section Tidy

/-- A generation is staged under one row, its chunks stand behind that row, and it is sealed only
under a pointer. -/
structure ReceiverTables.Tidy (db : ReceiverTables) : Prop where
  stages : (db.stages.map (fun st => (st.streamId, st.generationId))).Nodup
  chunks : ∀ c ∈ db.chunks, (db.stage c.streamId c.generationId).isSome
  sealed : ∀ st ∈ db.stages, st.status = .installed → (db.pointer st.streamId).isSome

namespace ReceiverTables

theorem tidy_empty : Tidy {} where
  stages := List.nodup_nil
  chunks _ hc := by cases hc
  sealed _ hst := by cases hst

theorem stage_isSome {st : ReceiverStage} (h : st ∈ db.stages) :
    (db.stage st.streamId st.generationId).isSome := by
  rw [stage, List.find?_isSome]
  exact ⟨st, h, by simp⟩

theorem not_mem_stages (hnone : db.stage s gid = none) :
    (s, gid) ∉ db.stages.map (fun st => (st.streamId, st.generationId)) := by
  intro hmem
  obtain ⟨st, hst, heq⟩ := List.mem_map.mp hmem
  obtain ⟨rfl, rfl⟩ := Prod.mk.inj heq
  have hsome := stage_isSome hst
  rw [hnone] at hsome
  cases hsome

theorem Kept.stage_isSome (h : db.Kept db') (hsome : (db.stage s gid).isSome) :
    (db'.stage s gid).isSome := by
  obtain ⟨st, hst⟩ := Option.isSome_iff_exists.mp hsome
  obtain ⟨st', hst', -⟩ := Option.map_eq_some_iff.mp (h.stage s gid st hst)
  exact Option.isSome_of_eq_some hst'

theorem stage_staging (hnone : db.stage s gid = none) :
    (db.staging s gid manifest bundle).stage s gid = some ⟨s, gid, manifest, .staged⟩ := by
  simp only [stage, staging, List.find?_append] at hnone ⊢
  simp [hnone]

theorem Tidy.staged (h : db.Tidy) (hnone : db.stage s gid = none) :
    (db.staging s gid manifest bundle).Tidy where
  stages := by
    rw [staging, List.map_append, List.map_singleton, ← List.concat_eq_append]
    exact h.stages.concat (not_mem_stages hnone)
  chunks c hc := by
    rcases List.mem_append.mp hc with hc | hc
    · exact (kept_staging hnone).stage_isSome (h.chunks c hc)
    · obtain ⟨_, -, rfl⟩ := List.mem_map.mp hc
      exact Option.isSome_of_eq_some (stage_staging hnone)
  sealed st hst hstatus := by
    rcases List.mem_append.mp hst with hst | hst
    · exact h.sealed st hst hstatus
    · obtain rfl := List.mem_singleton.mp hst
      cases hstatus

theorem Tidy.installed (h : db.Tidy)
    (hinstall : installGeneration db s gid bSystemId m replay receipt = .ok db') : db'.Tidy := by
  have hkept := kept_installed hinstall
  have hnew := (installed_pointer hinstall s (newPointer s gid m replay receipt)).mpr (.inr ⟨rfl, rfl⟩)
  obtain ⟨-, rfl⟩ := installGeneration_ok hinstall
  refine ⟨?_, fun c hc => hkept.stage_isSome (h.chunks c hc), fun st hst hstatus => ?_⟩
  · simp only [List.map_map, Function.comp_def, sealed_streamId, sealed_generationId]
    exact h.stages
  · obtain ⟨row, hrow, rfl⟩ := List.mem_map.mp hst
    rw [sealed_streamId]
    by_cases hs : row.streamId = s
    · rw [hs]
      exact Option.isSome_of_eq_some hnew
    · have hsame : ReceiverTables.sealed s gid row = row := by simp [ReceiverTables.sealed, hs]
      rw [hsame] at hstatus
      obtain ⟨p, hp⟩ := Option.isSome_iff_exists.mp (h.sealed row hrow hstatus)
      exact Option.isSome_of_eq_some (hkept.pointer _ p hp)

end ReceiverTables

/-- What one transaction can do to the tables. -/
theorem ReceiverTables.step_cases {l : StagingLabel E} (h : db.step D bSystemId l = some db') :
    db' = db ∨
    (∃ s gid manifest bundle, db.stage s gid = none ∧ db' = db.staging s gid manifest bundle) ∨
    ∃ s gid opts bundle manifest replay receipt, db.pointer s = none ∧
      Reverified E D bSystemId db s gid opts bundle manifest replay ∧
      installGeneration db s gid bSystemId manifest replay receipt = .ok db' := by
  cases l with
  | stage gid bundle manifest opts =>
    simp only [step, Option.some.injEq] at h
    split at h
    case h_1 u hu =>
      obtain rfl := h
      rcases stageReceiverExport_ok hu with ⟨-, rfl⟩ | ⟨hnone, rfl⟩
      · exact .inl rfl
      · exact .inr (.inl ⟨_, _, _, _, hnone, rfl⟩)
    case h_2 => exact .inl h.symm
  | finalize s gid opts =>
    simp only [step, Option.some.injEq] at h
    split at h
    case h_1 receipt u hu =>
      obtain rfl := h
      cases hptr : db.pointer s with
      | some p => exact .inl ((finalize_pointer hptr).mp hu).2.2.2
      | none =>
        obtain ⟨bundle, manifest, replay, hverified, -, -, -, hinstall⟩ := finalize_install hptr hu
        exact .inr (.inr ⟨s, gid, opts, bundle, manifest, replay, receipt, hptr, hverified, hinstall⟩)
    case h_2 => exact .inl h.symm
  | crash => exact .inl (Option.some.inj h).symm

theorem ReceiverTables.Tidy.step {l : StagingLabel E} (h : db.Tidy) (hstep : db.step D bSystemId l = some db') :
    db'.Tidy := by
  rcases step_cases hstep with rfl | ⟨_, _, _, _, hnone, rfl⟩ | ⟨_, _, _, _, _, _, _, -, -, hinstall⟩
  · exact h
  · exact h.staged hnone
  · exact h.installed hinstall

variable {ls : List (StagingLabel E)}

theorem tidy_of_reaches (h : (stagingMachine E D bSystemId).Reaches {} ls db) : db.Tidy :=
  h.invariant (fun _ _ _ hdb _ hstep => hdb.step hstep) ReceiverTables.tidy_empty

end Tidy

section Rebuilt

/-- What lets a bundle be read back from its rows. -/
structure SourceExportBundle.Rebuildable (bundle : SourceExportBundle) : Prop where
  sorted : bundle.stageChunks.Pairwise (fun a b => a.ordinal ≤ b.ordinal)
  ordinals : ∀ c ∈ bundle.stageChunks, 0 ≤ c.ordinal ∧ c.ordinal ≤ 100000
  ranges : ∀ c ∈ bundle.historyChunks, (1 ≤ c.seqFrom ∧ c.seqFrom ≤ MAX_SEQ) ∧ 1 ≤ c.seqTo ∧ c.seqTo ≤ MAX_SEQ
  itemCount : 0 ≤ bundle.stateChunk.itemCount ∧ bundle.stateChunk.itemCount ≤ 1000000

/-- The row of a history chunk. -/
def ExportHistoryChunk.staged (c : ExportHistoryChunk) (s gid : JsString) : ReceiverStageChunk :=
  ⟨⟨c.ordinal, c.seqFrom, c.seqTo, c.records.length, c.byteDigest, .history c.records⟩, s, gid⟩

def ExportStateChunk.staged (c : ExportStateChunk) (s gid : JsString) : ReceiverStageChunk :=
  ⟨⟨c.ordinal, 0, 0, c.itemCount, c.byteDigest, .state c.pairs⟩, s, gid⟩

theorem map_stageChunks : bundle.stageChunks.map (fun c => (⟨c, s, gid⟩ : ReceiverStageChunk)) =
    bundle.historyChunks.map (·.staged s gid) ++ [bundle.stateChunk.staged s gid] := by
  simp [SourceExportBundle.stageChunks, ExportHistoryChunk.staged, ExportStateChunk.staged, Function.comp_def]

theorem rebuildChunks_staged (s gid : JsString) {cs : List ExportHistoryChunk} {state : ExportStateChunk}
    (hcs : ∀ c ∈ cs, (0 ≤ c.ordinal ∧ c.ordinal ≤ 100000) ∧ (1 ≤ c.seqFrom ∧ c.seqFrom ≤ MAX_SEQ) ∧
      1 ≤ c.seqTo ∧ c.seqTo ≤ MAX_SEQ)
    (hordinal : 0 ≤ state.ordinal ∧ state.ordinal ≤ 100000)
    (hcount : 0 ≤ state.itemCount ∧ state.itemCount ≤ 1000000) :
    rebuildChunks (cs.map (·.staged s gid) ++ [state.staged s gid]) = .ok (cs, some state) := by
  induction cs with
  | nil =>
    simp only [List.map_nil, List.nil_append, rebuildChunks, ExportStateChunk.staged, bind_eq_ok, require_eq_ok]
    exact ⟨(), hordinal, (), hcount, _, rfl, rfl⟩
  | cons c cs ih =>
    obtain ⟨⟨hc, hfrom, hto⟩, hcs⟩ := List.forall_mem_cons.mp hcs
    simp only [List.map_cons, List.cons_append, rebuildChunks, ExportHistoryChunk.staged, bind_eq_ok,
      require_eq_ok]
    exact ⟨(), hc, (), hfrom, (), hto, _, ih hcs, rfl⟩

namespace ReceiverTables

/-- The chunks of a new generation are the rows of its bundle. -/
theorem Tidy.stageChunks_staging (h : db.Tidy) (hnone : db.stage s gid = none) :
    (db.staging s gid manifest bundle).stageChunks s gid = bundle.stageChunks.map (fun c => ⟨c, s, gid⟩) := by
  have hold : db.chunks.filter (fun row => row.streamId = s && row.generationId = gid) = [] := by
    simp only [List.filter_eq_nil_iff, Bool.and_eq_true, decide_eq_true_eq]
    rintro c hc ⟨rfl, rfl⟩
    have hsome := h.chunks c hc
    rw [hnone] at hsome
    cases hsome
  simp [stageChunks, staging, List.filter_append, hold, List.filter_map, Function.comp_def]

end ReceiverTables

/-- The bundle and the manifest are read back as they were staged. -/
theorem rebuildStagedBundle_staging (h : db.Tidy) (hnone : db.stage s gid = none)
    (hbundle : bundle.Rebuildable) (hcount : manifest.chunkCount = bundle.historyChunks.length + 1)
    (hpos : 1 ≤ bundle.historyChunks.length) (hmax : manifest.chunkCount ≤ 100000) :
    rebuildStagedBundle (db.staging s gid manifest bundle) s gid = .ok (bundle, manifest) := by
  have hsorted : ((db.staging s gid manifest bundle).stageChunks s gid).insertionSort
      (fun a b => a.ordinal ≤ b.ordinal) =
      bundle.historyChunks.map (·.staged s gid) ++ [bundle.stateChunk.staged s gid] := by
    rw [h.stageChunks_staging hnone, ← map_stageChunks]
    refine List.Pairwise.insertionSort_eq ?_
    exact List.pairwise_map.mpr hbundle.sorted
  have hordinals := hbundle.ordinals
  simp only [SourceExportBundle.stageChunks, List.forall_mem_append, List.forall_mem_map,
    List.forall_mem_singleton] at hordinals
  have hchunks := rebuildChunks_staged s gid
    (fun c hc => ⟨hordinals.1 c hc, hbundle.ranges c hc⟩) hordinals.2 hbundle.itemCount
  simp only [rebuildStagedBundle, ReceiverTables.stage_staging hnone, orThrow, bind_ok, hsorted, hchunks]
  simp only [bind_eq_ok, vInt_eq_ok, require_eq_ok, pure_eq_ok]
  refine ⟨_, ⟨⟨by omega, hmax⟩, rfl⟩, (), ?_, trivial⟩
  simp [hcount]

end Rebuilt

section Replayed

variable {sanitize : PayloadSanitizer} {headResolver : SourceVerifyKeyResolver E} {streamId epoch prev head : JsString}
  {state state' : OrderedMap JsString Int} {expectSeq : Int} {records : List ExportedSourceRecord}

/-- What the rounds of a replay leave: the records are numbered within the bound, the last head is a
digest, and every counter is the one of a record. -/
structure ReplayRun (sanitize : PayloadSanitizer) (expectSeq : Int) (prev : JsString)
    (state : OrderedMap JsString Int) (records : List ExportedSourceRecord) (head : JsString)
    (state' : OrderedMap JsString Int) : Prop where
  bounded : expectSeq - 1 ≤ MAX_SEQ → expectSeq - 1 + records.length ≤ MAX_SEQ
  head : matchesHex64 prev = true → matchesHex64 head = true
  size : state'.size ≤ state.size + records.length
  entries : ∀ e ∈ state'.entries, e ∈ state.entries ∨ ∃ r ∈ records, ∃ mutation,
    (Json.parse r.payload).bind sanitize = some mutation ∧ e = (mutation.tumblerId, mutation.counter)

theorem matchesHex64_of_replays {r : ExportedSourceRecord} {mutation : TskHotpMutation}
    (h : RecordReplays E D sanitize headResolver streamId epoch expectSeq prev r mutation) :
    matchesHex64 r.headDigest = true := by
  have hbinds := h.binds
  simp only [assertStreamHeadBinds, streamHeadDigest, bind_eq_ok, require_eq_ok, pure_eq_ok,
    Except.ok.injEq] at hbinds
  obtain ⟨_, -, _, -, _, -, _, -, _, -, digest, ⟨_, -, _, -, _, -, _, -, _, -, _, -, rfl⟩, hhead⟩ := hbinds
  have hhead : r.headDigest = D.hex _ := hhead
  rw [hhead, matchesHex64_hex]

theorem replays_of_replayRecords (h : replayRecords E D sanitize headResolver streamId epoch expectSeq prev
    state records = .ok (head, state')) : ReplayRun sanitize expectSeq prev state records head state' := by
  induction records generalizing expectSeq prev state with
  | nil =>
    simp only [replayRecords, Except.ok.injEq, Prod.mk.injEq] at h
    obtain ⟨rfl, rfl⟩ := h
    exact ⟨fun hle => by simpa using hle, id, by simp, fun e he => .inl he⟩
  | cons r rest ih =>
    simp only [replayRecords, bind_eq_ok, replayRecord_eq_ok] at h
    obtain ⟨mutation, hr, hrest⟩ := h
    have hreplays := ih hrest
    refine ⟨fun _ => ?_, fun _ => hreplays.head (matchesHex64_of_replays hr), ?_, fun e he => ?_⟩
    · have hle := hr.bounded.2
      have hseq := hr.sequence
      have hbounded := hreplays.bounded (by omega)
      rw [List.length_cons]
      omega
    · have hsize := hreplays.size
      rw [OrderedMap.size_set] at hsize
      rw [List.length_cons]
      split at hsize <;> omega
    · rcases hreplays.entries e he with hold | ⟨r', hr', hmutation⟩
      · rcases OrderedMap.mem_entries_set hold with rfl | hold
        · exact .inr ⟨r, by simp, mutation, hr.payload, rfl⟩
        · exact .inl hold
      · exact .inr ⟨r', List.mem_cons_of_mem r hr', hmutation⟩

/-- What a replay has derived from the records of a bundle. -/
structure ReplayedExport.Derived (sanitize : PayloadSanitizer) (records : List ExportedSourceRecord)
    (replay : ReplayedExport) : Prop where
  n : replay.n = records.length
  bounded : 1 ≤ records.length ∧ records.length ≤ MAX_SEQ
  head : matchesHex64 replay.signedHeadDigestAtN = true
  stateDigest : matchesHex64 replay.sourceStateDigestAtN = true
  length : replay.derivedStatePairs.length ≤ records.length
  nodup : (replay.derivedStatePairs.map Prod.fst).Nodup
  pairs : ∀ pair ∈ replay.derivedStatePairs, ∃ r ∈ records, ∃ mutation,
    (Json.parse r.payload).bind sanitize = some mutation ∧ pair = (mutation.tumblerId, mutation.counter)

theorem derived_of_replaySourceExport
    (h : replaySourceExport E D sanitize headResolver streamId epoch records = .ok replay) :
    replay.Derived sanitize records := by
  simp only [replaySourceExport, bind_eq_ok, require_eq_ok, pure_eq_ok, Except.ok.injEq] at h
  obtain ⟨_, -, _, hne, ⟨head, state⟩, hrecords, rfl⟩ := h
  have hreplays := replays_of_replayRecords hrecords
  have hperm : (sortPairs state.entries).Perm state.entries := List.perm_insertionSort _ _
  refine ⟨rfl, ⟨List.length_pos_iff.mpr hne, ?_⟩, hreplays.head (by decide), matchesHex64_hex D _, ?_, ?_, ?_⟩
  · have hbounded := hreplays.bounded (by decide)
    omega
  · have hsize := hreplays.size
    simp only [OrderedMap.size] at hsize
    rw [hperm.length_eq]
    exact hsize.trans (by simp [EmptyCollection.emptyCollection])
  · exact (hperm.map Prod.fst).nodup_iff.mpr state.nodup
  · intro pair hpair
    rcases hreplays.entries pair (mem_sortPairs.mp hpair) with hold | hnew
    · cases hold
    · exact hnew

end Replayed

section Inventory

theorem assertHistoryEntries_ok {i k k' : Int} {es : List ExportChunkInventoryEntry}
    (h : assertHistoryEntries i k es = .ok k') : k ≤ k' ∧ es.Pairwise (fun a b => a.ordinal ≤ b.ordinal) ∧
      ∀ e ∈ es, (i ≤ e.ordinal ∧ e.ordinal < i + es.length) ∧ k ≤ e.seqFrom ∧ e.seqFrom ≤ e.seqTo ∧
        e.seqTo < k' := by
  induction es generalizing i k with
  | nil =>
    obtain rfl := Except.ok.inj h
    exact ⟨le_rfl, .nil, by simp⟩
  | cons e es ih =>
    simp only [assertHistoryEntries, bind_eq_ok, require_eq_ok] at h
    obtain ⟨_, -, _, hordinal, _, hfrom, _, hrange, _, -, hrest⟩ := h
    obtain ⟨hle, hsorted, hall⟩ := ih hrest
    refine ⟨by omega, List.pairwise_cons.mpr ⟨fun e' he' => ?_, hsorted⟩, ?_⟩
    · have hlater := (hall e' he').1.1
      omega
    · simp only [List.forall_mem_cons, List.length_cons]
      refine ⟨by omega, fun e' he' => ?_⟩
      have hlater := hall e' he'
      omega

/-- The entries of an inventory number the chunks as they number themselves. -/
theorem historyEntries_numbers {cs : List ExportHistoryChunk} {es : List ExportChunkInventoryEntry}
    (h : List.Forall₂ (fun c e => historyEntry D c = .ok e) cs es) :
    cs.map (fun c => (c.ordinal, c.seqFrom, c.seqTo)) = es.map (fun e => (e.ordinal, e.seqFrom, e.seqTo)) := by
  induction h with
  | nil => rfl
  | cons hentry _ ih =>
    obtain ⟨-, -, rfl⟩ := historyEntry_eq_ok.mp hentry
    rw [List.map_cons, List.map_cons, ih]

variable {verifier : ExportVerifier E} {fr : SourceFrozenReceipt}

/-- How the history chunks of a bundle are numbered. -/
structure SourceExportBundle.Numbered (bundle : SourceExportBundle) (n : Nat) : Prop where
  sorted : bundle.historyChunks.Pairwise (fun a b => a.ordinal ≤ b.ordinal)
  inside : ∀ c ∈ bundle.historyChunks, (0 ≤ c.ordinal ∧ c.ordinal < bundle.historyChunks.length) ∧
    1 ≤ c.seqFrom ∧ c.seqFrom ≤ c.seqTo ∧ c.seqTo ≤ n
  state : bundle.stateChunk.ordinal = bundle.historyChunks.length
  nonempty : 1 ≤ bundle.historyChunks.length

theorem Binds.numbered {manifest : SourceExportManifest} (h : Binds E D verifier bundle manifest replay) :
    bundle.Numbered manifest.n ∧ manifest.inventory.length = bundle.historyChunks.length + 1 := by
  obtain ⟨entries, last, hinv, hchunks⟩ := h.inventory
  have hcovers := h.covers
  simp only [assertExportInventory, hinv, List.dropLast_concat, List.getLast?_concat, bind_eq_ok, require_eq_ok,
    orThrow_eq_ok, Option.some.injEq, List.length_append, List.length_singleton] at hcovers
  obtain ⟨_, htwo, expectSeq, hentries, _, hcover, _, rfl, -, hlast, -⟩ := hcovers
  obtain ⟨-, hsorted, hall⟩ := assertHistoryEntries_ok hentries
  have hnumbers := historyEntries_numbers hchunks.history
  have hlength : bundle.historyChunks.length = entries.length := by
    simpa using congrArg List.length hnumbers
  refine ⟨⟨?_, fun c hc => ?_, ?_, by omega⟩, by rw [hinv, List.length_append, List.length_singleton, hlength]⟩
  · have hpairwise : (bundle.historyChunks.map (fun c => (c.ordinal, c.seqFrom, c.seqTo))).Pairwise
        (fun a b => a.1 ≤ b.1) := hnumbers ▸ List.pairwise_map.mpr hsorted
    rw [List.pairwise_map] at hpairwise
    exact hpairwise
  · have hmem : (c.ordinal, c.seqFrom, c.seqTo) ∈ entries.map (fun e => (e.ordinal, e.seqFrom, e.seqTo)) :=
      hnumbers ▸ List.mem_map_of_mem hc
    obtain ⟨e, he, heq⟩ := List.mem_map.mp hmem
    simp only [Prod.mk.injEq] at heq
    have hentry := hall e he
    omega
  · have hordinal := congrArg ExportChunkInventoryEntry.ordinal hchunks.state
    simp only at hordinal
    omega

/-- The rows of a bundle stand in the order of their ordinals. -/
theorem SourceExportBundle.Numbered.sorted_stageChunks {n : Nat} (h : bundle.Numbered n) :
    bundle.stageChunks.Pairwise (fun a b => a.ordinal ≤ b.ordinal) := by
  simp only [SourceExportBundle.stageChunks, List.pairwise_append, List.pairwise_map, List.pairwise_singleton,
    List.forall_mem_map, List.forall_mem_singleton, true_and]
  refine ⟨h.sorted, fun c hc => ?_⟩
  have hinside := h.inside c hc
  have hstate := h.state
  omega

/-- The numbers of a bundle that binds stay within what its rows can hold. -/
theorem rebuildable_of_binds {manifest : SourceExportManifest}
    (h : assertExportBundleBinds E D verifier bundle manifest fr = .ok replay)
    (hcount : manifest.inventory.length ≤ 100000) (hpairs : bundle.stateChunk.pairs.length ≤ 1000000) :
    bundle.Rebuildable := by
  have hbinds := assertExportBundleBinds_ok h
  obtain ⟨hnumbered, hlength⟩ := hbinds.numbered
  have hderived := derived_of_replaySourceExport hbinds.replayed
  have hmax : manifest.n ≤ MAX_SEQ := by
    rw [← hbinds.n, hderived.n]
    exact hderived.bounded.2
  have hstate := hnumbered.state
  simp only [assertExportBundleBinds, assertStateChunkMatchesReplay, bind_eq_ok, require_eq_ok, pure_eq_ok,
    Except.ok.injEq] at h
  obtain ⟨_, -, _, -, _, -, _, -, _, -, _, -, _, -, _, -, _, -, _, ⟨_, ⟨hitems, hitems'⟩, -⟩, rfl⟩ := h
  refine ⟨hnumbered.sorted_stageChunks, ?_, fun c hc => ?_, by omega⟩
  · simp only [SourceExportBundle.stageChunks, List.forall_mem_append, List.forall_mem_map,
      List.forall_mem_singleton]
    refine ⟨fun c hc => ?_, by omega⟩
    have hinside := hnumbered.inside c hc
    omega
  · have hinside := hnumbered.inside c hc
    omega

end Inventory

section Installing

open ReceiverTables

theorem fitsJsonb_of_ascii {t : JsString} {p : UInt16 → Bool} (h : t.all p = true)
    (hp : ∀ c, p c = true → JsString.isAscii c = true ∧ c ≠ 0) : fitsJsonb t = true := by
  rw [List.all_eq_true] at h
  simp only [fitsJsonb, Bool.and_eq_true, List.all_eq_true, decide_eq_true_eq, Bool.not_eq_true']
  exact ⟨fun c hc => (hp c (h c hc)).2,
    JsString.wellFormed_iff.mp (.of_ascii fun c hc => (hp c (h c hc)).1)⟩

theorem fitsJsonb_of_matchesId {t : JsString} (h : matchesId t = true) : fitsJsonb t = true := by
  simp only [matchesId, Bool.and_eq_true] at h
  refine fitsJsonb_of_ascii h.2 fun c hc => ?_
  rw [Bool.and_eq_true] at hc
  exact ⟨isAscii_of_isIdTail hc.1, by rintro rfl; cases hc.1⟩

theorem fitsJsonb_of_hex64 {t : JsString} (h : matchesHex64 t = true) : fitsJsonb t = true := by
  have hascii := (plain_of_matchesHex64 h).ascii
  simp only [matchesHex64, Bool.and_eq_true] at h
  have hboth : t.all (fun c => isLowerHexDigit c && JsString.isAscii c) = true := by
    rw [List.all_eq_true] at h ⊢
    exact fun c hc => by rw [h.2 c hc, hascii c hc, Bool.and_self]
  refine fitsJsonb_of_ascii hboth fun c hc => ?_
  rw [Bool.and_eq_true] at hc
  exact ⟨hc.2, by rintro rfl; cases hc.1⟩

theorem fitsJsonb_of_base64url {t : JsString} (h : matchesBase64Url t = true) : fitsJsonb t = true := by
  have hwell := wellFormed_of_base64url h
  simp only [matchesBase64Url, Bool.and_eq_true, List.all_eq_true] at h
  simp only [fitsJsonb, Bool.and_eq_true, List.all_eq_true, decide_eq_true_eq, Bool.not_eq_true']
  refine ⟨fun c hc hzero => ?_, JsString.wellFormed_iff.mp hwell⟩
  exact absurd (h.2 0 (hzero ▸ hc)) (by decide)

/-- What the columns of a stage have made sure of. -/
structure GuardCountersignedExport.Storable (m : GuardCountersignedExport) (s gid : JsString) : Prop where
  streamId : s.fitsIdColumn = true
  generationId : matchesId gid = true
  epoch : fitsBigint m.epoch = true
  n : 1 ≤ m.n ∧ fitsBigint m.n = true
  canonicalDigest : matchesHex64 m.canonicalDigest = true
  manifestRoot : matchesHex64 m.manifestRoot = true
  texts : ∀ t ∈ m.texts, fitsJsonb t = true

theorem storable_of_insertStage {row : ReceiverStage} (h : db.insertStage row = .ok db') :
    row.manifest.Storable row.streamId row.generationId := by
  simp only [insertStage, bind_eq_ok, require_eq_ok] at h
  obtain ⟨_, ⟨hs, hgid, hepoch, hn, hn', hdigest, hroot, -, -, htexts, -⟩, -⟩ := h
  exact ⟨hs, hgid, hepoch, ⟨hn, hn'⟩, hdigest, hroot, List.all_eq_true.mp htexts⟩

/-- A generation that is staged for the first time is what the caller has shown. -/
theorem stageReceiverExport_new {opts : ReceiverVerifyOptions E}
    (h : stageReceiverExport E D db gid bundle manifest opts = .ok db')
    (hnone : db.stage manifest.streamId gid = none) :
    (∃ replay, verifiedExportSnapshot E D bundle manifest opts = .ok replay) ∧
      matchesStreamId 512 manifest.streamId = true ∧ manifest.Storable manifest.streamId gid ∧
      db' = db.staging manifest.streamId gid manifest bundle := by
  have hstaged := stageReceiverExport_ok h
  simp only [stageReceiverExport, bind_eq_ok, vId_eq_ok] at h
  obtain ⟨_, ⟨-, rfl⟩, replay, hverified, _, ⟨hstream, rfl⟩, h⟩ := h
  simp only [hnone, bind_eq_ok] at h
  obtain ⟨_, hinsert, -⟩ := h
  rcases hstaged with ⟨hconflict, -⟩ | ⟨-, hdb⟩
  · refine absurd (.inl ?_) hconflict
    rw [hnone]
    exact fun hsome => by cases hsome
  · exact ⟨⟨replay, hverified⟩, hstream, storable_of_insertStage hinsert, hdb⟩

/-- Distinct pairs are inserted under a generation that has no state yet. -/
theorem insertStates_returns {pairs : List StatePair} (hs : s.fitsIdColumn = true)
    (hpairs : ∀ pair ∈ pairs, pair.1.fitsIdColumn = true ∧ 1 ≤ pair.2 ∧ pair.2 ≤ 2147483647)
    (hnodup : (pairs.map Prod.fst).Nodup)
    (hfresh : ∀ row ∈ db.states, ∀ pair ∈ pairs,
      (row.streamId, row.generationId, row.tumblerId) ≠ (s, gid, pair.1)) :
    ∃ db', pairs.foldlM (fun db pair => db.insertState ⟨s, gid, pair.1, pair.2⟩) db = .ok db' := by
  induction pairs generalizing db with
  | nil => exact ⟨db, rfl⟩
  | cons pair rest ih =>
    obtain ⟨hpair, hrest⟩ := List.forall_mem_cons.mp hpairs
    rw [List.map_cons, List.nodup_cons] at hnodup
    have hinsert : db.insertState ⟨s, gid, pair.1, pair.2⟩ =
        .ok { db with states := db.states ++ [⟨s, gid, pair.1, pair.2⟩] } := by
      simp only [insertState, bind_eq_ok, require_eq_ok, pure_eq_ok]
      exact ⟨(), ⟨hs, hpair.1, hpair.2.1, hpair.2.2, fun row hrow => hfresh row hrow pair (by simp)⟩, trivial⟩
    obtain ⟨db', hdb'⟩ := @ih { db with states := db.states ++ [⟨s, gid, pair.1, pair.2⟩] } hrest hnodup.2 (by
      intro row hrow other hother heq
      rcases List.mem_append.mp hrow with hrow | hrow
      · exact hfresh row hrow other (List.mem_cons_of_mem pair hother) heq
      · obtain rfl := List.mem_singleton.mp hrow
        simp only [Prod.mk.injEq, true_and] at heq
        exact hnodup.1 (heq ▸ List.mem_map_of_mem hother))
    exact ⟨db', by rw [List.foldlM_cons, hinsert, bind_ok, hdb']⟩

/-- The one row of a staged generation is sealed. -/
theorem sealStage_returns (hnodup : (db.stages.map (fun st => (st.streamId, st.generationId))).Nodup)
    (hstage : db.stage s gid = some ⟨s, gid, m, .staged⟩) :
    ∃ db', db.sealStage s gid = .ok db' := by
  have hmem := List.mem_of_find?_eq_some hstage
  have hone : db.stages.filter (fun row => row.streamId = s && row.generationId = gid && row.status = .staged) =
      [⟨s, gid, m, .staged⟩] := by
    have hsub : ∀ row ∈ db.stages.filter (fun row => row.streamId = s && row.generationId = gid &&
        row.status = .staged), row = ⟨s, gid, m, .staged⟩ := by
      intro row hrow
      obtain ⟨hrow, hmatch⟩ := List.mem_filter.mp hrow
      simp only [Bool.and_eq_true, decide_eq_true_eq] at hmatch
      exact List.inj_on_of_nodup_map hnodup hrow hmem (by rw [hmatch.1.1, hmatch.1.2])
    have hrows := (List.Nodup.of_map _ hnodup).filter
      (fun row => row.streamId = s && row.generationId = gid && row.status = .staged)
    have hin : (⟨s, gid, m, .staged⟩ : ReceiverStage) ∈ db.stages.filter (fun row =>
        row.streamId = s && row.generationId = gid && row.status = .staged) :=
      List.mem_filter.mpr ⟨hmem, by simp⟩
    exact List.perm_singleton.mp ((List.perm_ext_iff_of_nodup hrows (List.nodup_singleton _)).mpr
      fun row => ⟨fun hrow => List.mem_singleton.mpr (hsub row hrow), fun hrow => List.mem_singleton.mp hrow ▸ hin⟩)
  simp only [sealStage, bind_eq_ok, require_eq_ok, pure_eq_ok]
  exact ⟨_, (), by rw [hone, List.length_singleton], rfl⟩

/-- A generation that verifies is installed, as long as its stream has none. -/
theorem installGeneration_returns {sanitize : PayloadSanitizer} {records : List ExportedSourceRecord}
    (hdb : Receiving E D db) (htidy : db.Tidy) (hnone : db.pointer s = none)
    (hstage : db.stage s gid = some ⟨s, gid, m, .staged⟩) (hm : m.Storable s gid)
    (hfrozen : matchesHex64 m.frozenReceiptDigest = true) (hderived : replay.Derived sanitize records)
    (hpairs : ∀ pair ∈ replay.derivedStatePairs,
      pair.1.fitsIdColumn = true ∧ 1 ≤ pair.2 ∧ pair.2 ≤ 2147483647)
    (htexts : ∀ t ∈ receipt.texts, fitsJsonb t = true) :
    ∃ db', installGeneration db s gid bSystemId m replay receipt = .ok db' := by
  have hgenerations : ∀ other ∈ db.generations, (other.streamId, other.generationId) ≠ (s, gid) := by
    rintro g hg heq
    obtain ⟨rfl, -⟩ := Prod.mk.inj heq
    obtain ⟨p, hp, -⟩ := hdb.active g hg
    rw [hnone] at hp
    cases hp
  have hstates : ∀ row ∈ db.states, ∀ pair ∈ replay.derivedStatePairs,
      (row.streamId, row.generationId, row.tumblerId) ≠ (s, gid, pair.1) := by
    rintro row hrow pair - heq
    simp only [Prod.mk.injEq] at heq
    have hsome := hdb.states row hrow
    rw [heq.1, hnone] at hsome
    cases hsome
  have htexts' := List.all_eq_true.mpr htexts
  simp only [installGeneration, insertGeneration, insertPointer, bind_eq_ok, require_eq_ok, pure_eq_ok,
    Except.ok.injEq]
  obtain ⟨db₁, hdb₁⟩ := @insertStates_returns
    { db with generations := db.generations ++ [newGeneration s gid bSystemId m replay receipt] }
    s gid _ hm.streamId hpairs hderived.nodup hstates
  obtain rfl := insertStates_ok hdb₁
  obtain ⟨db₂, hdb₂⟩ := @sealStage_returns
    { db with
      generations := db.generations ++ [newGeneration s gid bSystemId m replay receipt]
      states := db.states ++ replay.derivedStatePairs.map (fun pair => ⟨s, gid, pair.1, pair.2⟩)
      pointers := db.pointers ++ [newPointer s gid m replay receipt] } s gid m htidy.stages hstage
  exact ⟨db₂, _, ⟨(), ⟨hm.streamId, hm.generationId, hm.epoch, hm.n.1, hm.n.2, hm.canonicalDigest, hm.manifestRoot,
    hfrozen, hderived.head, hderived.stateDigest, htexts', hgenerations⟩, rfl⟩, _, hdb₁, _,
    ⟨(), ⟨hm.streamId, hm.n.1, hm.n.2, hderived.head, hderived.stateDigest, htexts',
      Option.isNone_iff_eq_none.mpr hnone⟩, rfl⟩, hdb₂⟩

/-- The key that a receiver signs its receipts with, and the name of its database. -/
structure ReceiverParty (E : Ed25519) (bSystemId : JsString) (opts : ReceiverFinalizeOptions E) : Prop where
  keyId : matchesKeyId opts.bKeyId = true
  known : opts.bVerifyResolver opts.bKeyId = some (E.publicKey opts.bPrivateKey)
  systemId : fitsJsonb bSystemId = true

theorem signBFinalizedReceipt_returns {opts : ReceiverFinalizeOptions E} (h : ReceiverParty E bSystemId opts)
    (D : Sha256Bytes) (bare : BFinalizedReceipt) :
    ∃ receipt, signBFinalizedReceipt E D opts.bKeyId opts.bPrivateKey bare = .ok receipt ∧
      verifyBFinalizedReceipt E D opts.bVerifyResolver receipt = .ok () ∧
      receipt = { bare with
        receiptDigest := receipt.receiptDigest, bKeyId := receipt.bKeyId, bSignature := receipt.bSignature } ∧
      receipt.bKeyId = opts.bKeyId ∧
      ∀ t ∈ [receipt.receiptDigest, receipt.bKeyId, receipt.bSignature], fitsJsonb t = true := by
  obtain ⟨signature, hsign⟩ : ∃ signature, edSignB64u E opts.bKeyId opts.bPrivateKey
      (bFinalizedMsg bare (D.hex (bFinalizedMsg bare []))) = .ok signature :=
    ⟨_, bind_eq_ok.mpr ⟨(), require_pos h.keyId, rfl⟩⟩
  have hverified := verifySig_of_sign hsign h.known
  refine ⟨_, bind_eq_ok.mpr ⟨signature, hsign, rfl⟩, ?_, rfl, rfl, ?_⟩
  · simp only [verifyBFinalizedReceipt, bind_eq_ok, require_eq_ok]
    exact ⟨(), rfl, hverified⟩
  · simp only [verifySig, bind_eq_ok, require_eq_ok] at hverified
    obtain ⟨_, -, _, hbase64, -⟩ := hverified
    simp only [List.forall_mem_cons, List.not_mem_nil, false_imp_iff, implies_true, and_true]
    exact ⟨fitsJsonb_of_hex64 (matchesHex64_hex D _), fitsJsonb_of_matchesId (matchesId_of_matchesKeyId h.keyId),
      fitsJsonb_of_base64url hbase64⟩

variable {opts : ReceiverFinalizeOptions E}

theorem matchesHex64_frozenReceiptDigest {bundle : SourceExportBundle} {opts : ReceiverVerifyOptions E}
    (h : verifiedExportSnapshot E D bundle manifest opts = .ok replay) :
    matchesHex64 manifest.frozenReceiptDigest = true := by
  simp only [verifiedExportSnapshot, assertExportBundleBinds, verifySourceFrozenReceipt, bind_eq_ok,
    require_eq_ok] at h
  obtain ⟨_, -, _, -, _, -, _, ⟨_, hdigest, -⟩, _, ⟨hfrozen, -⟩, -⟩ := h
  rw [← hfrozen, ← hdigest, matchesHex64_hex]

/-- What a first finalize returns, and what it leaves. -/
structure FinalizedAs (E : Ed25519) (D : Sha256Bytes) (bSystemId : JsString) (db : ReceiverTables)
    (s gid : JsString) (opts : ReceiverFinalizeOptions E) (manifest : GuardCountersignedExport)
    (replay : ReplayedExport) (receipt : BFinalizedReceipt) (final : ReceiverTables) : Prop where
  returns : finalizeReceiverGeneration E D bSystemId db s gid opts = .ok (receipt, final)
  installs : installGeneration db s gid bSystemId manifest replay receipt = .ok final
  verified : verifyBFinalizedReceipt E D opts.bVerifyResolver receipt = .ok ()
  receipt : receipt = { bareFinalized s gid bSystemId manifest replay with
    receiptDigest := receipt.receiptDigest, bKeyId := receipt.bKeyId, bSignature := receipt.bSignature }

/-- What is staged and verifies is finalized. -/
theorem finalize_returns (hdb : Receiving E D db) (htidy : db.Tidy) (hparty : ReceiverParty E bSystemId opts)
    (hnone : db.pointer s = none) (hstage : db.stage s gid = some ⟨s, gid, manifest, .staged⟩)
    (hm : manifest.Storable s gid)
    (hverified : Reverified E D bSystemId db s gid opts bundle manifest replay)
    (hpairs : ∀ pair ∈ replay.derivedStatePairs,
      pair.1.fitsIdColumn = true ∧ 1 ≤ pair.2 ∧ pair.2 ≤ 2147483647) :
    ∃ receipt final, FinalizedAs E D bSystemId db s gid opts manifest replay receipt final := by
  have hbinds := hverified.binds
  have hderived := derived_of_replaySourceExport hbinds.replayed
  have hhead := fitsJsonb_of_hex64 hderived.head
  have hstate := fitsJsonb_of_hex64 hderived.stateDigest
  have hgid := fitsJsonb_of_matchesId hverified.generationId
  obtain ⟨receipt, hsigned, hreceipt, heq, -, htexts⟩ :=
    signBFinalizedReceipt_returns hparty D (bareFinalized s gid bSystemId manifest replay)
  have hstream := hverified.stream
  have hmtexts := hm.texts
  simp only [GuardCountersignedExport.texts, List.cons_append, List.forall_mem_cons] at hmtexts
  have hall : ∀ t ∈ receipt.texts, fitsJsonb t = true := by
    rw [heq]
    simp only [List.forall_mem_cons] at htexts
    simp only [BFinalizedReceipt.texts, bareFinalized, List.forall_mem_cons, ← hstream]
    obtain ⟨-, hs, hepoch, hcommand, -, hsystem, hfrozen, -, -, hroot, hcanonical, hkey, hsignature, hguard,
      hcountersigned, -⟩ := hmtexts
    obtain ⟨hdigest, hb, hbSignature, -⟩ := htexts
    exact ⟨hs, hcommand, hepoch, hgid, hfrozen, hcanonical, hroot, hsystem, hkey, hsignature, hguard,
      hcountersigned, hhead, hstate, hparty.systemId, hdigest, hb, hbSignature, by simp⟩
  obtain ⟨final, hfinal⟩ : ∃ final, installGeneration db s gid bSystemId manifest replay receipt = .ok final :=
    installGeneration_returns hdb htidy hnone hstage hm (matchesHex64_frozenReceiptDigest hverified.verified)
      hderived hpairs hall
  refine ⟨receipt, final, ?_, hfinal, hreceipt, heq⟩
  simp only [finalizeReceiverGeneration, bind_eq_ok, vId_eq_ok, require_eq_ok]
  refine ⟨_, ⟨hverified.streamId, rfl⟩, _, ⟨hverified.generationId, rfl⟩, _, ⟨hverified.bKeyId, rfl⟩, _,
    hverified.rebuilt, _, ⟨hstream ▸ hverified.streamId, rfl⟩, (), hstream, replay, hverified.verified, (),
    hverified.distinct, ?_⟩
  simp only [hnone, hsigned, hreceipt, hfinal, bind_ok, pure_eq_ok]

end Installing

end TskProtocol
