import TskProtocol.SourceFence.SourceLedger

namespace TskProtocol

variable {E : Ed25519} {D : Sha256Bytes} {opts : PgTskOutboxOptions} {sanitize : PayloadSanitizer}
  {headResolver : SourceVerifyKeyResolver E} {sourceEpoch : JsString} {db : SourceDb}
  {entries : List OutboxEntry} {entry : OutboxEntry} {checkpoint : OutboxCheckpoint}

/-- Rows numbered from 1 on under one source epoch. -/
def Numbered (epoch : JsString) (entries : List OutboxEntry) : Prop :=
  ∀ (i : Nat) entry, entries[i]? = some entry → entry.1.sequence = (i : Int) + 1 ∧ entry.1.sourceEpoch = epoch

theorem Ledger.numbered (h : Ledger D opts (.genesis sourceEpoch) entries checkpoint) :
    Numbered sourceEpoch entries := by
  intro i entry hi
  have hentry := h.getElem?_eq_some hi
  simpa [OutboxCheckpoint.genesis] using hentry

section Chunking

variable {epoch : JsString} {seqFrom seqTo n maxItems : Nat}

theorem Numbered.of_mem_take {k : Nat} (h : Numbered epoch entries) (hmem : entry ∈ entries.take k) :
    entry.1.sourceEpoch = epoch ∧ 1 ≤ entry.1.sequence ∧ entry.1.sequence ≤ (k : Int) := by
  obtain ⟨i, hi, rfl⟩ := List.mem_take_iff_getElem.mp hmem
  obtain ⟨hsequence, hepoch⟩ := h i _ (List.getElem?_eq_getElem (by omega))
  exact ⟨hepoch, by omega, by omega⟩

theorem Numbered.of_mem_drop {k : Nat} (h : Numbered epoch entries) (hmem : entry ∈ entries.drop k) :
    (k : Int) < entry.1.sequence := by
  obtain ⟨i, hi, heq⟩ := List.mem_drop_iff_getElem.mp hmem
  obtain ⟨hsequence, -⟩ := h (k + i) entry (List.getElem?_eq_some_iff.mpr ⟨by omega, heq⟩)
  omega

/-- The rows of a range of sequences stand next to each other. -/
theorem Numbered.filter_range (h : Numbered epoch entries) (hfrom : 1 ≤ seqFrom) (hle : seqFrom ≤ seqTo) :
    entries.filter (fun entry => entry.1.sourceEpoch = epoch ∧
      (seqFrom : Int) ≤ entry.1.sequence ∧ entry.1.sequence ≤ (seqTo : Int)) =
      (entries.take seqTo).drop (seqFrom - 1) := by
  have hhead : (entries.take seqTo).take (seqFrom - 1) = entries.take (seqFrom - 1) := by
    rw [List.take_take, Nat.min_eq_left (by omega)]
  conv_lhs => rw [← List.take_append_drop seqTo entries,
    ← List.take_append_drop (seqFrom - 1) (entries.take seqTo)]
  rw [List.filter_append, List.filter_append, hhead]
  have hbefore : (entries.take (seqFrom - 1)).filter (fun entry => entry.1.sourceEpoch = epoch ∧
      (seqFrom : Int) ≤ entry.1.sequence ∧ entry.1.sequence ≤ (seqTo : Int)) = [] := by
    refine List.filter_eq_nil_iff.mpr fun e he => ?_
    have hbounds := h.of_mem_take he
    simp only [decide_eq_true_eq, not_and]
    omega
  have hafter : (entries.drop seqTo).filter (fun entry => entry.1.sourceEpoch = epoch ∧
      (seqFrom : Int) ≤ entry.1.sequence ∧ entry.1.sequence ≤ (seqTo : Int)) = [] := by
    refine List.filter_eq_nil_iff.mpr fun e he => ?_
    have hbound := h.of_mem_drop he
    simp only [decide_eq_true_eq, not_and]
    omega
  rw [hbefore, hafter, List.nil_append, List.append_nil]
  refine List.filter_eq_self.mpr fun e he => ?_
  obtain ⟨hepoch, -, hto⟩ := h.of_mem_take (List.mem_of_mem_drop he)
  have hfrom : ((seqFrom - 1 : Nat) : Int) < e.1.sequence := by
    rw [List.drop_take] at he
    exact h.of_mem_drop (List.mem_of_mem_take he)
  simp only [decide_eq_true_eq]
  exact ⟨hepoch, by omega, hto⟩

/-- What the exporter needs of the rows. -/
structure Exportable (sanitize : PayloadSanitizer) (epoch : JsString) (entries : List OutboxEntry) :
    Prop where
  numbered : Numbered epoch entries
  bounded : entries.length ≤ MAX_SEQ
  exports : ∀ entry ∈ entries, exportRecord sanitize entry = .ok entry.exported
  framed : ∀ entry ∈ entries, FramedLengths entry.exported.parts

/-- The chunk of the rows from `seqFrom` to `seqTo`. -/
def chunkOf (D : Sha256Bytes) (entries : List OutboxEntry) (ordinal seqFrom seqTo : Nat) :
    ExportHistoryChunk where
  ordinal := ordinal
  seqFrom := seqFrom
  seqTo := seqTo
  records := ((entries.take seqTo).drop (seqFrom - 1)).map OutboxEntry.exported
  byteDigest := D.hex (frame (historyChunkParts
    (((entries.take seqTo).drop (seqFrom - 1)).map OutboxEntry.exported)))

theorem utf8_lt_of_length {s : JsString} (h : s.length < 1073741824) : s.utf8.length < 4294967296 := by
  have hle := s.length_utf8_le
  omega

theorem framed_num {k : Nat} (h : k ≤ MAX_SEQ) : ∀ s ∈ num k, s.utf8.length < 4294967296 := by
  rintro _ ⟨⟩
  have hmax : MAX_SEQ = 1099511627776 := rfl
  have hpow : Nat.pow 10 16 = 10000000000000000 := rfl
  exact utf8_lt_of_length ((JsString.length_ofNat_le (k := 16) (by decide) (by omega)).trans_lt (by decide))

theorem framed_int {k : Int} (hpos : 0 ≤ k) (h : k ≤ MAX_SEQ) : ∀ s ∈ int k, s.utf8.length < 4294967296 := by
  obtain ⟨k, rfl⟩ := Int.eq_ofNat_of_zero_le hpos
  exact framed_num (by omega)

namespace Exportable

theorem lengths {rows : List OutboxEntry} (h : Exportable sanitize epoch entries)
    (hrows : rows.Sublist entries) : FramedLengths (historyChunkParts (rows.map OutboxEntry.exported)) := by
  have hlength := hrows.length_le
  have hmax := h.bounded
  simp only [FramedLengths, historyChunkParts, List.forall_mem_cons, List.length_map]
  refine ⟨?_, ?_, ?_⟩
  · rintro _ ⟨⟩
    decide
  · exact framed_num (by omega)
  · intro part hpart s hs
    obtain ⟨r, hr, hpart⟩ := List.mem_flatMap.mp hpart
    obtain ⟨e, he, rfl⟩ := List.mem_map.mp hr
    exact h.framed e (hrows.subset he) part hpart s hs

theorem exportChunk_ok (h : Exportable sanitize epoch entries) (ordinal : Nat) (hfrom : 1 ≤ seqFrom)
    (hle : seqFrom ≤ seqTo) (hto : seqTo ≤ entries.length) :
    exportChunk D sanitize entries epoch ordinal seqFrom seqTo =
      .ok (chunkOf D entries ordinal seqFrom seqTo) := by
  have hrows : ((entries.take seqTo).drop (seqFrom - 1)).Sublist entries :=
    (List.drop_sublist _ _).trans (List.take_sublist _ _)
  have hlength : ((entries.take seqTo).drop (seqFrom - 1)).length = seqTo - seqFrom + 1 := by
    rw [List.length_drop, List.length_take]
    omega
  have hrecords : ((entries.take seqTo).drop (seqFrom - 1)).mapM (exportRecord sanitize) =
      .ok (((entries.take seqTo).drop (seqFrom - 1)).map OutboxEntry.exported) :=
    mapM_of_forall₂ (List.forall₂_map_right_iff.mpr (List.forall₂_same.mpr
      fun e he => h.exports e (hrows.subset he)))
  simp only [exportChunk, h.numbered.filter_range hfrom hle, historyChunkByteDigest, frameChecked,
    bind_eq_ok, require_eq_ok, pure_eq_ok, Except.ok.injEq]
  exact ⟨(), hlength, _, hrecords, _, ⟨_, ⟨(), h.lengths hrows, rfl⟩, rfl⟩, rfl⟩

theorem historyEntry_chunkOf (h : Exportable sanitize epoch entries) (ordinal : Nat) (hfrom : 1 ≤ seqFrom)
    (hle : seqFrom ≤ seqTo) (hto : seqTo ≤ entries.length) :
    historyEntry D (chunkOf D entries ordinal seqFrom seqTo) = .ok ⟨.history, ordinal, seqFrom, seqTo,
      (seqTo : Int) - seqFrom + 1, (chunkOf D entries ordinal seqFrom seqTo).byteDigest⟩ := by
  have hrows : ((entries.take seqTo).drop (seqFrom - 1)).Sublist entries :=
    (List.drop_sublist _ _).trans (List.take_sublist _ _)
  refine historyEntry_eq_ok.mpr ⟨h.lengths hrows, rfl, ?_⟩
  have hlength : ((chunkOf D entries ordinal seqFrom seqTo).records.length : Int) =
      (seqTo : Int) - seqFrom + 1 := by
    simp only [chunkOf, List.length_map, List.length_drop, List.length_take]
    omega
  rw [hlength]
  rfl

/-- The loop covers what is left of the rows, chunk by chunk. -/
theorem exportChunks_ok (h : Exportable sanitize epoch entries) (hitems : 1 ≤ maxItems) (rounds ordinal : Nat)
    (hfrom : 1 ≤ seqFrom) (hrounds : entries.length < seqFrom + rounds) :
    ∃ chunks inv, exportChunks D sanitize entries epoch entries.length maxItems rounds ordinal seqFrom =
        .ok chunks ∧
      chunks.flatMap ExportHistoryChunk.records = (entries.drop (seqFrom - 1)).map OutboxEntry.exported ∧
      List.Forall₂ (fun c e => historyEntry D c = .ok e) chunks inv ∧
      (seqFrom ≤ entries.length → inv ≠ []) ∧
      assertHistoryEntries ordinal (min seqFrom (entries.length + 1) : Nat) inv = .ok (entries.length + 1) := by
  induction rounds generalizing ordinal seqFrom with
  | zero =>
    refine ⟨[], [], rfl, ?_, .nil, fun hle => absurd hle (by omega), ?_⟩
    · rw [List.drop_of_length_le (by omega)]
      rfl
    · rw [Nat.min_eq_right (by omega)]
      rfl
  | succ rounds ih =>
    simp only [exportChunks]
    split
    · next hle =>
      obtain ⟨chunks, inv, hchunks, hrecords, hentries, -, hassert⟩ :=
        @ih (seqFrom + maxItems) (ordinal + 1) (by omega) (by omega)
      have hto : seqFrom ≤ min (seqFrom + maxItems - 1) entries.length := by omega
      have hchunk := h.exportChunk_ok (D := D) ordinal hfrom hto (Nat.min_le_right _ _)
      have hentry := h.historyEntry_chunkOf (D := D) ordinal hfrom hto (Nat.min_le_right _ _)
      refine ⟨_, _, bind_eq_ok.mpr ⟨_, hchunk, bind_eq_ok.mpr ⟨_, hchunks, rfl⟩⟩, ?_,
        .cons hentry hentries, fun _ => List.cons_ne_nil _ _, ?_⟩
      · have hsplit : entries.drop (seqFrom - 1) =
            (entries.take (min (seqFrom + maxItems - 1) entries.length)).drop (seqFrom - 1) ++
              entries.drop (seqFrom + maxItems - 1) := by
          rw [← List.take_eq_take_min]
          conv_lhs => rw [← List.take_append_drop (seqFrom + maxItems - 1) entries]
          rw [List.drop_append_of_le_length]
          rw [List.length_take]
          omega
        rw [List.flatMap_cons, hrecords, hsplit, List.map_append]
        rfl
      · have hmin : min seqFrom (entries.length + 1) = seqFrom := by omega
        have hnext : ((min (seqFrom + maxItems - 1) entries.length : Nat) : Int) + 1 =
            (min (seqFrom + maxItems) (entries.length + 1) : Nat) := by omega
        simp only [assertHistoryEntries, bind_eq_ok, require_eq_ok, hmin]
        refine ⟨(), trivial, (), trivial, (), trivial, (), by omega, (), trivial, ?_⟩
        rw [hnext]
        exact hassert
    · next hgt =>
      refine ⟨[], [], rfl, ?_, .nil, fun hle => absurd hle hgt, ?_⟩
      · rw [List.drop_of_length_le (by omega)]
        rfl
      · rw [Nat.min_eq_right (by omega)]
        rfl

end Exportable

end Chunking

section Whole

theorem Built.framed {fence : Nat} (h : Built D opts fence checkpoint entry) (hadmitted : AppendAdmitted opts entry)
    (hparties : ExportParties E opts sanitize headResolver) (hseq : entry.1.sequence ≤ (MAX_SEQ : Int)) :
    FramedLengths entry.exported.parts := by
  obtain ⟨-, hepoch, hfence, hpos, -, hop⟩ := h.identified
  obtain ⟨hprev, hhead, hkey⟩ := h.headed
  obtain ⟨hcounter, -, hid⟩ := checkMutation_ok h.checked
  have hpayload := length_mutationText_le entry.1.mutation ⟨Int.le_trans (by decide) hcounter.1, hcounter.2⟩
  have hsignature := hadmitted.signature
  have hpattern {s : JsString} (hs : matchesIdPattern s = true) : s.length ≤ 128 := by
    cases s with
    | nil => cases hs
    | cons c rest =>
      simp only [matchesIdPattern, Bool.and_eq_true, decide_eq_true_eq] at hs
      rw [List.length_cons]
      omega
  have hhex {s : JsString} (hs : matchesHex64 s = true) : s.length = 64 := by
    simp only [matchesHex64, Bool.and_eq_true, decide_eq_true_eq] at hs
    exact hs.1
  have htoken : entry.1.fenceToken.length ≤ 39 := by
    generalize entry.1.fenceToken = token at hfence
    cases token with
    | nil => cases hfence
    | cons c rest =>
      simp only [matchesFenceTokenPattern, Bool.or_eq_true, Bool.and_eq_true, decide_eq_true_eq] at hfence
      rw [List.length_cons]
      rcases hfence with ⟨-, rfl⟩ | hfence
      · simp
      · omega
  intro part hpart
  simp only [ExportedSourceRecord.parts, OutboxEntry.exported, List.mem_cons, List.not_mem_nil, or_false] at hpart
  rcases hpart with rfl | hpart
  · exact framed_int (Int.le_trans (by decide) hpos) hseq
  intro s hs
  refine utf8_lt_of_length ?_
  rcases hpart with rfl | rfl | rfl | rfl | rfl | rfl | rfl | rfl | rfl <;> obtain rfl := Option.some.inj hs
  · exact (hpattern hepoch).trans_lt (by decide)
  · exact htoken.trans_lt (by decide)
  · exact (hhex hop).trans_lt (by decide)
  · exact (hhex hprev).trans_lt (by decide)
  · exact (hhex hhead).trans_lt (by decide)
  · exact (hpattern hkey).trans_lt (by decide)
  · rw [h.alg, hparties.alg]
    decide
  · exact hsignature.trans_lt (by decide)
  · omega

theorem SourceLedger.exportable (h : SourceLedger D opts sourceEpoch db)
    (hparties : ExportParties E opts sanitize headResolver) (hmax : db.entries.length ≤ MAX_SEQ) :
    Exportable sanitize sourceEpoch db.entries := by
  obtain ⟨checkpoint, -, hledger⟩ := h.ledger
  have hbuilt (entry : OutboxEntry) (hmem : entry ∈ db.entries) :
      entry.1.sequence ≤ (MAX_SEQ : Int) ∧ ∃ fence c, Built D opts fence c entry := by
    refine ⟨?_, hledger.built hmem⟩
    have hlast := (hledger.numbered.of_mem_take (k := db.entries.length) (by simpa using hmem)).2.2
    omega
  refine ⟨hledger.numbered, hmax, fun entry hmem => ?_, fun entry hmem => ?_⟩
  · obtain ⟨hseq, fence, c, hbuilt⟩ := hbuilt entry hmem
    exact hbuilt.exportRecord_ok (h.admitted entry hmem) hparties hseq
  · obtain ⟨hseq, fence, c, hbuilt⟩ := hbuilt entry hmem
    exact hbuilt.framed (h.admitted entry hmem) hparties hseq

/-- The head that the next operation links to is the one in the checkpoint. -/
theorem Ledger.head_eq (h : Ledger D opts (.genesis sourceEpoch) entries checkpoint)
    (hpos : 1 ≤ entries.length) : checkpoint.head = checkpoint.headDigest := by
  cases h with
  | nil => simp at hpos
  | snoc _ hbuilt => exact hbuilt.head_checkpoint

/-- Every ledger has a state, whether or not its source epoch is asked for. -/
theorem Ledger.statePairs (h : Ledger D opts (.genesis sourceEpoch) entries checkpoint)
    {asked : Option JsString} (hasked : ∀ epoch ∈ asked, epoch = sourceEpoch) :
    readSourceStatePairs entries entries.length asked = .ok (sortPairs (latestRows entries)) := by
  have hrows : entries.filter (fun entry => (∀ epoch ∈ asked, entry.1.sourceEpoch = epoch) ∧
      entry.1.sequence ≤ (entries.length : Int)) = entries := by
    refine List.filter_eq_self.mpr fun entry hmem => ?_
    obtain ⟨hepoch, -, hlast⟩ :=
      h.numbered.of_mem_take (k := entries.length) (by simpa using hmem)
    simp only [decide_eq_true_eq]
    exact ⟨fun epoch he => hepoch.trans (hasked epoch he).symm, hlast⟩
  simp only [readSourceStatePairs, hrows, bind_eq_ok, require_eq_ok, pure_eq_ok]
  refine ⟨(), fun p hp => ?_, trivial⟩
  obtain ⟨entry, hfind, hcounter⟩ := Option.map_eq_some_iff.mp (mem_latestRows.mp hp)
  obtain ⟨fence, c, hbuilt⟩ := h.built (List.mem_reverse.mp (List.mem_of_find?_eq_some hfind))
  rw [← hcounter]
  exact (checkMutation_ok hbuilt.checked).1

theorem Ledger.stateLengths (h : Ledger D opts (.genesis sourceEpoch) entries checkpoint)
    (hmax : entries.length ≤ MAX_SEQ) : FramedLengths (stateChunkParts (sortPairs (latestRows entries))) := by
  have hlength : (latestRows entries).length ≤ entries.length := by
    have hdedup := (List.dedup_sublist (entries.map (·.1.mutation.tumblerId))).length_le
    rw [List.length_map] at hdedup
    exact (List.length_filterMap_le _ _).trans hdedup
  simp only [FramedLengths, stateChunkParts, List.forall_mem_cons, length_sortPairs]
  refine ⟨?_, framed_num (hlength.trans hmax), fun part hpart => ?_⟩
  · rintro _ ⟨⟩
    decide
  · obtain ⟨p, hp, hpart⟩ := List.mem_flatMap.mp hpart
    obtain ⟨entry, hfind, hcounter⟩ :=
      Option.map_eq_some_iff.mp (mem_latestRows.mp (mem_sortPairs.mp hp))
    have hid : entry.1.mutation.tumblerId = p.1 := by simpa using List.find?_some hfind
    obtain ⟨fence, c, hbuilt⟩ := h.built (List.mem_reverse.mp (List.mem_of_find?_eq_some hfind))
    obtain ⟨hbounds, -, hshort⟩ := checkMutation_ok hbuilt.checked
    simp only [List.mem_cons, List.not_mem_nil, or_false] at hpart
    rcases hpart with rfl | rfl
    · rintro _ ⟨⟩
      rw [← hid]
      exact utf8_lt_of_length (by omega)
    · have hmaxCounter : TSK_HOTP_MAX_COUNTER ≤ (MAX_SEQ : Int) := by decide
      exact framed_int (by omega) (by omega)

theorem matchesStreamId_of_idPattern {s : JsString} (h : matchesIdPattern s = true) :
    matchesStreamId 512 s = true := by
  cases s with
  | nil => cases h
  | cons c rest =>
    simp only [matchesIdPattern, Bool.and_eq_true, decide_eq_true_eq] at h
    simp only [matchesStreamId, Bool.and_eq_true, decide_eq_true_eq, List.length_cons, List.all_cons]
    exact ⟨⟨by omega, by omega⟩, by simp [isIdTail, h.1.1], h.2⟩

theorem assertExportInventory_append {inv : List ExportChunkInventoryEntry} {n : Nat} {itemCount : Int}
    {byteDigest : JsString} (hne : inv ≠ []) (h : assertHistoryEntries 0 1 inv = .ok (n + 1)) :
    assertExportInventory (inv ++ [⟨.state, inv.length, 0, 0, itemCount, byteDigest⟩]) n = .ok () := by
  have hpos := List.length_pos_iff.mpr hne
  simp only [assertExportInventory, List.dropLast_concat, h, List.getLast?_concat, orThrow, bind_ok,
    List.length_append, List.length_singleton, bind_eq_ok, require_eq_ok]
  exact ⟨(), by omega, (), by omega, trivial, by omega, trivial, trivial⟩

section State

variable {pairs : List StatePair} {ordinal : Nat}

/-- The chunk of a state. -/
def stateChunkOf (D : Sha256Bytes) (pairs : List StatePair) (ordinal : Nat) : ExportStateChunk where
  ordinal := ordinal
  itemCount := pairs.length
  pairs := pairs
  byteDigest := D.hex (frame (stateChunkParts pairs))

theorem stateChunkByteDigest_ok (h : FramedLengths (stateChunkParts pairs)) :
    stateChunkByteDigest D pairs = .ok (D.hex (frame (stateChunkParts pairs))) := by
  simp only [stateChunkByteDigest, frameChecked, bind_eq_ok, require_eq_ok, pure_eq_ok, Except.ok.injEq]
  exact ⟨_, ⟨(), h, rfl⟩, rfl⟩

/-- A state that is exported sorted matches itself. -/
theorem stateChunkOf_matches (streamId : JsString) (h : FramedLengths (stateChunkParts pairs))
    (hsorted : sortPairs pairs = pairs) :
    assertStateChunkMatchesReplay D streamId (stateChunkOf D pairs ordinal) pairs = .ok () := by
  have hzip : ∀ p ∈ pairs.zip pairs, p.1 = p.2 := by
    intro p hp
    obtain ⟨i, hi, rfl⟩ := List.mem_iff_getElem.mp hp
    simp
  have hstate : stateDigestFromPairs D streamId 0 (sortPairs pairs) = stateDigestFromPairs D streamId 0 pairs :=
    congrArg _ hsorted
  exact bind_eq_ok.mpr ⟨(), require_pos ⟨rfl, rfl⟩, bind_eq_ok.mpr ⟨(), require_pos hzip,
    bind_eq_ok.mpr ⟨_, stateChunkByteDigest_ok h, bind_eq_ok.mpr ⟨(), require_pos rfl, require_pos hstate⟩⟩⟩⟩

theorem bundleInventory_of {chunks : List ExportHistoryChunk} {inv : List ExportChunkInventoryEntry}
    (hentries : List.Forall₂ (fun c e => historyEntry D c = .ok e) chunks inv)
    (h : FramedLengths (stateChunkParts pairs)) :
    bundleInventory D ⟨chunks, stateChunkOf D pairs chunks.length⟩ =
      .ok (inv ++ [⟨.state, inv.length, 0, 0, pairs.length, D.hex (frame (stateChunkParts pairs))⟩]) := by
  rw [← hentries.length_eq]
  exact bind_eq_ok.mpr ⟨inv, mapM_of_forall₂ hentries, bind_eq_ok.mpr ⟨_, stateChunkByteDigest_ok h,
    bind_eq_ok.mpr ⟨(), require_pos rfl, rfl⟩⟩⟩

end State

end Whole

/-- What is exported of a source replays to its checkpoint and its state. -/
def ExportReplays (E : Ed25519) (D : Sha256Bytes) (streamId : JsString) (sanitize : PayloadSanitizer)
    (headResolver : SourceVerifyKeyResolver E) (db : SourceDb) (maxChunkItems : Option Nat) : Prop :=
  ∃ cp bundle replay inv, db.checkpoint = some cp ∧
    exportSourceHistory D sanitize db.entries streamId cp.sourceEpoch db.entries.length maxChunkItems =
      .ok bundle ∧
    replaySourceExport E D sanitize headResolver streamId cp.sourceEpoch (allRecords bundle) = .ok replay ∧
    (replay.n : Int) = cp.sequence ∧ replay.signedHeadDigestAtN = cp.headDigest ∧
    (∀ asked : Option JsString, (∀ epoch ∈ asked, epoch = cp.sourceEpoch) →
      computeSourceStateDigest D db.entries streamId replay.n asked = .ok replay.sourceStateDigestAtN) ∧
    bundle.stateChunk.pairs = replay.derivedStatePairs ∧
    assertStateChunkMatchesReplay D streamId bundle.stateChunk replay.derivedStatePairs = .ok () ∧
    bundleInventory D bundle = .ok inv ∧ assertExportInventory inv replay.n = .ok ()

/-- Whatever has been appended: the export goes through, and replays to the checkpoint, the head and
the state of the source. -/
theorem export_replays {ls : List LedgerLabel} {s : SourceDb} {maxChunkItems : Option Nat}
    (hrows : db.rows = []) (hcheckpoint : db.checkpoint = some (.genesis sourceEpoch))
    (hparties : ExportParties E opts sanitize headResolver)
    (hrun : (ledgerMachine D opts).Reaches db ls s) (hpos : 1 ≤ s.entries.length)
    (hmax : s.entries.length ≤ MAX_SEQ)
    (hitems : 1 ≤ maxChunkItems.getD DEFAULT_MAX_CHUNK_ITEMS ∧
      maxChunkItems.getD DEFAULT_MAX_CHUNK_ITEMS ≤ 100000) :
    ExportReplays E D opts.streamId sanitize headResolver s maxChunkItems := by
  have hs := (SourceLedger.start hrows hcheckpoint).reaches hrun
  obtain ⟨cp, hcp, hledger⟩ := hs.ledger
  have hepoch : cp.sourceEpoch = sourceEpoch := hledger.sourceEpoch_eq
  have hexportable := hs.exportable hparties hmax
  obtain ⟨chunks, inv, hchunks, hrecords, hentries, hne, hassert⟩ :=
    hexportable.exportChunks_ok (D := D) hitems.1 s.entries.length 0 (Nat.le_refl 1) (by omega)
  obtain ⟨entry, hentry⟩ := List.exists_mem_of_length_pos hpos
  obtain ⟨fence, c, hbuilt⟩ := hledger.built hentry
  have hstream := matchesStreamId_of_idPattern hbuilt.identified.1
  have hlengths := hledger.stateLengths hmax
  have hwell : ∀ entry ∈ s.entries, entry.1.mutation.tumblerId.WellFormed := by
    intro entry hentry
    obtain ⟨fence, c, hbuilt⟩ := hledger.built hentry
    exact wellFormed_of_canonicalizeMutation hbuilt.identified.2.2.2.2.1
  have hpairs (asked : Option JsString) (hasked : ∀ epoch ∈ asked, epoch = cp.sourceEpoch) :=
    hledger.statePairs (fun epoch he => (hasked epoch he).trans hepoch)
  have hrecords : allRecords ⟨chunks, stateChunkOf D (sortPairs (latestRows s.entries)) chunks.length⟩ =
      s.entries.map OutboxEntry.exported := hrecords
  refine ⟨cp, ⟨chunks, stateChunkOf D (sortPairs (latestRows s.entries)) chunks.length⟩,
    { signedHeadDigestAtN := cp.head
      sourceStateDigestAtN :=
        stateDigestFromPairs D opts.streamId s.entries.length (sortPairs (latestRows s.entries))
      derivedStatePairs := sortPairs (latestRows s.entries)
      n := s.entries.length }, _, hcp, ?exported, ?replayed, ?sequence, hledger.head_eq hpos, ?digest, rfl,
    stateChunkOf_matches _ hlengths (sortPairs_sortPairs _), bundleInventory_of hentries hlengths,
    assertExportInventory_append (hne hpos) hassert⟩
  case exported =>
    rw [← hepoch] at hchunks
    simp only [exportSourceHistory, vId_eq_ok, vInt_eq_ok, bind_eq_ok]
    exact ⟨_, ⟨hstream, rfl⟩, _, ⟨⟨hpos, hmax⟩, rfl⟩, _, ⟨hitems, rfl⟩, chunks, hchunks, _,
      hpairs _ (by simp), _, stateChunkByteDigest_ok hlengths, rfl⟩
  case replayed =>
    have hreplays := hledger.replays hs.admitted hparties hmax
    have hne : s.entries.map OutboxEntry.exported ≠ [] := by
      simpa using List.ne_nil_of_length_pos hpos
    rw [hrecords, hepoch]
    simp only [replaySourceExport, bind_eq_ok, vId_eq_ok, require_eq_ok]
    refine ⟨_, ⟨hstream, rfl⟩, (), hne, _, hreplays, ?_⟩
    simp only [sortPairs_collected hwell, List.length_map]
    rfl
  case sequence =>
    rw [hledger.sequence_eq]
    simp [OutboxCheckpoint.genesis]
  case digest =>
    intro asked hasked
    simp only [computeSourceStateDigest, bind_eq_ok, vId_eq_ok, vInt_eq_ok]
    exact ⟨_, ⟨hstream, rfl⟩, _, ⟨⟨Nat.zero_le _, hmax⟩, rfl⟩, _, hpairs asked hasked, rfl⟩

section Sample

/-- Reads a mutation as it stands. -/
def sampleSanitize : PayloadSanitizer := fun value => do
  let tumblerId ← value.strField "tumblerId"
  let counter ← value.numField "counter"
  return ⟨tumblerId, counter⟩

def sampleExportOutbox : PgTskOutboxOptions where
  streamId := JsString.lit "s"
  sanitizer := ⟨some, fun _ => true, fun _ _ _ => rfl⟩
  signer := ⟨JsString.lit "h", JsString.lit "ed25519", fun digest => sampleEd25519.sign [5] digest.utf8⟩
  maxPendingRows := 2199023255552
  maxPendingRows_pos := by decide

def sampleSourceStart : SourceDb where
  fence := some 0
  checkpoint := some (.genesis (JsString.lit "e"))

def sampleOperation (tumblerId : String) (counter : Int) : AppendInput :=
  ⟨JsString.lit "s", ⟨JsString.lit tumblerId, counter⟩, 0⟩

theorem sample_exportParties :
    ExportParties sampleEd25519 sampleExportOutbox sampleSanitize (fun _ => some [5]) where
  alg := rfl
  signs := ⟨[5], rfl, fun _ => rfl⟩
  reads _ := rfl
  idempotent _ _ _ := rfl

theorem sample_acceptable : Acceptable sampleExportOutbox (JsString.lit "e") (sampleOperation "t" 5)
    ⟨JsString.lit "t", 5⟩ where
  stream := rfl
  sanitized := rfl
  checked := by decide
  canonical := by decide
  storable := by decide
  streamId := by decide
  sourceEpoch := by decide
  fenceToken := by decide
  keyId := by decide
  alg := by decide
  signature digest := by
    have hlength : (sampleExportOutbox.signer.sign digest).length = 64 := rollingSha256.length_hex _
    omega

def sampleHistory : List LedgerLabel :=
  [.append (sampleOperation "t" 5) true, .append (sampleOperation "u" 7) true,
    .append (sampleOperation "t" 6) true]

/-- The lengths of the chunks, and the state. -/
def SourceDb.observeExport (db : SourceDb) : List Nat × List StatePair :=
  ((exportSourceHistory rollingSha256 sampleSanitize db.entries (JsString.lit "s") (JsString.lit "e")
    db.entries.length (some 2)).toOption.map (fun bundle =>
      (bundle.historyChunks.map (·.records.length), bundle.stateChunk.pairs))).getD ([], [])

end Sample

theorem export_replays_sample : ∃ s,
    (ledgerMachine rollingSha256 sampleExportOutbox).Reaches sampleSourceStart sampleHistory s ∧
    s.observeExport = ([2, 1], [(JsString.lit "t", 6), (JsString.lit "u", 7)]) ∧
    ExportReplays sampleEd25519 rollingSha256 (JsString.lit "s") sampleSanitize (fun _ => some [5]) s
      (some 2) := by
  obtain ⟨s, hrun, hobserve⟩ := Machine.Runs.of_observed
    (M := ledgerMachine rollingSha256 sampleExportOutbox) (C := fun _ _ => True) sampleSourceStart sampleHistory
    (fun s => (s.entries.length, s.observeExport))
    (b := (3, [2, 1], [(JsString.lit "t", 6), (JsString.lit "u", 7)])) (by decide +kernel)
  obtain ⟨hlength, hobserve⟩ := Prod.mk.inj hobserve
  exact ⟨s, hrun, hobserve, export_replays rfl rfl sample_exportParties hrun (by omega)
    (by rw [hlength]; decide) (by decide)⟩

/-- One operation more than the exporter counts up to: the ledger takes it, and is exported no more. -/
theorem export_refused : ∃ s,
    (ledgerMachine rollingSha256 sampleExportOutbox).Reaches sampleSourceStart
      (List.replicate (MAX_SEQ + 1) (.append (sampleOperation "t" 5) true)) s ∧
    s.entries.length = MAX_SEQ + 1 ∧
    ExportParties sampleEd25519 sampleExportOutbox sampleSanitize (fun _ => some [5]) ∧
    ∀ maxChunkItems, ¬ ExportReplays sampleEd25519 rollingSha256 (JsString.lit "s") sampleSanitize
      (fun _ => some [5]) s maxChunkItems := by
  have hroom : MAX_SEQ + 1 ≤ sampleExportOutbox.maxPendingRows := by decide
  have hlast : ((MAX_SEQ + 1 : Nat) : Int) ≤ MAX_SAFE_INTEGER := by decide
  have hstart : SourceLedger rollingSha256 sampleExportOutbox (JsString.lit "e") sampleSourceStart := .start rfl rfl
  obtain ⟨s, hrun, hlength, -⟩ := sample_acceptable.reaches hstart rfl rfl hroom hlast
  refine ⟨s, hrun, hlength, sample_exportParties, ?_⟩
  rintro maxChunkItems ⟨cp, bundle, replay, inv, -, hexport, -⟩
  simp only [exportSourceHistory, bind_eq_ok, vId_eq_ok, vInt_eq_ok] at hexport
  obtain ⟨_, -, n, ⟨hbound, -⟩, -⟩ := hexport
  omega

end TskProtocol
