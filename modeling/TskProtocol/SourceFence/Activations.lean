import Mathlib.Algebra.Order.BigOperators.Group.List
import Mathlib.Algebra.Order.Group.Nat
import TskProtocol.SourceFence.Activation
import TskProtocol.SourceFence.SourceLedger

namespace TskProtocol

section Octets

namespace JsString

theorem length_le_length_utf8 (s : JsString) : s.length ≤ s.utf8.length := by
  have hunit (c : UInt16) : 1 ≤ (encodeUnit c).length := by
    rw [encodeUnit_eq]
    exact one_le_length_encodePoint _
  induction s using utf8.induct with
  | case1 => simp
  | case2 c => simpa [utf8] using hunit c
  | case3 c d rest h ih =>
    have hpair : 2 ≤ (encodePoint (0x10000 + (c.toNat - 0xD800) * 1024 + (d.toNat - 0xDC00))).length := by
      rcases encodePoint_cases (0x10000 + (c.toNat - 0xD800) * 1024 + (d.toNat - 0xDC00)) with
        ⟨hlt, -⟩ | ⟨-, -, heq⟩ | ⟨-, -, heq⟩ | ⟨-, heq⟩
      · omega
      all_goals simp [heq]
    rw [utf8, if_pos h]
    simp only [List.length_append, List.length_cons]
    omega
  | case4 c d rest h ih =>
    have hc := hunit c
    rw [utf8, if_neg h]
    simp only [List.length_append, List.length_cons] at ih ⊢
    omega

theorem length_le_length_quote (s : JsString) : s.length ≤ s.quote.length := by
  have hunit (c : UInt16) : 1 ≤ (quoteUnit c).length := by
    simp only [quoteUnit, escapeUnit]
    split_ifs <;> simp
  have hunits : s.length ≤ (quoteUnits s).length := by
    induction s using quoteUnits.induct with
    | case1 => simp
    | case2 c => simpa [quoteUnits] using hunit c
    | case3 c d rest h ih =>
      rw [quoteUnits, if_pos h]
      simp only [List.length_cons]
      omega
    | case4 c d rest h ih =>
      have hc := hunit c
      rw [quoteUnits, if_neg h]
      simp only [List.length_append, List.length_cons] at ih ⊢
      omega
  simp only [quote, List.length_append, List.length_cons]
  omega

theorem sum_length_le_join (separator : JsString) (texts : List JsString) :
    (texts.map List.length).sum ≤ (join separator texts).length := by
  induction texts using join.induct with
  | case1 => simp [join]
  | case2 s => simp [join]
  | case3 s rest hne ih =>
    rw [join.eq_3 _ _ _ hne]
    simp only [List.map_cons, List.sum_cons, List.length_append]
    omega

end JsString

theorem jsonbItems_eq_map (items : List Json) : Json.jsonbItems items = items.map Json.jsonbText := by
  induction items with
  | nil => rfl
  | cons item rest ih => rw [Json.jsonbItems, ih, List.map_cons]

theorem jsonbMembers_eq_map (members : List (JsString × Json)) : Json.jsonbMembers members =
    members.map (fun m => m.1.quote ++ JsString.lit ": " ++ m.2.jsonbText) := by
  induction members with
  | nil => rfl
  | cons m rest ih => rw [Json.jsonbMembers, ih, List.map_cons]

/-- The text of an object is at least as long as its values. -/
theorem sum_length_le_ofMembers (members : List (String × Json)) :
    (members.map (fun m => m.2.jsonbText.length)).sum ≤ (Json.ofMembers members).jsonbText.length := by
  have hjoin := JsString.sum_length_le_join (JsString.lit ", ")
    (Json.jsonbMembers (members.map (fun m => (JsString.lit m.1, m.2))))
  simp only [jsonbMembers_eq_map, List.map_map] at hjoin
  simp only [Json.ofMembers, Json.jsonbText, jsonbMembers_eq_map, List.map_map, List.length_append]
  refine le_trans ?_ (hjoin.trans (by omega))
  refine List.sum_le_sum fun m _ => ?_
  simp only [Function.comp_apply, List.length_append]
  omega

/-- A record is at least as long as its two digests. -/
theorem length_record_le {r : ExportedSourceRecord} (hop : matchesHex64 r.opDigest = true)
    (hhead : matchesHex64 r.headDigest = true) : 128 ≤ r.toJson.jsonbText.length := by
  simp only [matchesHex64, Bool.and_eq_true, decide_eq_true_eq] at hop hhead
  have hle := sum_length_le_ofMembers
    [("sequence", .num r.sequence), ("sourceEpoch", .str r.sourceEpoch), ("fenceToken", .str r.fenceToken),
      ("opDigest", .str r.opDigest), ("prevHeadDigest", .str r.prevHeadDigest), ("headDigest", .str r.headDigest),
      ("keyId", .str r.keyId), ("alg", .str r.alg), ("signature", .str r.signature), ("payload", .str r.payload)]
  have hop' := JsString.length_le_length_quote r.opDigest
  have hhead' := JsString.length_le_length_quote r.headDigest
  simp only [List.map_cons, List.map_nil, List.sum_cons, List.sum_nil, Json.jsonbText, Json.stringify,
    Json.render] at hle
  rw [ExportedSourceRecord.toJson]
  omega

/-- A chunk of the history takes its part of the size. -/
theorem octets_history_le {records : List ExportedSourceRecord}
    (h : ∀ r ∈ records, 128 ≤ r.toJson.jsonbText.length) :
    128 * records.length ≤ (ChunkContent.history records).toJson.octets := by
  have hsum : 128 * records.length ≤ (records.map (fun r => r.toJson.jsonbText.length)).sum := by
    induction records with
    | nil => simp
    | cons r rest ih =>
      obtain ⟨hr, hrest⟩ := List.forall_mem_cons.mp h
      have hih := ih hrest
      simp only [List.length_cons, List.map_cons, List.sum_cons]
      omega
  have hjoin := JsString.sum_length_le_join (JsString.lit ", ") (records.map (fun r => r.toJson.jsonbText))
  rw [List.map_map] at hjoin
  refine le_trans (hsum.trans (hjoin.trans ?_)) (JsString.length_le_length_utf8 _)
  simp only [ChunkContent.toJson, Json.jsonbText, jsonbItems_eq_map, List.map_map, List.length_append]
  exact Nat.le_add_right_of_le (Nat.le_add_left _ _)

variable {E : Ed25519} {D : Sha256Bytes} {verifier : ExportVerifier E} {bundle : SourceExportBundle}
  {manifest : GuardCountersignedExport} {replay : ReplayedExport}

/-- The persisted size bounds the number of the records, and so the size of the state. -/
theorem Binds.length_records_le (h : Binds E D verifier bundle manifest.toSourceExportManifest replay) :
    128 * (allRecords bundle).length ≤ persistedBytes bundle.stageChunks manifest := by
  have hreplayed := h.replayed
  simp only [replaySourceExport, bind_eq_ok] at hreplayed
  obtain ⟨_, -, _, -, ⟨head, state⟩, hrecords, -⟩ := hreplayed
  have hlong : ∀ r ∈ allRecords bundle, 128 ≤ r.toJson.jsonbText.length := by
    intro r hr
    obtain ⟨n, prev, mutation, hreplays⟩ := replayRecords_ok hrecords r hr
    have hop := hreplays.opDigest
    simp only [canonicalOpDigest, bind_eq_ok, pure_eq_ok, Except.ok.injEq] at hop
    obtain ⟨_, -, _, -, _, -, _, -, _, -, hop⟩ := hop
    exact length_record_le (hop ▸ matchesHex64_hex D _) (matchesHex64_of_replays hreplays)
  have hchunks : 128 * (allRecords bundle).length ≤
      (bundle.historyChunks.map (fun c => (ChunkContent.history c.records).toJson.octets)).sum := by
    rw [allRecords] at hlong ⊢
    generalize bundle.historyChunks = cs at hlong
    induction cs with
    | nil => simp
    | cons c cs ih =>
      rw [List.flatMap_cons, List.forall_mem_append] at hlong
      have hc := octets_history_le hlong.1
      have hcs := ih hlong.2
      rw [List.flatMap_cons, List.length_append, List.map_cons, List.sum_cons]
      omega
  rw [persistedBytes, SourceExportBundle.stageChunks, List.map_append, List.sum_append, List.map_map]
  exact hchunks.trans (Nat.le_add_right_of_le (Nat.le_add_right _ _))

end Octets

section Import

variable {E : Ed25519} {D : Sha256Bytes} {sanitize : PayloadSanitizer} {headResolver : SourceVerifyKeyResolver E}
  {streamId epoch prev head : JsString} {expectSeq : Int} {state state' : OrderedMap JsString Int}
  {r : ExportedSourceRecord} {records front back : List ExportedSourceRecord} {mutation : TskHotpMutation}
  {db : SourceDb}

/-- What the columns of a ledger ask of a record, besides what a replay has seen to. -/
structure ExportedSourceRecord.Fits (sanitize : PayloadSanitizer) (r : ExportedSourceRecord) : Prop where
  signature : r.signature.length ≤ 4096
  mutation : ∀ mutation, (Json.parse r.payload).bind sanitize = some mutation →
    mutation.tumblerId.fitsIdColumn = true ∧ 1 ≤ mutation.counter ∧ mutation.counter ≤ TSK_HOTP_MAX_COUNTER

/-- The records of a replay are numbered one after the other. -/
theorem replayRecords_numbered (h : replayRecords E D sanitize headResolver streamId epoch expectSeq prev state
    records = .ok (head, state')) : records.Pairwise (fun a b => a.sequence < b.sequence) ∧
      ∀ r ∈ records, expectSeq ≤ r.sequence ∧ r.sequence < expectSeq + records.length := by
  induction records generalizing expectSeq prev state with
  | nil => exact ⟨.nil, by simp⟩
  | cons r rest ih =>
    simp only [replayRecords, bind_eq_ok, replayRecord_eq_ok] at h
    obtain ⟨mutation, hr, hrest⟩ := h
    obtain ⟨hsorted, hall⟩ := ih hrest
    have hseq := hr.sequence
    refine ⟨List.pairwise_cons.mpr ⟨fun later hlater => ?_, hsorted⟩, ?_⟩
    · have hle := (hall later hlater).1
      omega
    · simp only [List.forall_mem_cons, List.length_cons]
      refine ⟨by omega, fun later hlater => ?_⟩
      have hbetween := hall later hlater
      omega

/-- A row goes behind the rows of lower sequences. -/
theorem orderedInsert_last {rows : List OutboxRow} {row : OutboxRow}
    (h : ∀ other ∈ rows, other.sequence < row.sequence) :
    rows.orderedInsert (fun a b => a.sequence ≤ b.sequence) row = rows ++ [row] := by
  induction rows with
  | nil => rfl
  | cons other rest ih =>
    obtain ⟨hother, hrest⟩ := List.forall_mem_cons.mp h
    rw [List.orderedInsert_cons, if_neg (not_le.mpr hother), ih hrest, List.cons_append]

theorem maxSequence_le {n : Int} (hn : 0 ≤ n) (h : ∀ row ∈ db.rows, row.sequence ≤ n) : db.maxSequence ≤ n := by
  have hfold : ∀ (rows : List OutboxRow) (m : Int), m ≤ n → (∀ row ∈ rows, row.sequence ≤ n) →
      rows.foldl (fun n row => max n row.sequence) m ≤ n := by
    intro rows
    induction rows with
    | nil => exact fun m hm _ => hm
    | cons row rest ih =>
      intro m hm hrows
      obtain ⟨hrow, hrest⟩ := List.forall_mem_cons.mp hrows
      exact ih _ (max_le hm hrow) hrest
  exact hfold db.rows 0 hn h

/-- The row of a record is exported as the record. -/
theorem exported_row (h : canonicalizeMutation mutation = .ok r.payload) :
    (r.row streamId mutation).entry.exported = r := by
  have hpayload := canonicalizeMutation_ok h
  cases r
  simp only [OutboxEntry.exported, OutboxRow.entry, ExportedSourceRecord.row, ExportedSourceRecord.header,
    ExportedSourceRecord.signedHead, ← hpayload]

theorem mutationText_injective {m m' : TskHotpMutation} (h : mutationText m = mutationText m') : m = m' := by
  have hparsed := congrArg Json.parse h
  simp only [parse_mutationText, Json.ofStoredMutation, Option.some.injEq, Json.obj.injEq, List.cons.injEq,
    Prod.mk.injEq, Json.num.injEq, Json.str.injEq, true_and, and_true] at hparsed
  cases m
  cases m'
  simp only at hparsed
  rw [hparsed.1, hparsed.2]

/-- A record that the ledger has is passed over. -/
theorem importRecord_existing {row : OutboxRow}
    (hr : RecordReplays E D sanitize headResolver streamId epoch expectSeq prev r mutation)
    (hrow : row ∈ db.rows) (hexported : row.entry.exported = r)
    (hunique : ∀ other ∈ db.rows, other.sequence = r.sequence → other = row) :
    importRecord sanitize streamId db r = .ok db := by
  have hsequence : row.sequence = r.sequence := by rw [← hexported]; rfl
  have hfind : db.rows.find? (fun row => row.sequence = r.sequence) = some row := by
    cases hfound : db.rows.find? (fun row => row.sequence = r.sequence) with
    | none =>
      have hnone := List.find?_eq_none.mp hfound row hrow
      simp [hsequence] at hnone
    | some other =>
      have hother : other.sequence = r.sequence := by simpa using List.find?_some hfound
      rw [hunique other (List.mem_of_find?_eq_some hfound) hother]
  obtain ⟨parsed, hparse, hsanitize⟩ := Option.bind_eq_some_iff.mp hr.payload
  have htext : mutationText row.record.mutation = mutationText mutation := by
    rw [← canonicalizeMutation_ok hr.canonical, ← hexported]
    rfl
  have hstored : canonicalizeMutation row.record.mutation = .ok r.payload := by
    rw [mutationText_injective htext, hr.canonical]
  simp only [importRecord, hparse, hsanitize, orThrow, bind_ok, hr.canonical, hfind, hstored]
  simp only [bind_eq_ok, liftContract_eq_ok, require_eq_ok, pure_eq_ok]
  subst hexported
  exact ⟨_, rfl, _, rfl, (), ⟨rfl, rfl, rfl, rfl, rfl, rfl, rfl, rfl, rfl⟩, trivial⟩

/-- A record behind the rows of the ledger becomes its last row. -/
theorem importRecord_new
    (hr : RecordReplays E D sanitize headResolver streamId epoch expectSeq prev r mutation)
    (hbehind : ∀ row ∈ db.rows, row.sequence < r.sequence) (hfits : r.Fits sanitize) :
    importRecord sanitize streamId db r = .ok { db with rows := db.rows ++ [r.row streamId mutation] } := by
  have hfind : db.rows.find? (fun row => row.sequence = r.sequence) = none := by
    simp only [List.find?_eq_none, decide_eq_true_eq]
    exact fun row hrow => (hbehind row hrow).ne
  obtain ⟨parsed, hparse, hsanitize⟩ := Option.bind_eq_some_iff.mp hr.payload
  obtain ⟨hid, hcounter⟩ := hfits.mutation mutation hr.payload
  have hsignature := hr.signature
  simp only [verifyHeadSignature, bind_eq_ok, require_eq_ok, matchesBase64Url, Bool.and_eq_true,
    decide_eq_true_eq] at hsignature
  obtain ⟨_, ⟨hlength, -⟩, -⟩ := hsignature
  have hinsertable : (r.row streamId mutation).insertable db.rows = true := by
    simp only [OutboxRow.insertable, Bool.and_eq_true, decide_eq_true_eq, List.all_eq_true]
    refine ⟨⟨⟨hid, hlength⟩, hfits.signature⟩, fun other hother heq => ?_⟩
    exact (hbehind other hother).ne (congrArg Prod.snd heq)
  simp only [importRecord, hparse, hsanitize, orThrow, bind_ok, hr.canonical, hfind]
  simp only [bind_eq_ok, liftContract_eq_ok, require_eq_ok, pure_eq_ok]
  refine ⟨_, rfl, (), ⟨hinsertable, hcounter⟩, ?_⟩
  rw [orderedInsert_last]
  exact hbehind

theorem sequence_exported {row : OutboxRow} : row.entry.exported.sequence = row.sequence := rfl

/-- The records that the ledger has leave it as it is. -/
theorem importRecords_existing (hreplays : ∀ r ∈ records, ∃ n prev mutation,
      RecordReplays E D sanitize headResolver streamId epoch n prev r mutation)
    (hsorted : (db.entries.map OutboxEntry.exported).Pairwise (fun a b => a.sequence < b.sequence))
    (hsub : records ⊆ db.entries.map OutboxEntry.exported) :
    records.foldlM (importRecord sanitize streamId) db = .ok db := by
  have hunique : ∀ row ∈ db.rows, ∀ other ∈ db.rows, other.sequence = row.sequence → other = row := by
    rw [SourceDb.entries, List.map_map, List.pairwise_map] at hsorted
    have hnodup : (db.rows.map (·.sequence)).Nodup :=
      List.pairwise_map.mpr (hsorted.imp fun hlt => hlt.ne)
    exact fun row hrow other hother heq => List.inj_on_of_nodup_map hnodup hother hrow heq
  induction records with
  | nil => rfl
  | cons r rest ih =>
    obtain ⟨⟨n, prev, mutation, hr⟩, hrest⟩ := List.forall_mem_cons.mp hreplays
    obtain ⟨hmem, hsub⟩ := List.cons_subset.mp hsub
    obtain ⟨entry, hentry, hexported⟩ := List.mem_map.mp hmem
    obtain ⟨row, hrow, rfl⟩ := List.mem_map.mp hentry
    have hfirst : importRecord sanitize streamId db r = .ok db := by
      refine importRecord_existing hr hrow hexported fun other hother heq => hunique row hrow other hother ?_
      rw [heq, ← hexported, sequence_exported]
    rw [List.foldlM_cons, hfirst, bind_ok, ih hrest hsub]

/-- The records behind the ledger become its rows. -/
theorem importRecords_new (hreplays : ∀ r ∈ back, ∃ n prev mutation,
      RecordReplays E D sanitize headResolver streamId epoch n prev r mutation)
    (hfits : ∀ r ∈ back, r.Fits sanitize)
    (hsorted : (db.entries.map OutboxEntry.exported ++ back).Pairwise (fun a b => a.sequence < b.sequence)) :
    ∃ rows, back.foldlM (importRecord sanitize streamId) db = .ok { db with rows } ∧
      rows.map (·.entry.exported) = db.entries.map OutboxEntry.exported ++ back := by
  induction back generalizing db with
  | nil => exact ⟨db.rows, rfl, by simp [SourceDb.entries]⟩
  | cons r rest ih =>
    obtain ⟨⟨n, prev, mutation, hr⟩, hrest⟩ := List.forall_mem_cons.mp hreplays
    obtain ⟨hfit, hfits⟩ := List.forall_mem_cons.mp hfits
    have hbehind : ∀ row ∈ db.rows, row.sequence < r.sequence := by
      intro row hrow
      exact (List.pairwise_append.mp hsorted).2.2 row.entry.exported
        (List.mem_map_of_mem (List.mem_map_of_mem hrow)) r (by simp)
    have hentries : (SourceDb.entries { db with rows := db.rows ++ [r.row streamId mutation] }).map
        OutboxEntry.exported = db.entries.map OutboxEntry.exported ++ [r] := by
      simp [SourceDb.entries, exported_row hr.canonical]
    obtain ⟨rows, hrows, hexported⟩ := @ih { db with rows := db.rows ++ [r.row streamId mutation] } hrest hfits (by
      rw [hentries, List.append_assoc, List.singleton_append]
      exact hsorted)
    refine ⟨rows, ?_, ?_⟩
    · rw [List.foldlM_cons, importRecord_new hr hbehind hfit, bind_ok, hrows]
    · rw [hexported, hentries, List.append_assoc, List.singleton_append]

/-- The tables of a source that a history goes on from: its rows are the first records, and neither its
checkpoint nor its fence is ahead. -/
structure SourceDb.Behind (db : SourceDb) (records : List ExportedSourceRecord) (checkpoint : OutboxCheckpoint)
    (targetEpoch : Nat) : Prop where
  rows : db.entries.map OutboxEntry.exported <+: records
  checkpoint : ∀ cp ∈ db.checkpoint, cp.sequence ≤ checkpoint.sequence ∧
    (cp.sequence = checkpoint.sequence → cp = checkpoint)
  fence : ∀ current ∈ db.fence, current ≤ targetEpoch

/-- Every history goes on from a database without a ledger. -/
theorem SourceDb.Behind.empty (records : List ExportedSourceRecord) (checkpoint : OutboxCheckpoint)
    (targetEpoch : Nat) : SourceDb.Behind { fence := none, checkpoint := none } records checkpoint targetEpoch := by
  refine ⟨List.nil_prefix, ?_, ?_⟩
  · rintro cp ⟨⟩
  · rintro current ⟨⟩

/-- What an import leaves. -/
structure SourceDb.Imported (db : SourceDb) (records : List ExportedSourceRecord) (checkpoint : OutboxCheckpoint)
    (targetEpoch : Nat) : Prop where
  rows : db.entries.map OutboxEntry.exported = records
  checkpoint : db.checkpoint = some checkpoint
  fence : db.fence = some targetEpoch

/-- A history that replays is imported behind its first records. -/
theorem importSource_returns {replay : ReplayedExport} {manifest : GuardCountersignedExport} {targetEpoch : Nat}
    (h : replaySourceExport E D sanitize headResolver streamId epoch records = .ok replay)
    (hfits : ∀ r ∈ records, r.Fits sanitize)
    (hbehind : db.Behind records ⟨manifest.sourceEpoch, replay.n, replay.signedHeadDigestAtN⟩ targetEpoch) :
    ∃ db', importSource sanitize db streamId targetEpoch manifest records replay = .ok db' ∧
      db'.Imported records ⟨manifest.sourceEpoch, replay.n, replay.signedHeadDigestAtN⟩ targetEpoch := by
  have hn := (derived_of_replaySourceExport h).n
  simp only [replaySourceExport, bind_eq_ok, vId_eq_ok, pure_eq_ok] at h
  obtain ⟨_, ⟨-, rfl⟩, _, -, ⟨head, state⟩, hrecords, -⟩ := h
  obtain ⟨hsorted, hnumbered⟩ := replayRecords_numbered hrecords
  have hreplays := replayRecords_ok hrecords
  obtain ⟨back, rfl⟩ := hbehind.rows
  rw [List.forall_mem_append] at hreplays hfits
  have hfront : (db.entries.map OutboxEntry.exported).foldlM (importRecord sanitize streamId) db = .ok db :=
    importRecords_existing hreplays.1 (List.pairwise_append.mp hsorted).1 (List.Subset.refl _)
  obtain ⟨rows, hback, hexported⟩ := @importRecords_new _ _ _ _ streamId _ _ db hreplays.2 hfits.2 hsorted
  have hmax : db.maxSequence ≤ replay.n := by
    refine maxSequence_le (Int.natCast_nonneg _) fun row hrow => ?_
    have hlt := (hnumbered row.entry.exported
      (List.mem_append_left _ (List.mem_map_of_mem (List.mem_map_of_mem hrow)))).2
    rw [sequence_exported] at hlt
    omega
  refine ⟨{ db with rows, fence := some targetEpoch, checkpoint := some ⟨manifest.sourceEpoch, replay.n,
    replay.signedHeadDigestAtN⟩ }, ?_, ?_, rfl, rfl⟩
  · simp only [importSource, advanceTargetFence, importCheckpoint, List.foldlM_append, bind_eq_ok, require_eq_ok,
      pure_eq_ok]
    exact ⟨(), hmax, _, ⟨_, hfront, hback⟩, _, ⟨(), hbehind.fence, rfl⟩, _, ⟨(), hbehind.checkpoint, rfl⟩, rfl⟩
  · rw [SourceDb.entries, List.map_map, ← hexported]
    rfl

end Import

section Installed

open ReceiverTables

variable {E : Ed25519} {D : Sha256Bytes} {bSystemId s gid : JsString} {db db' : ReceiverTables}
  {bundle : SourceExportBundle} {manifest : GuardCountersignedExport} {replay : ReplayedExport}
  {receipt : BFinalizedReceipt}

/-- An installed generation with the rows that an activation reads. -/
structure ReceiverTables.Installed (db : ReceiverTables) (s gid : JsString) (bundle : SourceExportBundle)
    (p : ReceiverPointer) (g : ReceiverGeneration) : Prop where
  pointer : db.pointer s = some p
  generation : db.generations.find? (fun g => g.streamId = s && g.generationId = gid) = some g
  stage : db.stage s gid = some ⟨s, gid, g.manifest, .installed⟩
  chunks : db.stageChunks s gid = bundle.stageChunks.map (fun c => ⟨c, s, gid⟩)

variable {p : ReceiverPointer} {g : ReceiverGeneration}

theorem ReceiverTables.Installed.step {l : StagingLabel E} (h : db.Installed s gid bundle p g)
    (hstep : db.step D bSystemId l = some db') : db'.Installed s gid bundle p g := by
  rcases step_cases hstep with rfl | ⟨s', gid', m, bundle', hnone, rfl⟩ |
    ⟨s', gid', opts, bundle', m, replay', receipt', hnone, -, hinstall⟩
  · exact h
  · have hkept := @kept_staging _ s' gid' bundle' m hnone
    refine ⟨hkept.pointer s p h.pointer, h.generation, ?_, (hkept.chunks s gid _ h.stage).trans h.chunks⟩
    have hstage := h.stage
    simp only [ReceiverTables.stage, staging, List.find?_append] at hstage ⊢
    rw [hstage, Option.some_or]
  · have hkept := kept_installed hinstall
    obtain ⟨-, rfl⟩ := installGeneration_ok hinstall
    refine ⟨hkept.pointer s p h.pointer, ?_, ?_, h.chunks⟩
    · have hgeneration := h.generation
      simp only [List.find?_append] at hgeneration ⊢
      rw [hgeneration, Option.some_or]
    · have hstage := h.stage
      simp only [ReceiverTables.stage, List.find?_map, Function.comp_def, sealed_streamId, sealed_generationId] at hstage ⊢
      rw [hstage, Option.map_some, ReceiverTables.sealed]
      simp

theorem ReceiverTables.Installed.reaches {ls : List (StagingLabel E)} (h : db.Installed s gid bundle p g)
    (hrun : (stagingMachine E D bSystemId).Reaches db ls db') : db'.Installed s gid bundle p g :=
  hrun.invariant (I := fun db => db.Installed s gid bundle p g) (fun _ _ _ hdb _ hstep => hdb.step hstep) h

/-- A generation that is installed stands on what was staged. -/
theorem installed_of_installGeneration (hdb : Receiving E D db)
    (hstage : db.stage s gid = some ⟨s, gid, manifest, .staged⟩)
    (hchunks : db.stageChunks s gid = bundle.stageChunks.map (fun c => ⟨c, s, gid⟩))
    (hinstall : installGeneration db s gid bSystemId manifest replay receipt = .ok db') :
    db'.Installed s gid bundle (newPointer s gid manifest replay receipt)
      (newGeneration s gid bSystemId manifest replay receipt) := by
  have hpointer := (installed_pointer hinstall s (newPointer s gid manifest replay receipt)).mpr (.inr ⟨rfl, rfl⟩)
  obtain ⟨hnone, rfl⟩ := installGeneration_ok hinstall
  have hgenerations : db.generations.find? (fun g => g.streamId = s && g.generationId = gid) = none := by
    simp only [List.find?_eq_none, Bool.and_eq_true, decide_eq_true_eq]
    rintro g hg ⟨rfl, -⟩
    obtain ⟨p, hp, -⟩ := hdb.active g hg
    rw [hnone] at hp
    cases hp
  refine ⟨hpointer, ?_, ?_, hchunks⟩
  · simp only [List.find?_append, hgenerations, Option.none_or]
    simp [newGeneration]
  · simp only [stage, List.find?_map, Function.comp_def, sealed_streamId, sealed_generationId] at hstage ⊢
    rw [hstage, Option.map_some, ReceiverTables.sealed]
    simp [newGeneration]

/-- An export that the receiver has accepted as a new generation, some transactions before `u`; no generation of
its stream is active. -/
structure AcceptedExport (E : Ed25519) (D : Sha256Bytes) (bSystemId gid : JsString)
    (opts : ReceiverVerifyOptions E) (bundle : SourceExportBundle) (manifest : GuardCountersignedExport)
    (u : ReceiverTables) : Prop where
  staged : ∃ ls db t ks, (stagingMachine E D bSystemId).Reaches {} ls db ∧
    db.stage manifest.streamId gid = none ∧
    stageReceiverExport E D db gid bundle manifest opts = .ok t ∧ (stagingMachine E D bSystemId).Reaches t ks u
  inactive : u.pointer manifest.streamId = none
  distinct : bSystemId ≠ manifest.sourceSystemId
  chunkCount : manifest.chunkCount ≤ 100000
  fits : ∀ r ∈ allRecords bundle, r.Fits opts.verifier.sanitize

/-- A stage is not sealed before its stream has a generation. -/
theorem stage_staged {u : ReceiverTables} (htidy : u.Tidy) (hkept : (db.staging s gid manifest bundle).Kept u)
    (hnone : db.stage s gid = none) (hpointer : u.pointer s = none) :
    u.stage s gid = some ⟨s, gid, manifest, .staged⟩ := by
  obtain ⟨⟨s', gid', m, status⟩, hst, rfl⟩ := Option.map_eq_some_iff.mp (hkept.stage s gid _ (stage_staging hnone))
  have hkey := List.find?_some hst
  simp only [Bool.and_eq_true, decide_eq_true_eq] at hkey
  obtain ⟨rfl, rfl⟩ := hkey
  cases status with
  | staged => exact hst
  | installed =>
    have hsome := htidy.sealed _ (List.mem_of_find?_eq_some hst) rfl
    simp only at hsome
    rw [hpointer] at hsome
    cases hsome

variable {opts : ReceiverFinalizeOptions E} {u : ReceiverTables}

/-- What has been accepted is finalized. -/
theorem AcceptedExport.finalize
    (h : AcceptedExport E D bSystemId gid opts.toReceiverVerifyOptions bundle manifest u)
    (hparty : ReceiverParty E bSystemId opts)
    (hbytes : persistedBytes bundle.stageChunks manifest ≤ MAX_SNAPSHOT_BYTES) :
    ∃ replay receipt final,
      verifiedExportSnapshot E D bundle manifest opts.toReceiverVerifyOptions = .ok replay ∧
      FinalizedAs E D bSystemId u manifest.streamId gid opts manifest replay receipt final ∧
      final.Installed manifest.streamId gid bundle (newPointer manifest.streamId gid manifest replay receipt)
        (newGeneration manifest.streamId gid bSystemId manifest replay receipt) := by
  obtain ⟨ls, db, t, ks, hrun, hnone, hstage, hlater⟩ := h.staged
  obtain ⟨⟨replay, hverified⟩, hstream, hstorable, rfl⟩ := stageReceiverExport_new hstage hnone
  have htidy := tidy_of_reaches hrun
  have hstep : (stagingMachine E D bSystemId).step db (.stage gid bundle manifest opts.toReceiverVerifyOptions) =
      some (db.staging manifest.streamId gid manifest bundle) := by
    simp only [stagingMachine, ReceiverTables.step, hstage]
  have hreached := (hrun.snoc trivial hstep).append hlater
  have hkept := kept_of_reaches hlater
  have hstaged := stage_staged (tidy_of_reaches hreached) hkept hnone h.inactive
  have hchunks := (hkept.chunks _ _ _ (stage_staging hnone)).trans (htidy.stageChunks_staging hnone)
  have hsnapshot := hverified
  simp only [verifiedExportSnapshot, verifyGuardCountersignedExport, verifySourceExportManifest, bind_eq_ok,
    require_eq_ok] at hsnapshot
  obtain ⟨_, -, _, -, _, ⟨_, ⟨_, -, _, hcount, -⟩, -⟩, hbound⟩ := hsnapshot
  have hbinds := assertExportBundleBinds_ok hbound
  have hderived := derived_of_replaySourceExport hbinds.replayed
  obtain ⟨hnumbered, hlength⟩ := hbinds.numbered
  have hrecords := hbinds.length_records_le
  have hpairs := hderived.length
  have hcounted : manifest.inventory.length ≤ 100000 := hcount ▸ h.chunkCount
  have hrebuildable : bundle.Rebuildable := rebuildable_of_binds hbound hcounted (by
    rw [hbinds.pairs]
    have hmax : MAX_SNAPSHOT_BYTES = 67108864 := rfl
    omega)
  have hrebuilt := hkept.rebuilt (rebuildStagedBundle_staging htidy hnone hrebuildable (hcount.trans hlength)
    hnumbered.nonempty h.chunkCount)
  have hreceiving := receiving_of_reaches hreached
  have hreverified : Reverified E D bSystemId u manifest.streamId gid opts bundle manifest replay :=
    ⟨hstream, hstorable.generationId, hparty.keyId, hrebuilt, rfl, hverified, h.distinct⟩
  obtain ⟨receipt, final, hfinal⟩ := finalize_returns hreceiving (tidy_of_reaches hreached) hparty h.inactive
    hstaged hstorable hreverified (by
      intro pair hpair
      obtain ⟨r, hr, mutation, hmutation, rfl⟩ := hderived.pairs pair hpair
      exact (h.fits r hr).mutation mutation hmutation)
  exact ⟨replay, receipt, final, hverified, hfinal,
    installed_of_installGeneration hreceiving hstaged hchunks hfinal.installs⟩

end Installed

section Activated

open ReceiverTables

variable {E : Ed25519} {D : Sha256Bytes} {bSystemId s gid : JsString} {bundle : SourceExportBundle}
  {manifest : GuardCountersignedExport} {replay : ReplayedExport} {receipt : BFinalizedReceipt}
  {opts : ReceiverFinalizeOptions E} {u final : ReceiverTables} {leaseResolver : SourceVerifyKeyResolver E}
  {grant : LeaseGrant} {targetEpoch maxBytes : Nat} {maxSnapshotBytes : Option Nat} {db : TargetDb}

/-- The options of an activation that trusts what the finalize before has trusted. -/
def ReceiverFinalizeOptions.activation (opts : ReceiverFinalizeOptions E)
    (leaseResolver : SourceVerifyKeyResolver E) (receipt : BFinalizedReceipt) (grant : LeaseGrant)
    (targetEpoch : Nat) (maxSnapshotBytes : Option Nat) : ImportedSourceActivationOptions E where
  verifier := opts.verifier
  sourceResolver := opts.sourceResolver
  guardResolver := opts.guardResolver
  bReceiptResolver := opts.bVerifyResolver
  leaseResolver := leaseResolver
  frozenReceipt := opts.frozenReceipt
  finalizedReceipt := receipt
  activationLease := grant
  targetEpoch := targetEpoch
  maxSnapshotBytes := maxSnapshotBytes

/-- The sizes that an activation allows its arguments. -/
structure ImportedSourceActivationOptions.WithinBounds (opts : ImportedSourceActivationOptions E)
    (maxBytes : Nat) : Prop where
  texts : ∀ s ∈ opts.finalizedReceipt.texts, s.utf8.length ≤ CANON_MAX_STRING_BYTES
  canonical : opts.finalizedReceipt.toJson.canonical.utf8.length ≤ CANON_MAX_TOTAL_BYTES
  snapshot : opts.snapshotJson.utf8.length ≤ maxBytes

theorem persistedBundle_stageChunks : persistedBundle bundle.stageChunks = .ok bundle := by
  have hstate : bundle.stageChunks.filterMap StageChunk.stateChunk = [bundle.stateChunk] := by
    simp [SourceExportBundle.stageChunks, List.filterMap_append, List.filterMap_map, StageChunk.stateChunk,
      Function.comp_def]
  have hhistory : bundle.stageChunks.filterMap StageChunk.historyChunk = bundle.historyChunks := by
    simp [SourceExportBundle.stageChunks, List.filterMap_append, List.filterMap_map, StageChunk.historyChunk,
      Function.comp_def]
  simp only [persistedBundle, hstate, hhistory]

theorem fitsJsonb_of_installGeneration {db db' : ReceiverTables}
    (h : installGeneration db s gid bSystemId manifest replay receipt = .ok db') :
    ∀ t ∈ receipt.texts, fitsJsonb t = true := by
  simp only [installGeneration, insertGeneration, bind_eq_ok, require_eq_ok] at h
  obtain ⟨_, ⟨_, ⟨-, -, -, -, -, -, -, -, -, -, htexts, -⟩, -⟩, -⟩ := h
  exact List.all_eq_true.mp htexts

theorem epoch_of_installGeneration {db db' : ReceiverTables}
    (h : installGeneration db s gid bSystemId manifest replay receipt = .ok db') : manifest.epoch < 10 ^ 20 := by
  simp only [installGeneration, insertGeneration, fitsBigint, bind_eq_ok, require_eq_ok, Bool.and_eq_true,
    decide_eq_true_eq] at h
  obtain ⟨_, ⟨_, ⟨-, -, ⟨-, hepoch⟩, -⟩, -⟩, -⟩ := h
  omega

/-- A receipt of safe numbers and stored texts has a canonical form, up to its size. -/
theorem canonicalizeReceipt_returns (hnumbers : isSafeInteger receipt.epoch = true ∧ isSafeInteger receipt.n = true)
    (hstored : ∀ t ∈ receipt.texts, fitsJsonb t = true)
    (htexts : ∀ t ∈ receipt.texts, t.utf8.length ≤ CANON_MAX_STRING_BYTES)
    (hcanonical : receipt.toJson.canonical.utf8.length ≤ CANON_MAX_TOTAL_BYTES) :
    canonicalizeReceipt receipt = .ok receipt.toJson.canonical := by
  have hlone : ∀ t ∈ receipt.texts, t.hasLoneSurrogate = false := by
    intro t ht
    have hfits := hstored t ht
    simp only [fitsJsonb, Bool.and_eq_true, Bool.not_eq_true'] at hfits
    exact hfits.2
  simp only [canonicalizeReceipt, bind_eq_ok, require_eq_ok, pure_eq_ok]
  exact ⟨(), hnumbers, (), hlone, (), htexts, (), hcanonical, trivial⟩

/-- The persisted generation verifies as it did when it was finalized. -/
theorem verifiedGeneration_returns {rdb : ReceiverTables}
    (hverified : verifiedExportSnapshot E D bundle manifest opts.toReceiverVerifyOptions = .ok replay)
    (hinstalled : rdb.Installed manifest.streamId gid bundle
      (newPointer manifest.streamId gid manifest replay receipt)
      (newGeneration manifest.streamId gid bSystemId manifest replay receipt))
    (hcanonical : canonicalizeReceipt receipt = .ok receipt.toJson.canonical) (hn : receipt.n = manifest.n)
    (hcount : manifest.chunkCount ≤ 100000) (hbytes : persistedBytes bundle.stageChunks manifest ≤ maxBytes) :
    verifiedGeneration E D rdb manifest.streamId gid
      (opts.activation leaseResolver receipt grant targetEpoch maxSnapshotBytes) maxBytes =
      .ok (manifest, allRecords bundle, replay) := by
  simp only [verifiedExportSnapshot, bind_eq_ok] at hverified
  obtain ⟨_, -, _, -, _, hsigned, hbound⟩ := hverified
  have hbinds := assertExportBundleBinds_ok hbound
  obtain ⟨hnumbered, hlength⟩ := hbinds.numbered
  have hchunkCount : manifest.chunkCount = manifest.inventory.length := by
    simp only [verifyGuardCountersignedExport, verifySourceExportManifest, bind_eq_ok, require_eq_ok] at hsigned
    obtain ⟨_, ⟨_, -, _, hchunkCount, -⟩, -⟩ := hsigned
    exact hchunkCount
  have hfrozen : opts.frozenReceipt.receiptDigest = manifest.frozenReceiptDigest := by
    simp only [assertExportBundleBinds, bind_eq_ok, require_eq_ok] at hbound
    obtain ⟨_, -, _, ⟨hfrozen, -⟩, -⟩ := hbound
    exact hfrozen
  have hpointer : rdb.activeGeneration manifest.streamId =
      some (newPointer manifest.streamId gid manifest replay receipt,
        newGeneration manifest.streamId gid bSystemId manifest replay receipt) := by
    simp only [activeGeneration, hinstalled.pointer, bind, Option.bind_some, newPointer]
    rw [hinstalled.generation]
    rfl
  have hchunks : (rdb.stageChunks manifest.streamId gid).map (·.toStageChunk) = bundle.stageChunks := by
    rw [hinstalled.chunks, List.map_map]
    exact List.map_id _
  have hrows : bundle.stageChunks.length = bundle.historyChunks.length + 1 := by
    simp [SourceExportBundle.stageChunks]
  have hpositive := hnumbered.nonempty
  simp only [verifiedGeneration, hpointer, hinstalled.stage, hchunks, orThrow, bind_ok]
  simp only [bind_eq_ok, require_eq_ok, liftContract_eq_ok, pure_eq_ok, Option.filter_some]
  refine ⟨(), rfl, _, hcanonical, _, hcanonical, (), rfl, _, rfl, (), ⟨by omega, by omega, hbytes⟩, bundle, ?_, (),
    hsigned, replay, hbound, (), ?_, rfl⟩
  · rw [List.Pairwise.insertionSort_eq hnumbered.sorted_stageChunks, persistedBundle_stageChunks]
  · exact ⟨hbinds.n, hbinds.n.trans hn.symm, rfl, rfl, rfl, rfl, hfrozen⟩

/-- What a grant has to say of the receipt that it promotes. -/
structure LeaseGrant.Promotes (grant : LeaseGrant) (receipt : BFinalizedReceipt) (targetEpoch : Nat) : Prop where
  streamId : grant.streamId = receipt.streamId
  holderNodeId : grant.holderNodeId = receipt.bKeyId
  leaseEpoch : grant.leaseEpoch = targetEpoch
  leaseStatus : grant.leaseStatus = .active
  commandId : grant.commandId = receipt.commandId
  advances : receipt.epoch < targetEpoch

theorem checkActivation_returns
    (hmax : validateSnapshotBytes maxSnapshotBytes = .ok maxBytes)
    (htarget : 1 ≤ targetEpoch ∧ targetEpoch ≤ 2147483647)
    (hreceipt : verifyBFinalizedReceipt E D opts.bVerifyResolver receipt = .ok ())
    (hgrant : verifyLeaseGrant E D leaseResolver grant = .ok ()) (hpromotes : grant.Promotes receipt targetEpoch)
    (hfrozen : opts.frozenReceipt.epoch = receipt.epoch ∧ opts.frozenReceipt.n = receipt.n)
    (hn : receipt.n ≤ MAX_SEQ)
    (hsnapshot : (opts.activation leaseResolver receipt grant targetEpoch maxSnapshotBytes).snapshotJson.utf8.length ≤
      maxBytes) :
    checkActivation E D receipt.streamId receipt.generationId
      (opts.activation leaseResolver receipt grant targetEpoch maxSnapshotBytes) = .ok maxBytes := by
  obtain ⟨hconf, -⟩ := verifyLeaseGrant_ok hgrant
  have hepoch := hpromotes.advances
  have hleaseEpoch := hpromotes.leaseEpoch
  have hexpires := hconf.leaseExpiresAtMs
  have hseq := hconf.leaseGrantSeq.2
  have hsafe : ∀ n : Nat, n ≤ MAX_MS → isSafeInteger n = true := by
    intro n hn
    have hms : MAX_MS = 8640000000000000 := rfl
    have hsafe : MAX_SAFE_INTEGER = 9007199254740991 := rfl
    simp only [isSafeInteger, Bool.and_eq_true, decide_eq_true_eq]
    omega
  have hplain : strictPlainSnapshot (opts.activation leaseResolver receipt grant targetEpoch maxSnapshotBytes) =
      .ok () := by
    have hms : MAX_MS = 8640000000000000 := rfl
    have hlast : MAX_SEQ = 1099511627776 := rfl
    simp only [strictPlainSnapshot, require_eq_ok, ReceiverFinalizeOptions.activation, List.forall_mem_cons, hfrozen.1,
      hfrozen.2]
    exact ⟨hsafe _ (by omega), hsafe _ (by omega), hsafe _ (by omega), hsafe _ (by omega), hsafe _ (by omega),
      hsafe _ hexpires, hsafe _ (by omega), by simp⟩
  simp only [checkActivation, hplain, bind_ok, bind_eq_ok, vInt_eq_ok, require_eq_ok, pure_eq_ok]
  exact ⟨_, hmax, (), hsnapshot, _, ⟨htarget, rfl⟩, (), hreceipt, (), hgrant, (), ⟨rfl, rfl, hpromotes.holderNodeId.symm,
    hepoch, hpromotes.streamId, hleaseEpoch, hpromotes.leaseStatus, hpromotes.commandId⟩, rfl⟩

/-- The checkpoint that the import of an export leaves. -/
def SourceExportManifest.checkpoint (m : SourceExportManifest) : OutboxCheckpoint :=
  ⟨m.sourceEpoch, m.n, m.signedHeadDigestAtN⟩

/-- What has been finalized is activated on a ledger that its history goes on from, next to a lease history
that lets the grant in. -/
theorem activate_returns {record : LeaseRecord} {leases : SourceLeaseTable}
    (haccepted : AcceptedExport E D bSystemId gid opts.toReceiverVerifyOptions bundle manifest u)
    (hverified : verifiedExportSnapshot E D bundle manifest opts.toReceiverVerifyOptions = .ok replay)
    (hfinal : FinalizedAs E D bSystemId u manifest.streamId gid opts manifest replay receipt final)
    (hinstalled : db.receiver.Installed manifest.streamId gid bundle
      (newPointer manifest.streamId gid manifest replay receipt)
      (newGeneration manifest.streamId gid bSystemId manifest replay receipt))
    (hmax : validateSnapshotBytes maxSnapshotBytes = .ok maxBytes)
    (hbytes : persistedBytes bundle.stageChunks manifest ≤ maxBytes)
    (hbounds : (opts.activation leaseResolver receipt grant targetEpoch maxSnapshotBytes).WithinBounds maxBytes)
    (htarget : 1 ≤ targetEpoch ∧ targetEpoch ≤ 2147483647)
    (hgrant : verifyLeaseGrant E D leaseResolver grant = .ok ()) (hpromotes : grant.Promotes receipt targetEpoch)
    (hbehind : db.outbox.Behind (allRecords bundle) manifest.checkpoint targetEpoch)
    (hlease : installLeaseGrantInTx E D leaseResolver db.leases grant = (.ok record, leases)) :
    ∃ outbox, activateFinalizedReceiverAsSource E D bSystemId db manifest.streamId gid
        (opts.activation leaseResolver receipt grant targetEpoch maxSnapshotBytes) =
        .ok (⟨manifest.streamId, gid, targetEpoch, manifest.n, manifest.signedHeadDigestAtN, grant.grantDigest⟩,
          { db with outbox, leases }) ∧
      outbox.Imported (allRecords bundle) manifest.checkpoint targetEpoch := by
  have hbound := hverified
  simp only [verifiedExportSnapshot, bind_eq_ok] at hbound
  obtain ⟨_, -, _, -, _, -, hbound⟩ := hbound
  have hbinds := assertExportBundleBinds_ok hbound
  have hderived := derived_of_replaySourceExport hbinds.replayed
  have hreceipt : receipt.streamId = manifest.streamId ∧ receipt.generationId = gid ∧ receipt.n = manifest.n ∧
      receipt.epoch = manifest.epoch ∧ receipt.bSystemId = bSystemId := by
    rw [hfinal.receipt]
    exact ⟨rfl, rfl, rfl, rfl, rfl⟩
  obtain ⟨hstream, hgid, hn, hepoch, hsystem⟩ := hreceipt
  have hmaxN : manifest.n ≤ MAX_SEQ := by
    rw [← hbinds.n, hderived.n]
    exact hderived.bounded.2
  have hfrozen : opts.frozenReceipt.epoch = receipt.epoch ∧ opts.frozenReceipt.n = receipt.n := by
    simp only [assertExportBundleBinds, bind_eq_ok, require_eq_ok] at hbound
    obtain ⟨_, -, _, ⟨-, -, hfrozenEpoch, -, -, hfrozenN, -⟩, -⟩ := hbound
    exact ⟨hfrozenEpoch.trans hepoch.symm, hfrozenN.trans hn.symm⟩
  have hchecked := @checkActivation_returns E D receipt opts leaseResolver grant targetEpoch maxBytes
    maxSnapshotBytes hmax htarget hfinal.verified hgrant hpromotes hfrozen (hn ▸ hmaxN) hbounds.snapshot
  rw [hstream, hgid] at hchecked
  have hadvances := hpromotes.advances
  have hnumbers : isSafeInteger receipt.epoch = true ∧ isSafeInteger receipt.n = true := by
    have hlast : MAX_SEQ = 1099511627776 := rfl
    have hsafe : MAX_SAFE_INTEGER = 9007199254740991 := rfl
    simp only [isSafeInteger, Bool.and_eq_true, decide_eq_true_eq]
    omega
  have hcanonical := canonicalizeReceipt_returns hnumbers (fitsJsonb_of_installGeneration hfinal.installs)
    hbounds.texts hbounds.canonical
  have hgeneration := @verifiedGeneration_returns E D bSystemId gid bundle manifest replay receipt opts leaseResolver
    grant targetEpoch maxBytes maxSnapshotBytes db.receiver hverified hinstalled hcanonical hn haccepted.chunkCount
    hbytes
  have hcheckpoint : manifest.checkpoint = ⟨manifest.sourceEpoch, replay.n, replay.signedHeadDigestAtN⟩ := by
    rw [SourceExportManifest.checkpoint, hbinds.n, hbinds.head]
  rw [hcheckpoint] at hbehind ⊢
  obtain ⟨outbox, himport, himported⟩ := importSource_returns hbinds.replayed haccepted.fits hbehind
  refine ⟨outbox, ?_, himported⟩
  rw [← hbinds.n, ← hbinds.head]
  simp only [activateFinalizedReceiverAsSource, hchecked, hgeneration, bind_ok]
  simp only [bind_eq_ok, require_eq_ok, pure_eq_ok]
  refine ⟨(), hsystem.symm, outbox, himport, ?_⟩
  simp only [ReceiverFinalizeOptions.activation, hlease]
  exact ⟨record, rfl, trivial⟩

end Activated

section Guards

variable {E : Ed25519} {D : Sha256Bytes} {targetSystemId streamId generationId : JsString} {db : TargetDb}
  {opts : ImportedSourceActivationOptions E} {result : ActivatedSource × TargetDb}

/-- The fence is not looked at while a record is imported. -/
theorem importRecord_fence {sanitize : PayloadSanitizer} {db db' : SourceDb} {r : ExportedSourceRecord}
    (fence : Option Nat) (h : importRecord sanitize streamId db r = .ok db') :
    importRecord sanitize streamId { db with fence } r = .ok { db' with fence } := by
  simp only [importRecord, bind_eq_ok] at h ⊢
  obtain ⟨parsed, hparsed, mutation, hmutation, canonical, hcanonical, h⟩ := h
  refine ⟨parsed, hparsed, mutation, hmutation, canonical, hcanonical, ?_⟩
  split at h
  · simp only [bind_eq_ok, pure_eq_ok] at h ⊢
    obtain ⟨stored, hstored, _, hsame, heq⟩ := h
    cases heq
    exact ⟨stored, hstored, (), hsame, rfl⟩
  · simp only [bind_eq_ok, pure_eq_ok] at h ⊢
    obtain ⟨_, hinsertable, heq⟩ := h
    cases heq
    exact ⟨(), hinsertable, rfl⟩

theorem importRecords_fence {sanitize : PayloadSanitizer} {records : List ExportedSourceRecord} {db db' : SourceDb}
    (fence : Option Nat) (h : records.foldlM (importRecord sanitize streamId) db = .ok db') :
    records.foldlM (importRecord sanitize streamId) { db with fence } = .ok { db' with fence } := by
  induction records generalizing db with
  | nil =>
    cases h
    rfl
  | cons r rest ih =>
    simp only [List.foldlM_cons, bind_eq_ok] at h ⊢
    obtain ⟨next, hnext, hrest⟩ := h
    exact ⟨_, importRecord_fence fence hnext, ih hrest⟩

/-- Whatever else is imported, a fence ahead of the target epoch refuses it. -/
theorem importSource_targetFenceAhead {sanitize : PayloadSanitizer} {db db' : SourceDb} {targetEpoch fence : Nat}
    {manifest : GuardCountersignedExport} {records : List ExportedSourceRecord} {replay : ReplayedExport}
    (h : importSource sanitize db streamId targetEpoch manifest records replay = .ok db')
    (hahead : targetEpoch < fence) :
    importSource sanitize { db with fence := some fence } streamId targetEpoch manifest records replay =
      .error .targetFenceAhead := by
  simp only [importSource, bind_eq_ok] at h
  obtain ⟨_, hmax, imported, himported, -⟩ := h
  have hmax' : require (SourceDb.maxSequence { db with fence := some fence } ≤ replay.n)
      FenceError.ledgerImport = .ok () := hmax
  have hrefused : advanceTargetFence (some fence) targetEpoch = .error .targetFenceAhead := by
    rw [advanceTargetFence, require_neg (by simpa using hahead)]
    rfl
  simp only [importSource, hmax', importRecords_fence (some fence) himported, bind_ok, hrefused]
  rfl

/-- An activation that returns is refused on a database whose fence is ahead. -/
theorem activate_targetFenceAhead {fence : Nat} (h : activateFinalizedReceiverAsSource E D targetSystemId db streamId
      generationId opts = .ok result) (hahead : opts.targetEpoch < fence) :
    activateFinalizedReceiverAsSource E D targetSystemId
      { db with outbox := { db.outbox with fence := some fence } } streamId generationId opts =
      .error .targetFenceAhead := by
  simp only [activateFinalizedReceiverAsSource, bind_eq_ok] at h
  obtain ⟨maxBytes, hchecked, _, hsystem, ⟨manifest, records, replay⟩, hverified, outbox, himport, -⟩ := h
  simp only [activateFinalizedReceiverAsSource, hchecked, hsystem, hverified, bind_ok,
    importSource_targetFenceAhead himport hahead]
  rfl

/-- An activation that returns is refused next to a lease history that refuses the grant. -/
theorem activate_refusedLease {leases : SourceLeaseTable} {e : FenceError}
    (h : activateFinalizedReceiverAsSource E D targetSystemId db streamId generationId opts = .ok result)
    (hrefused : (installLeaseGrantInTx E D opts.leaseResolver leases opts.activationLease).1 = .error e) :
    activateFinalizedReceiverAsSource E D targetSystemId { db with leases } streamId generationId opts = .error e := by
  simp only [activateFinalizedReceiverAsSource, bind_eq_ok] at h
  obtain ⟨maxBytes, hchecked, _, hsystem, ⟨manifest, records, replay⟩, hverified, outbox, himport, -⟩ := h
  simp only [activateFinalizedReceiverAsSource, hchecked, hsystem, hverified, himport, bind_ok, hrefused]
  rfl

/-- An activation that returns is refused under a bound that the receipts and the grant exceed. -/
theorem activate_outOfRange {maxBytes : Nat}
    (h : activateFinalizedReceiverAsSource E D targetSystemId db streamId generationId opts = .ok result)
    (hmax : validateSnapshotBytes (some maxBytes) = .ok maxBytes) (hlong : maxBytes < opts.snapshotJson.utf8.length) :
    activateFinalizedReceiverAsSource E D targetSystemId db streamId generationId
      { opts with maxSnapshotBytes := some maxBytes } = .error (.outOfRange "snapshot") := by
  simp only [activateFinalizedReceiverAsSource, checkActivation, bind_eq_ok] at h
  obtain ⟨_, ⟨_, -, _, hplain, -⟩, -⟩ := h
  rw [strictPlainSnapshot] at hplain
  have hrefused : require
      ({ opts with maxSnapshotBytes := some maxBytes : ImportedSourceActivationOptions E }.snapshotJson.utf8.length ≤
        maxBytes) (FenceError.outOfRange "snapshot") = .error (.outOfRange "snapshot") :=
    require_neg (not_le.mpr hlong)
  simp only [activateFinalizedReceiverAsSource, checkActivation, strictPlainSnapshot, hmax, hplain, bind_ok,
    hrefused]
  rfl

end Guards

end TskProtocol
