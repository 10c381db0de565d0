import TskProtocol.SourceFence.Export

namespace TskProtocol

variable {E : Ed25519} {D : Sha256Bytes} {sanitize : PayloadSanitizer}
  {headResolver : SourceVerifyKeyResolver E} {streamId epoch : JsString}

section Texts

open JsString

/-- Text that a frame keeps apart from all others. -/
theorem frame_wellFormed_injective {xs ys : List (Option JsString)}
    (hxs : ∀ x ∈ xs, ∀ s ∈ x, s.WellFormed ∧ s.utf8.length < 4294967296)
    (hys : ∀ y ∈ ys, ∀ s ∈ y, s.WellFormed ∧ s.utf8.length < 4294967296) (h : frame xs = frame ys) :
    xs = ys := by
  have hshort : ∀ zs : List (Option JsString),
      (∀ z ∈ zs, ∀ s ∈ z, s.WellFormed ∧ s.utf8.length < 4294967296) →
      ∀ f ∈ zs.map (fun part => part.map JsString.utf8), Framing.Short f := by
    intro zs hzs f hf bytes hbytes
    obtain ⟨z, hz, rfl⟩ := List.mem_map.mp hf
    obtain ⟨s, hs, rfl⟩ := Option.map_eq_some_iff.mp hbytes
    exact (hzs z hz s hs).2
  have hmap := Framing.encode_injective (hshort xs hxs) (hshort ys hys) h
  clear h
  induction xs generalizing ys with
  | nil =>
    symm
    simpa using hmap
  | cons x xs ih =>
    cases ys with
    | nil => simp at hmap
    | cons y ys =>
      obtain ⟨hhead, htail⟩ := List.cons.inj hmap
      have hxy : x = y := by
        cases x <;> cases y <;> simp at hhead ⊢
        exact utf8_injective (hxs _ List.mem_cons_self _ rfl).1 (hys _ List.mem_cons_self _ rfl).1 hhead
      rw [hxy, ih (fun z hz => hxs z (List.mem_cons_of_mem x hz))
        (fun z hz => hys z (List.mem_cons_of_mem y hz)) htail]

theorem ofInt_injective {m n : Int} (h : ofInt m = ofInt n) : m = n := by
  have hdigit {k : Nat} {rest : JsString} (h : ofNat k = 45 :: rest) : False := by
    have hmem : (45 : UInt16) ∈ ofNat k := by rw [h]; exact List.mem_cons_self
    exact absurd (digit_of_mem_ofNat hmem).1 (by decide)
  cases m with
  | ofNat m =>
    cases n with
    | ofNat n => rw [ofNat_injective h]
    | negSucc n => exact (hdigit h).elim
  | negSucc m =>
    cases n with
    | ofNat n => exact (hdigit h.symm).elim
    | negSucc n =>
      have hsucc := ofNat_injective (List.cons.inj h).2
      rw [Nat.succ_injective hsucc]

end Texts

/-- What a record has to show to be replayed behind `prev`. -/
structure RecordReplays (E : Ed25519) (D : Sha256Bytes) (sanitize : PayloadSanitizer)
    (headResolver : SourceVerifyKeyResolver E) (streamId epoch : JsString) (expectSeq : Int)
    (prev : JsString) (r : ExportedSourceRecord) (mutation : TskHotpMutation) : Prop where
  sequence : r.sequence = expectSeq
  bounded : 1 ≤ r.sequence ∧ r.sequence ≤ MAX_SEQ
  sourceEpoch : r.sourceEpoch = epoch
  payload : (Json.parse r.payload).bind sanitize = some mutation
  canonical : canonicalizeMutation mutation = .ok r.payload
  opDigest : canonicalOpDigest D streamId r.sourceEpoch r.sequence r.fenceToken mutation = .ok r.opDigest
  binds : assertStreamHeadBinds D (r.header streamId r.opDigest) (r.signedHead streamId r.opDigest) = .ok ()
  alg : r.alg = JsString.lit "ed25519"
  signature : verifyHeadSignature E headResolver r.keyId r.headDigest r.signature = .ok ()
  prevHead : r.prevHeadDigest = prev

theorem replayRecord_eq_ok {expectSeq : Int} {prev : JsString} {r : ExportedSourceRecord}
    {mutation : TskHotpMutation} :
    replayRecord E D sanitize headResolver streamId epoch expectSeq prev r = .ok mutation ↔
      RecordReplays E D sanitize headResolver streamId epoch expectSeq prev r mutation := by
  simp only [replayRecord, bind_eq_ok, require_eq_ok, orThrow_eq_ok, liftContract_eq_ok, pure_eq_ok,
    Except.ok.injEq]
  constructor
  · rintro ⟨_, hbounds, _, hseq, _, hepoch, parsed, hparse, m, hsanitize, _, hcanonical, _, rfl, _, hop,
      _, rfl, _, hbinds, _, halg, _, hsignature, _, hprev, rfl⟩
    exact ⟨hseq, hbounds, hepoch, by rw [hparse, Option.bind_some, hsanitize], hcanonical, hop, hbinds,
      halg, hsignature, hprev⟩
  · intro h
    obtain ⟨parsed, hparse, hsanitize⟩ := Option.bind_eq_some_iff.mp h.payload
    exact ⟨(), h.bounded, (), h.sequence, (), h.sourceEpoch, parsed, hparse, mutation, hsanitize,
      r.payload, h.canonical, (), rfl, r.opDigest, h.opDigest, (), rfl, (), h.binds, (), h.alg, (),
      h.signature, (), h.prevHead, rfl⟩

section Records

open JsString

variable {expectSeq : Int} {prev : JsString} {r r' : ExportedSourceRecord} {mutation : TskHotpMutation}

theorem wellFormed_of_hex64 {s : JsString} (h : matchesHex64 s = true) : s.WellFormed :=
  .of_ascii (plain_of_matchesHex64 h).ascii

theorem wellFormed_of_idPattern {s : JsString} (h : matchesIdPattern s = true) : s.WellFormed := by
  cases s with
  | nil => cases h
  | cons c rest =>
    simp only [matchesIdPattern, Bool.and_eq_true, List.all_eq_true] at h
    refine .of_ascii fun d hd => ?_
    rcases List.mem_cons.mp hd with rfl | hd
    · exact isAscii_of_isIdTail (by simp [isIdTail, h.1.1])
    · exact isAscii_of_isIdTail (h.2 d hd)

theorem isAscii_of_isDecimalDigit {c : UInt16} (h : isDecimalDigit c = true) : isAscii c = true := by
  simp only [isDecimalDigit, Bool.and_eq_true, decide_eq_true_eq, UInt16.le_iff_toNat_le] at h
  simp only [isAscii, decide_eq_true_eq, UInt16.lt_iff_toNat_lt]
  simp at h ⊢
  omega

theorem wellFormed_of_fenceToken {s : JsString} (h : matchesFenceTokenPattern s = true) :
    s.WellFormed := by
  cases s with
  | nil => cases h
  | cons c rest =>
    simp only [matchesFenceTokenPattern, Bool.or_eq_true, Bool.and_eq_true, decide_eq_true_eq,
      List.all_eq_true] at h
    refine .of_ascii fun d hd => ?_
    rcases h with ⟨rfl, rfl⟩ | ⟨⟨⟨h49, h57⟩, -⟩, hrest⟩
    · rw [List.mem_singleton.mp hd]
      decide
    · rcases List.mem_cons.mp hd with rfl | hd
      · refine isAscii_of_isDecimalDigit ?_
        simp only [isDecimalDigit, Bool.and_eq_true, decide_eq_true_eq, UInt16.le_iff_toNat_le] at h49 h57 ⊢
        simp at h49 h57 ⊢
        omega
      · exact isAscii_of_isDecimalDigit (hrest d hd)

theorem wellFormed_of_base64url {s : JsString} (h : matchesBase64Url s = true) : s.WellFormed := by
  simp only [matchesBase64Url, Bool.and_eq_true, List.all_eq_true] at h
  refine .of_ascii fun c hc => ?_
  have hunit := h.2 c hc
  simp only [isBase64Url, Bool.or_eq_true, Bool.and_eq_true, decide_eq_true_eq,
    UInt16.le_iff_toNat_le] at hunit
  simp only [isAscii, decide_eq_true_eq, UInt16.lt_iff_toNat_lt]
  rcases hunit with (((hunit | hunit) | hunit) | rfl) | rfl
  all_goals simp at *; try omega

/-- The canonical text of a mutation. -/
def mutationText (mutation : TskHotpMutation) : JsString :=
  lit "\x7b\"counter\":" ++ ofInt mutation.counter ++ lit ",\"tumblerId\":" ++
    mutation.tumblerId.quote ++ lit "\x7d"

theorem canonical_ofHotpMutation (mutation : TskHotpMutation) :
    (Json.ofHotpMutation mutation).canonical = mutationText mutation := by
  have hle : (lit "tumblerId").le (lit "counter") = false := by decide
  have hcounter : (lit "counter").quote = lit "\"counter\"" := by decide
  have htumbler : (lit "tumblerId").quote = lit "\"tumblerId\"" := by decide
  have hopen : lit "\x7b\"counter\":" = lit "\x7b" ++ (lit "\"counter\"" ++ lit ":") := by decide
  have hnext : lit ",\"tumblerId\":" = lit "," ++ (lit "\"tumblerId\"" ++ lit ":") := by decide
  simp [Json.canonical, Json.ofHotpMutation, Json.render, Json.renderMembers, Json.sortMembers,
    List.insertionSort, List.orderedInsert, hle, join, Json.renderMember, hcounter, htumbler, mutationText,
    hopen, hnext]

theorem canonicalizeMutation_ok {m : TskHotpMutation} {s : JsString}
    (h : canonicalizeMutation m = .ok s) : s = mutationText m := by
  simp only [canonicalizeMutation, bind_eq_ok, pure_eq_ok, Except.ok.injEq] at h
  obtain ⟨_, -, _, -, _, -, rfl⟩ := h
  exact canonical_ofHotpMutation m

theorem wellFormed_mutationText (mutation : TskHotpMutation) : (mutationText mutation).WellFormed := by
  exact ((((WellFormed.of_all_ascii (by decide)).append (wellFormed_ofInt _)).append
    (.of_all_ascii (by decide))).append (wellFormed_quote _)).append (.of_all_ascii (by decide))

/-- The texts of a record that is replayed reach a frame unchanged. -/
theorem RecordReplays.wellFormed (h : RecordReplays E D sanitize headResolver streamId epoch expectSeq prev r mutation) :
    ∀ x ∈ r.parts, ∀ s ∈ x, s.WellFormed := by
  have hop := h.opDigest
  simp only [canonicalOpDigest, assertId, assertFenceToken, bind_eq_ok, require_eq_ok] at hop
  obtain ⟨_, -, _, hepoch, _, -, _, hfence, _, -, hdigest⟩ := hop
  have hbinds := h.binds
  simp only [assertStreamHeadBinds, streamHeadDigest, bind_eq_ok, require_eq_ok] at hbinds
  obtain ⟨_, -, _, -, _, -, _, -, _, hkey, head, ⟨_, -, _, -, _, hprevHead, _, hopHex, _, -, _, -, hhead⟩,
    hheadDigest⟩ := hbinds
  have hsignature := h.signature
  simp only [verifyHeadSignature, bind_eq_ok, require_eq_ok] at hsignature
  obtain ⟨_, hsignature, -⟩ := hsignature
  intro x hx s hs
  simp only [ExportedSourceRecord.parts, List.mem_cons, List.not_mem_nil, or_false] at hx
  rcases hx with rfl | rfl | rfl | rfl | rfl | rfl | rfl | rfl | rfl | rfl <;>
    obtain rfl := Option.some.inj hs
  · exact wellFormed_ofInt _
  · exact wellFormed_of_idPattern hepoch
  · exact wellFormed_of_fenceToken hfence
  · exact wellFormed_of_hex64 hopHex
  · exact wellFormed_of_hex64 hprevHead
  · have hhex : r.headDigest = head := hheadDigest
    obtain rfl := Except.ok.inj hhead
    rw [hhex]
    exact wellFormed_of_hex64 (matchesHex64_hex D _)
  · exact wellFormed_of_idPattern hkey
  · rw [h.alg]
    exact .of_all_ascii (by decide)
  · exact wellFormed_of_base64url hsignature
  · rw [canonicalizeMutation_ok h.canonical]
    exact wellFormed_mutationText mutation

theorem parts_inj (h : r.parts = r'.parts) : r = r' := by
  simp only [ExportedSourceRecord.parts, int, List.cons.injEq, Option.some.injEq, and_true] at h
  obtain ⟨hseq, hepoch, hfence, hop, hprev, hhead, hkey, halg, hsig, hpayload⟩ := h
  have hsequence := ofInt_injective hseq
  cases r
  cases r'
  simp_all

theorem flatMap_parts_inj {rs rs' : List ExportedSourceRecord}
    (h : rs.flatMap ExportedSourceRecord.parts = rs'.flatMap ExportedSourceRecord.parts) : rs = rs' := by
  induction rs generalizing rs' with
  | nil =>
    cases rs' with
    | nil => rfl
    | cons r' rs' => simp [ExportedSourceRecord.parts] at h
  | cons r rs ih =>
    cases rs' with
    | nil => simp [ExportedSourceRecord.parts] at h
    | cons r' rs' =>
      rw [List.flatMap_cons, List.flatMap_cons] at h
      obtain ⟨hparts, hrest⟩ := List.append_inj h rfl
      rw [parts_inj hparts, ih hrest]

theorem replayRecords_ok {state state' : OrderedMap JsString Int} {head : JsString}
    {records : List ExportedSourceRecord}
    (h : replayRecords E D sanitize headResolver streamId epoch expectSeq prev state records =
      .ok (head, state')) :
    ∀ r ∈ records, ∃ n prev mutation,
      RecordReplays E D sanitize headResolver streamId epoch n prev r mutation := by
  induction records generalizing expectSeq prev state with
  | nil => simp
  | cons r rest ih =>
    simp only [replayRecords, bind_eq_ok, replayRecord_eq_ok] at h
    obtain ⟨mutation, hr, hrest⟩ := h
    exact List.forall_mem_cons.mpr ⟨⟨expectSeq, prev, mutation, hr⟩, ih hrest⟩

theorem wellFormed_of_canonicalizeMutation {text : JsString} (h : canonicalizeMutation mutation = .ok text) :
    mutation.tumblerId.WellFormed := by
  simp only [canonicalizeMutation, bind_eq_ok, require_eq_ok] at h
  obtain ⟨_, -, _, hlone, -⟩ := h
  exact wellFormed_iff.mpr hlone

/-- The tumblers of a replayed state reach a frame unchanged. -/
theorem replayRecords_keys {state state' : OrderedMap JsString Int} {head : JsString}
    {records : List ExportedSourceRecord}
    (h : replayRecords E D sanitize headResolver streamId epoch expectSeq prev state records =
      .ok (head, state')) (hkeys : ∀ e ∈ state.entries, e.1.WellFormed) :
    ∀ e ∈ state'.entries, e.1.WellFormed := by
  induction records generalizing expectSeq prev state with
  | nil =>
    simp only [replayRecords, Except.ok.injEq, Prod.mk.injEq] at h
    exact h.2 ▸ hkeys
  | cons r rest ih =>
    simp only [replayRecords, bind_eq_ok, replayRecord_eq_ok] at h
    obtain ⟨mutation, hr, hrest⟩ := h
    refine ih hrest fun e he => ?_
    obtain ⟨k, a⟩ := e
    have hget := OrderedMap.get?_eq_some.mpr he
    rw [OrderedMap.get?_set] at hget
    split at hget
    · next hk => exact hk ▸ wellFormed_of_canonicalizeMutation hr.canonical
    · exact hkeys (k, a) (OrderedMap.get?_eq_some.mp hget)

theorem mem_sortPairs {pairs : List StatePair} {p : StatePair} : p ∈ sortPairs pairs ↔ p ∈ pairs :=
  (List.perm_insertionSort _ pairs).mem_iff

end Records

section Chunks

variable {c c' : ExportHistoryChunk} {e : ExportChunkInventoryEntry} {bundle bundle' : SourceExportBundle}
  {inv : List ExportChunkInventoryEntry} {manifest : SourceExportManifest} {fr : SourceFrozenReceipt}
  {replay : ReplayedExport} {verifier : ExportVerifier E}

def ExportHistoryChunk.message (c : ExportHistoryChunk) : List UInt8 := frame (historyChunkParts c.records)

def ExportStateChunk.message (c : ExportStateChunk) : List UInt8 := frame (stateChunkParts c.pairs)

def FramedLengths (parts : List (Option JsString)) : Prop :=
  ∀ part ∈ parts, ∀ s ∈ part, s.utf8.length < 4294967296

theorem historyEntry_eq_ok : historyEntry D c = .ok e ↔ FramedLengths (historyChunkParts c.records) ∧
    c.byteDigest = D.hex c.message ∧
    e = ⟨.history, c.ordinal, c.seqFrom, c.seqTo, c.records.length, D.hex c.message⟩ := by
  simp only [historyEntry, historyChunkByteDigest, frameChecked, bind_eq_ok, require_eq_ok, pure_eq_ok,
    Except.ok.injEq]
  constructor
  · rintro ⟨_, ⟨_, ⟨_, hlengths, rfl⟩, rfl⟩, _, hdigest, rfl⟩
    exact ⟨hlengths, hdigest, rfl⟩
  · rintro ⟨hlengths, hdigest, rfl⟩
    exact ⟨_, ⟨_, ⟨(), hlengths, rfl⟩, rfl⟩, (), hdigest, rfl⟩

/-- The entries of a bundle, one for each history chunk and the last for the state. -/
structure Inventoried (D : Sha256Bytes) (bundle : SourceExportBundle)
    (entries : List ExportChunkInventoryEntry) (last : ExportChunkInventoryEntry) : Prop where
  history : List.Forall₂ (fun c e => historyEntry D c = .ok e) bundle.historyChunks entries
  lengths : FramedLengths (stateChunkParts bundle.stateChunk.pairs)
  byteDigest : bundle.stateChunk.byteDigest = D.hex bundle.stateChunk.message
  state : last = ⟨.state, bundle.stateChunk.ordinal, 0, 0, bundle.stateChunk.itemCount,
    D.hex bundle.stateChunk.message⟩

theorem bundleInventory_ok (h : bundleInventory D bundle = .ok inv) :
    ∃ entries last, inv = entries ++ [last] ∧ Inventoried D bundle entries last := by
  simp only [bundleInventory, stateChunkByteDigest, frameChecked, bind_eq_ok, require_eq_ok, pure_eq_ok,
    Except.ok.injEq] at h
  obtain ⟨entries, hentries, _, ⟨_, ⟨_, hlengths, rfl⟩, rfl⟩, _, hdigest, rfl⟩ := h
  exact ⟨entries, _, rfl, mapM_forall₂ hentries, hlengths, hdigest, rfl⟩

theorem eq_of_zip {α : Type} {xs ys : List α} (hlen : xs.length = ys.length)
    (h : ∀ p ∈ xs.zip ys, p.1 = p.2) : xs = ys := by
  induction xs generalizing ys with
  | nil => exact (List.length_eq_zero_iff.mp hlen.symm).symm
  | cons x xs ih =>
    cases ys with
    | nil => cases hlen
    | cons y ys =>
      rw [List.zip_cons_cons, List.forall_mem_cons] at h
      have hhead : x = y := h.1
      rw [hhead, ih (Nat.succ.inj hlen) h.2]

/-- What is known of a bundle that binds. -/
structure Binds (E : Ed25519) (D : Sha256Bytes) (verifier : ExportVerifier E) (bundle : SourceExportBundle)
    (manifest : SourceExportManifest) (replay : ReplayedExport) : Prop where
  inventory : ∃ entries last, manifest.inventory = entries ++ [last] ∧ Inventoried D bundle entries last
  covers : assertExportInventory manifest.inventory manifest.n = .ok ()
  replayed : replaySourceExport E D verifier.sanitize verifier.headResolver manifest.streamId
    manifest.sourceEpoch (allRecords bundle) = .ok replay
  n : replay.n = manifest.n
  head : replay.signedHeadDigestAtN = manifest.signedHeadDigestAtN
  stateDigest : replay.sourceStateDigestAtN = manifest.sourceStateDigestAtN
  pairs : bundle.stateChunk.pairs = replay.derivedStatePairs

theorem assertExportBundleBinds_ok (h : assertExportBundleBinds E D verifier bundle manifest fr = .ok replay) :
    Binds E D verifier bundle manifest replay := by
  simp only [assertExportBundleBinds, assertStateChunkMatchesReplay, bind_eq_ok, require_eq_ok, pure_eq_ok,
    Except.ok.injEq] at h
  obtain ⟨_, -, _, -, inv, hinv, _, hcovers, _, -, _, hlen, _, hzip, _, hreplay, _, ⟨hn, hhead, hstate⟩, _,
    ⟨_, hcount, _, hpairs, -⟩, rfl⟩ := h
  obtain rfl := eq_of_zip hlen hzip
  exact ⟨bundleInventory_ok hinv, hcovers, hreplay, hn, hhead, hstate, eq_of_zip hcount.1 hpairs⟩

theorem Binds.wellFormed (h : Binds E D verifier bundle manifest replay) :
    (∀ c ∈ bundle.historyChunks, ∀ r ∈ c.records, ∀ x ∈ r.parts, ∀ s ∈ x, s.WellFormed) ∧
    ∀ p ∈ bundle.stateChunk.pairs, p.1.WellFormed := by
  have hreplayed := h.replayed
  simp only [replaySourceExport, bind_eq_ok, pure_eq_ok, Except.ok.injEq] at hreplayed
  obtain ⟨_, -, _, -, ⟨head, state⟩, hrecords, rfl⟩ := hreplayed
  refine ⟨fun c hc r hr => ?_, fun p hp => ?_⟩
  · obtain ⟨n, prev, mutation, hreplays⟩ :=
      replayRecords_ok hrecords r (List.mem_flatMap.mpr ⟨c, hc, hr⟩)
    exact hreplays.wellFormed
  · rw [h.pairs] at hp
    exact replayRecords_keys hrecords (fun e he => by cases he) p (mem_sortPairs.mp hp)

theorem message_inj {domain : JsString} {count count' : Option JsString} {xs ys : List (Option JsString)}
    (hdomain : domain.WellFormed) (hcount : ∀ s ∈ count, s.WellFormed) (hcount' : ∀ s ∈ count', s.WellFormed)
    (hxs : ∀ x ∈ xs, ∀ s ∈ x, s.WellFormed) (hys : ∀ y ∈ ys, ∀ s ∈ y, s.WellFormed)
    (hlengths : FramedLengths (some domain :: count :: xs))
    (hlengths' : FramedLengths (some domain :: count' :: ys))
    (h : frame (some domain :: count :: xs) = frame (some domain :: count' :: ys)) : xs = ys := by
  have hparts : some domain :: count :: xs = some domain :: count' :: ys := by
    refine frame_wellFormed_injective (fun x hx s hs => ⟨?_, hlengths x hx s hs⟩)
      (fun x hx s hs => ⟨?_, hlengths' x hx s hs⟩) h
    · rcases List.mem_cons.mp hx with rfl | hx
      · exact Option.some.inj hs ▸ hdomain
      rcases List.mem_cons.mp hx with rfl | hx
      · exact hcount s hs
      · exact hxs x hx s hs
    · rcases List.mem_cons.mp hx with rfl | hx
      · exact Option.some.inj hs ▸ hdomain
      rcases List.mem_cons.mp hx with rfl | hx
      · exact hcount' s hs
      · exact hys x hx s hs
  exact (List.cons.inj (List.cons.inj hparts).2).2

theorem wellFormed_num (n : Nat) : ∀ s ∈ num n, s.WellFormed := by
  rintro _ ⟨⟩
  exact JsString.wellFormed_ofNat n

/-- Chunks under one inventory entry are equal, unless their messages collide. -/
theorem historyEntry_inj
    (hwell : ∀ r ∈ c.records, ∀ x ∈ r.parts, ∀ s ∈ x, s.WellFormed)
    (hwell' : ∀ r ∈ c'.records, ∀ x ∈ r.parts, ∀ s ∈ x, s.WellFormed)
    (hcollision : D.hex c.message = D.hex c'.message → c.message = c'.message)
    (h : historyEntry D c = .ok e) (h' : historyEntry D c' = .ok e) : c = c' := by
  obtain ⟨hlengths, hdigest, rfl⟩ := historyEntry_eq_ok.mp h
  obtain ⟨hlengths', hdigest', heq⟩ := historyEntry_eq_ok.mp h'
  simp only [ExportChunkInventoryEntry.mk.injEq, true_and] at heq
  obtain ⟨hordinal, hfrom, hto, -, hhex⟩ := heq
  have hflat {rs : List ExportedSourceRecord} (hrs : ∀ r ∈ rs, ∀ x ∈ r.parts, ∀ s ∈ x, s.WellFormed) :
      ∀ x ∈ rs.flatMap ExportedSourceRecord.parts, ∀ s ∈ x, s.WellFormed := by
    intro x hx
    obtain ⟨r, hr, hx⟩ := List.mem_flatMap.mp hx
    exact hrs r hr x hx
  have hrecords : c.records = c'.records := flatMap_parts_inj
    (message_inj (.of_all_ascii (by decide)) (wellFormed_num _) (wellFormed_num _) (hflat hwell) (hflat hwell')
      hlengths hlengths' (hcollision hhex))
  have hbytes : c.byteDigest = c'.byteDigest := by rw [hdigest, hdigest', hhex]
  obtain ⟨ordinal, seqFrom, seqTo, records, byteDigest⟩ := c
  simp only at hordinal hfrom hto hrecords hbytes
  rw [hordinal, hfrom, hto, hrecords, hbytes]

theorem statePair_parts_inj {ps qs : List StatePair}
    (h : ps.flatMap (fun p => [some p.1, int p.2]) = qs.flatMap (fun p => [some p.1, int p.2])) : ps = qs := by
  induction ps generalizing qs with
  | nil =>
    cases qs with
    | nil => rfl
    | cons q qs => simp at h
  | cons p ps ih =>
    cases qs with
    | nil => simp at h
    | cons q qs =>
      simp only [List.flatMap_cons, List.cons_append, List.nil_append, int, List.cons.injEq,
        Option.some.injEq] at h
      rw [ih h.2.2, Prod.ext h.1 (ofInt_injective h.2.1)]

/-- All bundles that bind to one manifest are one bundle, unless two of their chunks collide. -/
theorem Binds.unique {verifier' : ExportVerifier E} {replay' : ReplayedExport}
    (h : Binds E D verifier bundle manifest replay) (h' : Binds E D verifier' bundle' manifest replay')
    (hhistory : ∀ c ∈ bundle.historyChunks, ∀ c' ∈ bundle'.historyChunks,
      D.hex c.message = D.hex c'.message → c.message = c'.message)
    (hstate : D.hex bundle.stateChunk.message = D.hex bundle'.stateChunk.message →
      bundle.stateChunk.message = bundle'.stateChunk.message) : bundle = bundle' := by
  obtain ⟨entries, last, hinv, hbundle⟩ := h.inventory
  obtain ⟨entries', last', hinv', hbundle'⟩ := h'.inventory
  obtain ⟨rfl, hlast⟩ := List.append_inj' (hinv.symm.trans hinv') rfl
  obtain rfl := List.singleton_inj.mp hlast
  obtain ⟨hwell, hpairs⟩ := h.wellFormed
  obtain ⟨hwell', hpairs'⟩ := h'.wellFormed
  have hchunks : bundle.historyChunks = bundle'.historyChunks := by
    have hleft := hbundle.history
    have hright := hbundle'.history
    generalize bundle.historyChunks = cs at hleft hwell hhistory
    generalize bundle'.historyChunks = cs' at hright hwell' hhistory
    clear hinv hinv' hbundle hbundle'
    induction hleft generalizing cs' with
    | nil =>
      cases hright
      rfl
    | @cons c e cs es hc _ ih =>
      cases hright with
      | @cons c' _ cs' _ hc' hright =>
        simp only [List.forall_mem_cons] at hwell hwell' hhistory
        rw [historyEntry_inj hwell.1 hwell'.1 hhistory.1.1 hc hc']
        rw [ih hwell.2 cs' hright hwell'.2 (fun d hd d' hd' => (hhistory.2 d hd).2 d' hd')]
  obtain ⟨hordinal, hcount, hhex⟩ : bundle.stateChunk.ordinal = bundle'.stateChunk.ordinal ∧
      bundle.stateChunk.itemCount = bundle'.stateChunk.itemCount ∧
      D.hex bundle.stateChunk.message = D.hex bundle'.stateChunk.message := by
    have hlast := hbundle.state.symm.trans hbundle'.state
    simp only [ExportChunkInventoryEntry.mk.injEq, true_and] at hlast
    exact ⟨hlast.1, hlast.2.1, hlast.2.2⟩
  have hflat {ps : List StatePair} (hps : ∀ p ∈ ps, p.1.WellFormed) :
      ∀ x ∈ ps.flatMap (fun p => [some p.1, int p.2]), ∀ s ∈ x, s.WellFormed := by
    intro x hx s hs
    obtain ⟨p, hp, hx⟩ := List.mem_flatMap.mp hx
    simp only [List.mem_cons, List.not_mem_nil, or_false] at hx
    rcases hx with rfl | rfl <;> obtain rfl := Option.some.inj hs
    · exact hps p hp
    · exact JsString.wellFormed_ofInt _
  have hstatePairs : bundle.stateChunk.pairs = bundle'.stateChunk.pairs := statePair_parts_inj
    (message_inj (.of_all_ascii (by decide)) (wellFormed_num _) (wellFormed_num _) (hflat hpairs) (hflat hpairs')
      hbundle.lengths hbundle'.lengths (hstate hhex))
  have hbytes : bundle.stateChunk.byteDigest = bundle'.stateChunk.byteDigest := by
    rw [hbundle.byteDigest, hbundle'.byteDigest, hhex]
  obtain ⟨chunks, ordinal, itemCount, pairs, byteDigest⟩ := bundle
  simp only at hchunks hordinal hcount hstatePairs hbytes
  rw [hchunks, hordinal, hcount, hstatePairs, hbytes]

end Chunks

end TskProtocol
