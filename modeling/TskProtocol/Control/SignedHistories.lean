import TskProtocol.Control.Machine
import TskProtocol.SourceFence.Bundles
import TskProtocol.SourceFence.Witness

namespace TskProtocol

/-- Text as PostgreSQL stores it: valid UTF-8 of less than a gigabyte. -/
structure PgText (s : JsString) : Prop where
  wellFormed : s.WellFormed
  length : s.utf8.length < 1073741824

instance (s : JsString) : Decidable (PgText s) :=
  decidable_of_iff (s.hasLoneSurrogate = false ∧ s.utf8.length < 1073741824)
    ⟨fun h => ⟨JsString.wellFormed_iff.mpr h.1, h.2⟩, fun h => ⟨JsString.wellFormed_iff.mp h.wellFormed, h.length⟩⟩

theorem PgText.frameText {s : JsString} (h : PgText s) : FrameText s :=
  ⟨h.wellFormed, h.length.trans (by decide)⟩

/-- The parts of a frame, where they can be read back. -/
def FrameTexts (parts : List (Option JsString)) : Prop := ∀ x ∈ parts, ∀ s ∈ x, FrameText s

@[simp] theorem frameTexts_nil : FrameTexts [] := by simp [FrameTexts]

@[simp] theorem frameTexts_cons {x : Option JsString} {parts : List (Option JsString)} :
    FrameTexts (x :: parts) ↔ (∀ s ∈ x, FrameText s) ∧ FrameTexts parts := by
  simp [FrameTexts]

theorem frameText_nil : FrameText [] := plain_nil.frameText

theorem frameText_of_all {s : JsString} (h : (s.all JsString.isAscii && s.length < 4294967296) = true) :
    FrameText s :=
  (plain_of_all h).frameText

theorem frameText_num {n : Nat} (h : n ≤ MAX_MS) : ∀ s ∈ num n, FrameText s := by
  intro s hs
  rw [← Option.some.inj hs]
  exact (plain_ofNat (h.trans_lt (by decide))).frameText

theorem frameText_digest {digest : Option JsString} (h : digest.all matchesHex64 = true) :
    ∀ s ∈ digest, FrameText s := fun s hs =>
  (plain_of_matchesHex64 ((Option.all_eq_true _ _).mp h s hs)).frameText

theorem frameText_text {s : JsString} (h : FrameText s) : ∀ x ∈ some s, FrameText x := by
  rintro _ ⟨⟩
  exact h

/-- What a stored row brings to its frame besides its own columns. -/
structure StoredRow (s : JsString) (texts : List JsString) (seq : Nat) (prev : Option JsString) : Prop where
  stream : FrameText s
  texts : ∀ x ∈ texts, PgText x
  seq : seq ≤ MAX_SEQ
  prev : prev.all matchesHex64 = true

/-- The frame of a stored row that its reader takes leaves out nothing of what `covered` shows. -/
def FrameRecovers {α β : Type} (msg : JsString → α → Nat → Option JsString → List UInt8) (readable : α → Bool)
    (texts : α → List JsString) (covered : α → β) : Prop :=
  ∀ (s s' : JsString) (a b : α) (m n : Nat) (p q : Option JsString), StoredRow s (texts a) m p →
    readable a = true → StoredRow s' (texts b) n q → readable b = true → msg s a m p = msg s' b n q →
    (s, covered a) = (s', covered b) ∧ m = n ∧ p = q

/-- The frames that the control histories are digested as. -/
abbrev controlMsg {α : Type} [ControlRow α] (s : JsString) (a : α) (seq : Nat) (prev : Option JsString) : List UInt8 :=
  ControlRow.msg s a seq prev []

/-- A kind of control row, with its columns of free text and with the columns that its digest covers. -/
class CoveredRow (α : Type) extends ControlRow α where
  Covered : Type
  covered : α → Covered
  texts : α → List JsString
  recovers : FrameRecovers controlMsg ControlRow.readable texts covered

theorem max_seq_le_max_ms : MAX_SEQ ≤ MAX_MS := by decide

theorem max_epoch_le_max_ms : MAX_EPOCH ≤ MAX_MS := by decide

namespace StoredRow

variable {s : JsString} {texts : List JsString} {seq : Nat} {prev : Option JsString}

theorem text (h : StoredRow s texts seq prev) {x : JsString} (hx : x ∈ texts) : ∀ y ∈ some x, FrameText y :=
  frameText_text (h.texts x hx).frameText

theorem streamText (h : StoredRow s texts seq prev) : ∀ y ∈ some s, FrameText y := frameText_text h.stream

theorem seqText (h : StoredRow s texts seq prev) : ∀ y ∈ num seq, FrameText y :=
  frameText_num (h.seq.trans max_seq_le_max_ms)

theorem prevText (h : StoredRow s texts seq prev) : ∀ y ∈ prev, FrameText y := frameText_digest h.prev

end StoredRow

theorem ProvisioningPhase.text_inj {a b : ProvisioningPhase} (h : a.text = b.text) : a = b := by
  cases a <;> cases b <;> first | rfl | exact absurd h (by decide)

theorem WitnessPhase.text_inj {a b : WitnessPhase} (h : a.text = b.text) : a = b := by
  cases a <;> cases b <;> first | rfl | exact absurd h (by decide)

theorem CutoverPhase.text_inj {a b : CutoverPhase} (h : a.text = b.text) : a = b := by
  cases a <;> cases b <;> first | rfl | exact absurd h (by decide)

theorem ProvisioningPhase.frameText (p : ProvisioningPhase) : FrameText p.text := by
  cases p <;> exact frameText_of_all (by decide)

theorem WitnessPhase.frameText (p : WitnessPhase) : FrameText p.text := by
  cases p <;> exact frameText_of_all (by decide)

theorem CutoverPhase.frameText (p : CutoverPhase) : FrameText p.text := by
  cases p <;> exact frameText_of_all (by decide)

theorem LeaseStatus.frameText (p : LeaseStatus) : FrameText p.text := by
  cases p <;> exact frameText_of_all (by decide)

/-- A message is read back part by part. -/
theorem FrameRecovers.of_parts {α β : Type} {readable : α → Bool} {texts : α → List JsString} {covered : α → β}
    (parts : JsString → α → Nat → Option JsString → List (Option JsString))
    (htexts : ∀ s a m p, StoredRow s (texts a) m p → readable a = true → FrameTexts (parts s a m p))
    (hinj : ∀ s s' a b m n p q, parts s a m p = parts s' b n q →
      (s, covered a) = (s', covered b) ∧ m = n ∧ p = q) :
    FrameRecovers (fun s a m p => frame (parts s a m p)) readable texts covered :=
  fun s s' a b m n p q ha hreada hb hreadb h => hinj s s' a b m n p q
    (frame_injective_of_text (htexts s a m p ha hreada) (htexts s' b n q hb hreadb) h)

instance : CoveredRow ProvisioningRow where
  Covered := ProvisioningRow
  covered r := r
  texts r := [r.genesisMarker]
  recovers := by
    refine FrameRecovers.of_parts (fun s (r : ProvisioningRow) seq prev => [some (JsString.lit "tsk_ha_prov/v1"), some s,
      some r.genesisMarker, some r.state.text, num seq, prev, some []]) ?_ ?_
    · intro s r seq prev h _
      simp only [frameTexts_cons, frameTexts_nil, and_true]
      exact ⟨frameText_text (frameText_of_all (by decide)), h.streamText, h.text (by simp),
        frameText_text r.state.frameText, h.seqText, h.prevText, frameText_text frameText_nil⟩
    · intro s s' a b m n p q h
      cases a
      cases b
      simp only [List.cons.injEq, Option.some.injEq, num_inj, and_true, true_and] at h
      obtain ⟨rfl, rfl, hstate, rfl, rfl⟩ := h
      obtain rfl := ProvisioningPhase.text_inj hstate
      exact ⟨rfl, rfl, rfl⟩

instance : CoveredRow WitnessRow where
  Covered := WitnessRow
  covered r := r
  texts _ := []
  recovers := by
    refine FrameRecovers.of_parts (fun s (r : WitnessRow) seq prev => [some (JsString.lit "tsk_ha_witness/v1"), some s, num r.epoch,
      some r.state.text, num seq, prev, some []]) ?_ ?_
    · intro s r seq prev h hread
      have hepoch : r.epoch ≤ MAX_EPOCH := by simpa [ControlRow.readable] using hread
      simp only [frameTexts_cons, frameTexts_nil, and_true]
      exact ⟨frameText_text (frameText_of_all (by decide)), h.streamText,
        frameText_num (hepoch.trans max_epoch_le_max_ms), frameText_text r.state.frameText, h.seqText, h.prevText,
        frameText_text frameText_nil⟩
    · intro s s' a b m n p q h
      cases a
      cases b
      simp only [List.cons.injEq, Option.some.injEq, num_inj, and_true, true_and] at h
      obtain ⟨rfl, rfl, hstate, rfl, rfl⟩ := h
      obtain rfl := WitnessPhase.text_inj hstate
      exact ⟨rfl, rfl, rfl⟩

instance : CoveredRow LeaseRow where
  Covered := LeaseRow
  covered r := r
  texts r := [r.leaseId, r.holderNodeId, r.grantCommandId]
  recovers := by
    refine FrameRecovers.of_parts (fun s (r : LeaseRow) seq prev => [some (JsString.lit "tsk_ha_lease/v1"), some s,
      some r.leaseId, some r.holderNodeId, num r.epoch, num seq, some r.status.text, num r.grantedMaxExpiryMs,
      some r.grantCommandId, prev, some []]) ?_ ?_
    · intro s r seq prev h hread
      simp only [ControlRow.readable, Bool.and_eq_true, decide_eq_true_eq] at hread
      simp only [frameTexts_cons, frameTexts_nil, and_true]
      exact ⟨frameText_text (frameText_of_all (by decide)), h.streamText, h.text (by simp), h.text (by simp),
        frameText_num (hread.1.trans max_epoch_le_max_ms), h.seqText, frameText_text r.status.frameText,
        frameText_num hread.2, h.text (by simp), h.prevText, frameText_text frameText_nil⟩
    · intro s s' a b m n p q h
      cases a
      cases b
      simp only [List.cons.injEq, Option.some.injEq, num_inj, and_true, true_and] at h
      obtain ⟨rfl, rfl, rfl, rfl, rfl, hstatus, rfl, rfl, rfl⟩ := h
      obtain rfl := LeaseStatus.text_inj hstatus
      exact ⟨rfl, rfl, rfl⟩

/-- The columns of a cutover row as they are stored; `evidence` is any text. -/
structure CutoverColumns where
  epoch : Nat
  commandId : JsString
  phase : CutoverPhase
  evidence : Option JsString
  deriving DecidableEq, Repr

instance : ControlRow CutoverColumns where
  msg s r seq prev digest := frame [some (JsString.lit "tsk_ha_cutover/v1"), some s, num r.epoch,
    some r.commandId, num seq, some r.phase.text, r.evidence, prev, some digest]
  readable r := r.epoch ≤ MAX_EPOCH

instance : CoveredRow CutoverColumns where
  Covered := CutoverColumns
  covered r := r
  texts r := r.commandId :: r.evidence.toList
  recovers := by
    refine FrameRecovers.of_parts (fun s (r : CutoverColumns) seq prev => [some (JsString.lit "tsk_ha_cutover/v1"), some s,
      num r.epoch, some r.commandId, num seq, some r.phase.text, r.evidence, prev, some []]) ?_ ?_
    · intro s r seq prev h hread
      have hepoch : r.epoch ≤ MAX_EPOCH := by simpa [ControlRow.readable] using hread
      have hevidence : ∀ x ∈ r.evidence, FrameText x := fun x hx =>
        (h.texts x (List.mem_cons_of_mem _ (Option.mem_toList.mpr hx))).frameText
      simp only [frameTexts_cons, frameTexts_nil, and_true]
      exact ⟨frameText_text (frameText_of_all (by decide)), h.streamText,
        frameText_num (hepoch.trans max_epoch_le_max_ms), h.text (by simp), h.seqText,
        frameText_text r.phase.frameText, hevidence, h.prevText, frameText_text frameText_nil⟩
    · intro s s' a b m n p q h
      cases a
      cases b
      simp only [List.cons.injEq, Option.some.injEq, num_inj, and_true, true_and] at h
      obtain ⟨rfl, rfl, rfl, rfl, hphase, rfl, rfl⟩ := h
      obtain rfl := CutoverPhase.text_inj hphase
      exact ⟨rfl, rfl, rfl⟩

/-- A row whose evidence has been read. -/
def CutoverRow.columns (r : CutoverRow) : CutoverColumns where
  epoch := r.epoch
  commandId := r.commandId
  phase := r.phase
  evidence := r.evidence.map CutoverEvidence.text

instance : CoveredRow CutoverRow where
  Covered := CutoverColumns
  covered := CutoverRow.columns
  texts r := CoveredRow.texts r.columns
  recovers s s' a b m n p q ha hreada hb hreadb h :=
    CoveredRow.recovers s s' a.columns b.columns m n p q ha hreada hb hreadb h

/-- What an activation's digest covers: all but the text of the grant, which stands in it by its own digest. -/
structure ActivationColumns where
  commandId : JsString
  epoch : Nat
  bKeyId : JsString
  bReceiptDigest : JsString
  priorTargetGrantDigest : Option JsString
  grantDigest : JsString
  deriving DecidableEq, Repr

def ActivationRow.columns (r : ActivationRow) : ActivationColumns where
  commandId := r.commandId
  epoch := r.epoch
  bKeyId := r.bKeyId
  bReceiptDigest := r.bReceiptDigest
  priorTargetGrantDigest := r.priorTargetGrantDigest
  grantDigest := r.grantDigest

instance : CoveredRow ActivationRow where
  Covered := ActivationColumns
  covered := ActivationRow.columns
  texts _ := []
  recovers := by
    refine FrameRecovers.of_parts (fun s (r : ActivationRow) seq prev => [some (JsString.lit "tsk_ha_source_activation/v2"),
      some s, some r.commandId, num r.epoch, some r.bKeyId, some r.bReceiptDigest, num seq, r.priorTargetGrantDigest,
      some r.grantDigest, prev, some []]) ?_ ?_
    · intro s r seq prev h hread
      simp only [ControlRow.readable, Bool.and_eq_true, decide_eq_true_eq] at hread
      obtain ⟨⟨⟨⟨⟨⟨hcommand, _⟩, hepoch⟩, hkey⟩, hreceipt⟩, hprior⟩, hgrant⟩ := hread
      simp only [frameTexts_cons, frameTexts_nil, and_true]
      exact ⟨frameText_text (frameText_of_all (by decide)), h.streamText,
        frameText_text (plain_of_matchesId hcommand).frameText, frameText_num (hepoch.trans max_epoch_le_max_ms),
        frameText_text (plain_of_matchesId (matchesId_of_matchesKeyId hkey)).frameText,
        frameText_text (plain_of_matchesHex64 hreceipt).frameText, h.seqText, frameText_digest hprior,
        frameText_text (plain_of_matchesHex64 hgrant).frameText, h.prevText, frameText_text frameText_nil⟩
    · intro s s' a b m n p q h
      simp only [List.cons.injEq, Option.some.injEq, num_inj, and_true, true_and] at h
      obtain ⟨rfl, hcommand, hepoch, hkey, hreceipt, rfl, hprior, hgrant, rfl⟩ := h
      simp [ActivationRow.columns, hcommand, hepoch, hkey, hreceipt, hprior, hgrant]

/-- The columns of free text of a lease row, and of a witness row. -/
abbrev LeaseColumns.texts (c : LeaseColumns) : List JsString := [c.holderNodeId, c.leaseId, c.commandId]

abbrev WitnessColumns.texts (c : WitnessColumns) : List JsString := [c.sourceSystemId]

abbrev LeaseColumns.readable (c : LeaseColumns) : Bool := c.leaseEpoch ≤ MAX_EPOCH && c.leaseExpiresAtMs ≤ MAX_MS

abbrev WitnessColumns.readable (c : WitnessColumns) : Bool :=
  c.maxGrantSeq ≤ MAX_SEQ && c.maxSourceSeq ≤ MAX_SEQ && matchesHex64 c.sourceHeadDigest

/-- The frames that the histories of leases and of witnesses are digested as. -/
abbrev leaseRowMsg (s : JsString) (c : LeaseColumns) (seq : Nat) (prev : Option JsString) : List UInt8 :=
  leaseGrantMsg (c.bare s seq prev) []

abbrev witnessRowMsg (s : JsString) (c : WitnessColumns) (seq : Nat) (prev : Option JsString) : List UInt8 :=
  witnessMsg s c seq prev []

theorem recovers_lease : FrameRecovers leaseRowMsg LeaseColumns.readable LeaseColumns.texts id := by
  refine FrameRecovers.of_parts (fun s (c : LeaseColumns) seq prev => [some (JsString.lit "tsk_source_lease/v1"), some s,
    num c.leaseEpoch, some c.leaseStatus.text, some c.holderNodeId, some c.leaseId, some c.commandId,
    num c.leaseExpiresAtMs, num seq, prev, some []]) ?_ ?_
  · intro s c seq prev h hread
    simp only [Bool.and_eq_true, decide_eq_true_eq] at hread
    simp only [frameTexts_cons, frameTexts_nil, and_true]
    exact ⟨frameText_text (frameText_of_all (by decide)), h.streamText,
      frameText_num (hread.1.trans max_epoch_le_max_ms), frameText_text c.leaseStatus.frameText, h.text (by simp),
      h.text (by simp), h.text (by simp), frameText_num hread.2, h.seqText, h.prevText,
      frameText_text frameText_nil⟩
  · intro s s' a b m n p q h
    cases a
    cases b
    simp only [List.cons.injEq, Option.some.injEq, num_inj, and_true, true_and] at h
    obtain ⟨rfl, rfl, hstatus, rfl, rfl, rfl, rfl, rfl, rfl⟩ := h
    obtain rfl := LeaseStatus.text_inj hstatus
    exact ⟨rfl, rfl, rfl⟩

theorem recovers_witness : FrameRecovers witnessRowMsg WitnessColumns.readable WitnessColumns.texts id := by
  refine FrameRecovers.of_parts (fun s (c : WitnessColumns) seq prev => [some (JsString.lit "tsk_source_witness/v1"),
    some s, some c.sourceSystemId, num c.maxGrantSeq, num c.maxSourceSeq, some c.sourceHeadDigest, num seq, prev,
    some []]) ?_ ?_
  · intro s c seq prev h hread
    simp only [Bool.and_eq_true, decide_eq_true_eq] at hread
    obtain ⟨⟨hgrant, hsource⟩, hhead⟩ := hread
    simp only [frameTexts_cons, frameTexts_nil, and_true]
    exact ⟨frameText_text (frameText_of_all (by decide)), h.streamText, h.text (by simp),
      frameText_num (hgrant.trans max_seq_le_max_ms), frameText_num (hsource.trans max_seq_le_max_ms),
      frameText_text (plain_of_matchesHex64 hhead).frameText, h.seqText, h.prevText, frameText_text frameText_nil⟩
  · intro s s' a b m n p q h
    cases a
    cases b
    simp only [List.cons.injEq, Option.some.injEq, num_inj, and_true, true_and] at h
    obtain ⟨rfl, rfl, rfl, rfl, rfl, rfl, rfl⟩ := h
    exact ⟨rfl, rfl, rfl⟩

section Agree

variable {α β κ : Type} {D : Sha256Bytes} {msg : JsString → α → Nat → Option JsString → List UInt8}
  {readable : α → Bool} {texts : α → List JsString} {covered : α → β} {C C' : ChainReader α JsString κ}
  {s s' : JsString} {history history' : List (Linked α JsString κ)} {head head' : Option (Linked α JsString κ)}

/-- What the digests of these records are of. -/
def digestMessages (msg : JsString → α → Nat → Option JsString → List UInt8) (s : JsString)
    (records : List (Linked α JsString κ)) : List (List UInt8) :=
  records.map fun l => msg s l.body l.seq l.prev

/-- The rows of a stream, as their digests cover them. -/
def coveredRows (covered : α → β) (s : JsString) (records : List (Linked α JsString κ)) :
    List ((JsString × β) × Nat × Option JsString × JsString) :=
  records.map (Linked.covered fun a => (s, covered a))

/-- The free text of these records is what the database can hold. -/
def StoredTexts (texts : α → List JsString) (records : List (Linked α JsString κ)) : Prop :=
  ∀ l ∈ records, ∀ x ∈ texts l.body, PgText x

instance (texts : α → List JsString) (records : List (Linked α JsString κ)) : Decidable (StoredTexts texts records) :=
  inferInstanceAs (Decidable (∀ l ∈ records, ∀ x ∈ texts l.body, PgText x))

/-- How two histories agree that have been verified with their heads. -/
structure HistoriesAgree (covered : α → β) (s s' : JsString) (history history' : List (Linked α JsString κ))
    (head head' : Option (Linked α JsString κ)) : Prop where
  rows : head.map (·.digest) = head'.map (·.digest) → coveredRows covered s history = coveredRows covered s' history'
  last : (coveredRows covered s history).getLast? = (coveredRows covered s head.toList).head?
  last' : (coveredRows covered s' history').getLast? = (coveredRows covered s' head'.toList).head?
  seqs : history.map (·.seq) = List.range' 1 history.length
  seqs' : history'.map (·.seq) = List.range' 1 history'.length

/-- A reader of the rows of `s`. -/
structure Reads (D : Sha256Bytes) (msg : JsString → α → Nat → Option JsString → List UInt8) (readable : α → Bool)
    (s : JsString) (C : ChainReader α JsString κ) : Prop where
  stream : FrameText s
  digestOf : ∀ a n p, C.digestOf a n p = D.hex (msg s a n p)
  readable : ∀ l, C.readable l = true → readable l.body = true ∧ l.seq ≤ MAX_SEQ ∧ l.prev.all matchesHex64 = true

theorem accepted_of_mem (h : C.AcceptedWith history head) {l : Linked α JsString κ} (hl : l ∈ head.toList ++ history) :
    C.readable l = true ∧ C.digestOf l.body l.seq l.prev = l.digest := by
  cases head with
  | none =>
    obtain rfl := h
    cases hl
  | some row => exact ⟨h.readable l hl, h.digest hl⟩

/-- Two records of one digest agree in whatever it covers. -/
theorem covered_eq_of_digest (hrecovers : FrameRecovers msg readable texts covered) (hC : Reads D msg readable s C)
    (hC' : Reads D msg readable s' C') (h : C.AcceptedWith history head) (h' : C'.AcceptedWith history' head')
    (htexts : StoredTexts texts (head.toList ++ history)) (htexts' : StoredTexts texts (head'.toList ++ history'))
    (hcollision : ∀ a ∈ digestMessages msg s (head.toList ++ history),
      ∀ b ∈ digestMessages msg s' (head'.toList ++ history'), D.hex a = D.hex b → a = b)
    {l l' : Linked α JsString κ} (hl : l ∈ head.toList ++ history) (hl' : l' ∈ head'.toList ++ history')
    (hdigest : l.digest = l'.digest) :
    l.covered (fun a => (s, covered a)) = l'.covered (fun a => (s', covered a)) := by
  obtain ⟨hread, hown⟩ := accepted_of_mem h hl
  obtain ⟨hread', hown'⟩ := accepted_of_mem h' hl'
  obtain ⟨hbody, hseq, hprev⟩ := hC.readable l hread
  obtain ⟨hbody', hseq', hprev'⟩ := hC'.readable l' hread'
  rw [hC.digestOf] at hown
  rw [hC'.digestOf] at hown'
  have hmsg := hcollision _ (List.mem_map_of_mem hl) _ (List.mem_map_of_mem hl')
    (hown.trans (hdigest.trans hown'.symm))
  obtain ⟨hcovered, hn, hp⟩ := hrecovers s s' l.body l'.body l.seq l'.seq l.prev l'.prev
    ⟨hC.stream, htexts l hl, hseq, hprev⟩ hbody ⟨hC'.stream, htexts' l' hl', hseq', hprev'⟩ hbody' hmsg
  rw [Linked.covered, Linked.covered, hcovered, hn, hp, hdigest]

/-- A history ends with its head, and its numbers have no gap. -/
theorem ends_of_accepted (hrecovers : FrameRecovers msg readable texts covered) (hC : Reads D msg readable s C)
    (h : C.AcceptedWith history head) (htexts : StoredTexts texts (head.toList ++ history))
    (hcollision : CollisionFree D (digestMessages msg s (head.toList ++ history))) :
    (coveredRows covered s history).getLast? = (coveredRows covered s head.toList).head? ∧
      history.map (·.seq) = List.range' 1 history.length := by
  have hinj : ∀ l ∈ head.toList ++ history, ∀ l' ∈ head.toList ++ history, l.digest = l'.digest →
      l.covered (fun a => (s, covered a)) = l'.covered fun a => (s, covered a) := fun l hl l' hl' heq =>
    covered_eq_of_digest hrecovers hC hC h h htexts htexts hcollision hl hl' heq
  cases head with
  | none =>
    obtain rfl := h
    exact ⟨rfl, rfl⟩
  | some row =>
    refine ⟨?_, h.chained.map_seq⟩
    exact h.covered_head fun l hl => hinj l (List.mem_cons_of_mem row hl) row List.mem_cons_self

theorem historiesAgree (hrecovers : FrameRecovers msg readable texts covered) (hC : Reads D msg readable s C)
    (hC' : Reads D msg readable s' C') (h : C.AcceptedWith history head) (h' : C'.AcceptedWith history' head')
    (htexts : StoredTexts texts (head.toList ++ history)) (htexts' : StoredTexts texts (head'.toList ++ history'))
    (hcollision : CollisionFree D (digestMessages msg s (head.toList ++ history) ++
      digestMessages msg s' (head'.toList ++ history'))) :
    HistoriesAgree covered s s' history history' head head' := by
  have hleft : ∀ a ∈ digestMessages msg s (head.toList ++ history), ∀ b ∈ digestMessages msg s (head.toList ++ history),
      D.hex a = D.hex b → a = b := fun a ha b hb =>
    hcollision a (List.mem_append_left _ ha) b (List.mem_append_left _ hb)
  have hright : ∀ a ∈ digestMessages msg s' (head'.toList ++ history'),
      ∀ b ∈ digestMessages msg s' (head'.toList ++ history'), D.hex a = D.hex b → a = b := fun a ha b hb =>
    hcollision a (List.mem_append_right _ ha) b (List.mem_append_right _ hb)
  have hcross : ∀ a ∈ digestMessages msg s (head.toList ++ history),
      ∀ b ∈ digestMessages msg s' (head'.toList ++ history'), D.hex a = D.hex b → a = b := fun a ha b hb =>
    hcollision a (List.mem_append_left _ ha) b (List.mem_append_right _ hb)
  obtain ⟨hlast, hseqs⟩ := ends_of_accepted hrecovers hC h htexts hleft
  obtain ⟨hlast', hseqs'⟩ := ends_of_accepted hrecovers hC' h' htexts' hright
  refine ⟨fun hdigest => ?_, hlast, hlast', hseqs, hseqs'⟩
  cases head with
  | none =>
    cases head' with
    | none =>
      obtain rfl := h
      obtain rfl := h'
      rfl
    | some row' => cases hdigest
  | some row =>
    cases head' with
    | none => cases hdigest
    | some row' =>
      refine h.covered_eq h' (fun l hl l' hl' heq => ?_) (Option.some.inj hdigest)
      exact covered_eq_of_digest hrecovers hC hC' h h' htexts htexts' hcross (List.mem_cons_of_mem row hl)
        (List.mem_cons_of_mem row' hl') heq

end Agree

theorem frameText_of_matchesStreamId {n : Nat} {s : JsString} (h : matchesStreamId n s = true) (hn : n ≤ 512) :
    FrameText s :=
  (plain_of_matchesStreamId h (by omega)).frameText

theorem reads_control {E : Ed25519} {α : Type} [ControlRow α] (D : Sha256Bytes) (H : HmacBytes)
    (node : HaControlFencing E) :
    Reads D (@controlMsg α _) ControlRow.readable node.streamId (node.reader D H) where
  stream := frameText_of_matchesStreamId node.streamId_ok (by decide)
  digestOf _ _ _ := rfl
  readable l h := by
    simp only [HaControlFencing.reader, Bool.and_eq_true, decide_eq_true_eq] at h
    exact ⟨h.1.1.1.1, h.1.1.2, h.1.2⟩

theorem reads_lease {E : Ed25519} (D : Sha256Bytes) (resolver : SourceVerifyKeyResolver E) {s : JsString}
    (hs : matchesStreamId 512 s = true) :
    Reads D leaseRowMsg LeaseColumns.readable s (leaseReader E D resolver s) where
  stream := frameText_of_matchesStreamId hs (by decide)
  digestOf _ _ _ := rfl
  readable l h := by
    simp only [leaseReader, Bool.and_eq_true, decide_eq_true_eq] at h ⊢
    exact ⟨h.1.1.1.1, h.1.1.2, h.1.2⟩

theorem reads_witness {E : Ed25519} (D : Sha256Bytes) (resolver : SourceVerifyKeyResolver E) {s : JsString}
    (hs : matchesStreamId 512 s = true) :
    Reads D witnessRowMsg WitnessColumns.readable s (witnessReader E D resolver s) where
  stream := frameText_of_matchesStreamId hs (by decide)
  digestOf _ _ _ := rfl
  readable l h := by
    simp only [witnessReader, Bool.and_eq_true, decide_eq_true_eq] at h ⊢
    exact ⟨h.1.1.1.1, h.1.1.2, h.1.2⟩

theorem acceptedWith_lease {E : Ed25519} {D : Sha256Bytes} {resolver : SourceVerifyKeyResolver E} {s : JsString}
    {rows : List LeaseRecord} {head : Option LeaseRecord}
    (hhead : ∀ row ∈ head, verifiedLeaseHead E D resolver s row = .ok row)
    (h : verifyLeaseHistoryChain E D resolver s rows head = .ok ()) :
    (leaseReader E D resolver s).AcceptedWith rows head :=
  ChainReader.acceptedWith_of_verifyHistory (fun row hrow => (verifiedLeaseHead_eq_ok.mp (hhead row hrow)).1)
    (chainCheck_eq_ok.mp h)

theorem acceptedWith_witness {E : Ed25519} {D : Sha256Bytes} {resolver : SourceVerifyKeyResolver E} {s : JsString}
    {rows : List WitnessRecord} {head : Option WitnessRecord}
    (hhead : ∀ row ∈ head, verifiedWitnessHead E D resolver s row = .ok row)
    (h : verifyWitnessHistoryChain E D resolver s rows head = .ok ()) :
    (witnessReader E D resolver s).AcceptedWith rows head :=
  ChainReader.acceptedWith_of_verifyHistory (fun row hrow => (verifiedWitnessHead_eq_ok.mp (hhead row hrow)).1)
    (chainCheck_eq_ok.mp h)

/-- Each verifier takes a history only if it is contiguous from its first row on and ends with the head, as far
as the digests cover them; and two that it takes behind heads of one digest agree row by row in what is covered,
whoever signed them and whoever verifies them. -/
theorem signed_histories_agree (D : Sha256Bytes) :
    (∀ (α : Type) [CoveredRow α] (E E' : Ed25519) (H H' : HmacBytes) (node : HaControlFencing E)
      (node' : HaControlFencing E') (history history' : List (ControlRecord α)) (head head' : ControlRecord α),
      StoredTexts CoveredRow.texts (head :: history) → StoredTexts CoveredRow.texts (head' :: history') →
      CollisionFree D (digestMessages controlMsg node.streamId (head :: history) ++
        digestMessages controlMsg node'.streamId (head' :: history')) →
      node.verifyChain D H history head = .ok () → node'.verifyChain D H' history' head' = .ok () →
      HistoriesAgree CoveredRow.covered node.streamId node'.streamId history history' (some head) (some head')) ∧
    (∀ (E E' : Ed25519) (resolver : SourceVerifyKeyResolver E) (resolver' : SourceVerifyKeyResolver E')
      (s s' : JsString) (rows rows' : List LeaseRecord) (head head' : Option LeaseRecord),
      matchesStreamId 512 s = true → matchesStreamId 512 s' = true →
      StoredTexts LeaseColumns.texts (head.toList ++ rows) → StoredTexts LeaseColumns.texts (head'.toList ++ rows') →
      CollisionFree D (digestMessages leaseRowMsg s (head.toList ++ rows) ++
        digestMessages leaseRowMsg s' (head'.toList ++ rows')) →
      (∀ row ∈ head, verifiedLeaseHead E D resolver s row = .ok row) →
      (∀ row ∈ head', verifiedLeaseHead E' D resolver' s' row = .ok row) →
      verifyLeaseHistoryChain E D resolver s rows head = .ok () →
      verifyLeaseHistoryChain E' D resolver' s' rows' head' = .ok () →
      HistoriesAgree id s s' rows rows' head head') ∧
    (∀ (E E' : Ed25519) (resolver : SourceVerifyKeyResolver E) (resolver' : SourceVerifyKeyResolver E')
      (s s' : JsString) (rows rows' : List WitnessRecord) (head head' : Option WitnessRecord),
      matchesStreamId 512 s = true → matchesStreamId 512 s' = true →
      StoredTexts WitnessColumns.texts (head.toList ++ rows) →
      StoredTexts WitnessColumns.texts (head'.toList ++ rows') →
      CollisionFree D (digestMessages witnessRowMsg s (head.toList ++ rows) ++
        digestMessages witnessRowMsg s' (head'.toList ++ rows')) →
      (∀ row ∈ head, verifiedWitnessHead E D resolver s row = .ok row) →
      (∀ row ∈ head', verifiedWitnessHead E' D resolver' s' row = .ok row) →
      verifyWitnessHistoryChain E D resolver s rows head = .ok () →
      verifyWitnessHistoryChain E' D resolver' s' rows' head' = .ok () →
      HistoriesAgree id s s' rows rows' head head') := by
  refine ⟨?_, ?_, ?_⟩
  · intro α _ E E' H H' node node' history history' head head' htexts htexts' hcollision h h'
    have haccepted : (node.reader D H).AcceptedWith history (some head) :=
      ChainReader.accepted_of_verify (HaControlFencing.verifyChain_eq_ok.mp h)
    have haccepted' : (node'.reader D H').AcceptedWith history' (some head') :=
      ChainReader.accepted_of_verify (HaControlFencing.verifyChain_eq_ok.mp h')
    exact historiesAgree CoveredRow.recovers (reads_control D H node) (reads_control D H' node') haccepted haccepted'
      htexts htexts' hcollision
  · intro E E' resolver resolver' s s' rows rows' head head' hs hs' htexts htexts' hcollision hhead hhead' h h'
    exact historiesAgree recovers_lease (reads_lease D resolver hs) (reads_lease D resolver' hs')
      (acceptedWith_lease hhead h) (acceptedWith_lease hhead' h') htexts htexts' hcollision
  · intro E E' resolver resolver' s s' rows rows' head head' hs hs' htexts htexts' hcollision hhead hhead' h h'
    exact historiesAgree recovers_witness (reads_witness D resolver hs) (reads_witness D resolver' hs')
      (acceptedWith_witness hhead h) (acceptedWith_witness hhead' h') htexts htexts' hcollision

section Sample

/-- The first row of a lease history, signed by the guard of this key. -/
def sampleLeaseRow (keyId : String) : LeaseRecord :=
  SignedTable.next (leaseReader sampleEd25519 rollingSha256 sampleKeys (JsString.lit "s"))
    (fun c seq prev digest => (JsString.lit keyId, rollingSha256.hex ((JsString.lit keyId).utf8 ++
      withKey "tsk_src_key" (JsString.lit keyId) (leaseGrantMsg (c.bare (JsString.lit "s") seq prev) digest)))) {}
    ⟨0, .active, JsString.lit "a", JsString.lit "l", JsString.lit "1", 50⟩

def sampleWitnessRow (keyId : String) : WitnessRecord :=
  SignedTable.next (witnessReader sampleEd25519 rollingSha256 sampleKeys (JsString.lit "s"))
    (fun c seq prev digest => (JsString.lit keyId, rollingSha256.hex ((JsString.lit keyId).utf8 ++
      withKey "tsk_src_key" (JsString.lit keyId) (witnessMsg (JsString.lit "s") c seq prev digest)))) {}
    ⟨JsString.lit "1", 1, 0, GENESIS_HEAD_ZERO⟩

/-- A stream that has been recorded as intended and as incomplete. -/
def sampleProvisioningRows : List (ControlRecord ProvisioningRow) :=
  let intent := sampleControl.next rollingSha256 sampleHmac {} ⟨JsString.lit "m", .intent⟩
  [intent, sampleControl.next rollingSha256 sampleHmac (SignedTable.append {} intent) ⟨JsString.lit "m", .incomplete⟩]

def sampleProvisioningHead : ControlRecord ProvisioningRow :=
  sampleProvisioningRows.getLast (by decide)

end Sample

/-- Two guards can have signed the same row. -/
theorem same_digest_other_guard : ¬ ∀ (rows rows' : List LeaseRecord) (head head' : LeaseRecord),
    CollisionFree rollingSha256 (digestMessages leaseRowMsg (JsString.lit "s") (head :: rows) ++
      digestMessages leaseRowMsg (JsString.lit "s") (head' :: rows')) →
    verifiedLeaseHead sampleEd25519 rollingSha256 sampleKeys (JsString.lit "s") head = .ok head →
    verifiedLeaseHead sampleEd25519 rollingSha256 sampleKeys (JsString.lit "s") head' = .ok head' →
    verifyLeaseHistoryChain sampleEd25519 rollingSha256 sampleKeys (JsString.lit "s") rows (some head) = .ok () →
    verifyLeaseHistoryChain sampleEd25519 rollingSha256 sampleKeys (JsString.lit "s") rows' (some head') = .ok () →
    head.digest = head'.digest → rows = rows' := by
  intro h
  have heq := h [sampleLeaseRow "k"] [sampleLeaseRow "g"] (sampleLeaseRow "k") (sampleLeaseRow "g")
    (by decide +kernel) (toOption_eq_some.mp (by decide +kernel)) (toOption_eq_some.mp (by decide +kernel))
    (toOption_eq_some.mp (by decide +kernel)) (toOption_eq_some.mp (by decide +kernel)) (by decide +kernel)
  exact absurd heq (by decide +kernel)

theorem signed_histories_agree_sample :
    HistoriesAgree CoveredRow.covered sampleControl.streamId sampleControl.streamId sampleProvisioningRows
      sampleProvisioningRows (some sampleProvisioningHead) (some sampleProvisioningHead) ∧
    HistoriesAgree id (JsString.lit "s") (JsString.lit "s") [sampleLeaseRow "k"] [sampleLeaseRow "g"]
      (some (sampleLeaseRow "k")) (some (sampleLeaseRow "g")) ∧
    HistoriesAgree id (JsString.lit "s") (JsString.lit "s") [sampleWitnessRow "k"] [sampleWitnessRow "g"]
      (some (sampleWitnessRow "k")) (some (sampleWitnessRow "g")) := by
  obtain ⟨hcontrol, hlease, hwitness⟩ := signed_histories_agree rollingSha256
  refine ⟨?_, ?_, ?_⟩
  · have hchain : sampleControl.verifyChain rollingSha256 sampleHmac sampleProvisioningRows sampleProvisioningHead =
        .ok () := toOption_eq_some.mp (by decide +kernel)
    exact hcontrol ProvisioningRow sampleEd25519 sampleEd25519 sampleHmac sampleHmac sampleControl sampleControl
      _ _ _ _ (by decide +kernel) (by decide +kernel) (by decide +kernel) hchain hchain
  · exact hlease sampleEd25519 sampleEd25519 sampleKeys sampleKeys _ _ _ _ _ _ (by decide) (by decide)
      (by decide +kernel) (by decide +kernel) (by decide +kernel)
      (by rintro _ ⟨⟩; exact toOption_eq_some.mp (by decide +kernel))
      (by rintro _ ⟨⟩; exact toOption_eq_some.mp (by decide +kernel))
      (toOption_eq_some.mp (by decide +kernel)) (toOption_eq_some.mp (by decide +kernel))
  · exact hwitness sampleEd25519 sampleEd25519 sampleKeys sampleKeys _ _ _ _ _ _ (by decide) (by decide)
      (by decide +kernel) (by decide +kernel) (by decide +kernel)
      (by rintro _ ⟨⟩; exact toOption_eq_some.mp (by decide +kernel))
      (by rintro _ ⟨⟩; exact toOption_eq_some.mp (by decide +kernel))
      (toOption_eq_some.mp (by decide +kernel)) (toOption_eq_some.mp (by decide +kernel))

end TskProtocol
