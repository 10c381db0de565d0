import TskProtocol.Core.Types

namespace TskProtocol

def TSK_MAX_HOTP_COUNTER : Int := 2147483647

def DEFAULT_HOTP_ROTATION_WARNING_COUNTERS : Int := 1000

/-- `Number.isSafeInteger` follows from the two bounds. -/
def isValidHOTPStoredCounter (value : Int) : Bool :=
  0 ≤ value && value ≤ TSK_MAX_HOTP_COUNTER

def isUsableHOTPDerivationCounter (value : Int) : Bool :=
  isValidHOTPStoredCounter value && value < TSK_MAX_HOTP_COUNTER

def assertValidHOTPStoredCounter (value : Int) (label : JsString) : Except CoreError Unit :=
  if isValidHOTPStoredCounter value then pure () else throw (.hotpCounterInvalid label)

def assertUsableHOTPDerivationCounter (value : Int) (label : JsString) :
    Except CoreError Unit := do
  assertValidHOTPStoredCounter value label
  if TSK_MAX_HOTP_COUNTER ≤ value then throw (.hotpCounterExhausted label)

def counterLabel (segmentId : JsString) : JsString :=
  JsString.lit "HOTP counter for " ++ segmentId

def hotpUsesRemaining (counter : Int) : Except CoreError Int := do
  assertValidHOTPStoredCounter counter (JsString.lit "HOTP counter")
  return TSK_MAX_HOTP_COUNTER - counter

/-- The loop of `minimumHOTPUsesRemaining`, with the minimum found so far. -/
def minimumHOTPUsesFrom : Option Int → List SegmentConfig → Except CoreError (Option Int)
  | minimum, [] => pure minimum
  | minimum, seg :: rest =>
    if seg.type = .hotp then do
      let remaining ← hotpUsesRemaining seg.storedCounter
      minimumHOTPUsesFrom (some (minimum.elim remaining (min · remaining))) rest
    else minimumHOTPUsesFrom minimum rest

def minimumHOTPUsesRemaining (segments : List SegmentConfig) : Except CoreError (Option Int) :=
  minimumHOTPUsesFrom none segments

theorem isUsable_iff {c : Int} :
    isUsableHOTPDerivationCounter c = true ↔ 0 ≤ c ∧ c < TSK_MAX_HOTP_COUNTER := by
  simp only [isUsableHOTPDerivationCounter, isValidHOTPStoredCounter, Bool.and_eq_true,
    decide_eq_true_eq]
  omega

theorem isValid_iff {c : Int} :
    isValidHOTPStoredCounter c = true ↔ 0 ≤ c ∧ c ≤ TSK_MAX_HOTP_COUNTER := by
  simp [isValidHOTPStoredCounter]

theorem assertValid_ok {c : Int} {label : JsString} (h : isValidHOTPStoredCounter c = true) :
    assertValidHOTPStoredCounter c label = .ok () := by
  simp [assertValidHOTPStoredCounter, h]

theorem assertUsable_ok {c : Int} {label : JsString}
    (h : isUsableHOTPDerivationCounter c = true) :
    assertUsableHOTPDerivationCounter c label = .ok () := by
  obtain ⟨h0, hlt⟩ := isUsable_iff.mp h
  have hv : isValidHOTPStoredCounter c = true := isValid_iff.mpr ⟨h0, by omega⟩
  have hge : ¬ TSK_MAX_HOTP_COUNTER ≤ c := by omega
  simp only [assertUsableHOTPDerivationCounter, assertValid_ok hv, hge, if_false]
  rfl

theorem usable_of_assertUsable {c : Int} {label : JsString}
    (h : assertUsableHOTPDerivationCounter c label = .ok ()) :
    isUsableHOTPDerivationCounter c = true := by
  obtain ⟨_, hvalid, hmax⟩ := bind_eq_ok.mp h
  have hv : isValidHOTPStoredCounter c = true := by
    by_contra hn
    simp [assertValidHOTPStoredCounter, hn, throw, throwThe, MonadExceptOf.throw] at hvalid
  have hlt : ¬ TSK_MAX_HOTP_COUNTER ≤ c := fun hge => by
    simp [hge, throw, throwThe, MonadExceptOf.throw] at hmax
  exact isUsable_iff.mpr ⟨(isValid_iff.mp hv).1, by omega⟩

/-- Every HOTP counter of the segments is a stored counter. -/
def CountersValid (segments : List SegmentConfig) : Prop :=
  ∀ seg ∈ segments, seg.type = .hotp → isValidHOTPStoredCounter seg.storedCounter = true

def SegmentConfig.usesRemaining (seg : SegmentConfig) : Int :=
  TSK_MAX_HOTP_COUNTER - seg.storedCounter

/-- `r` is the least of the values of `minimum` and of the HOTP segments' remaining uses. -/
structure LeastUses (minimum : Option Int) (segments : List SegmentConfig) (r : Option Int) :
    Prop where
  none_iff : r = none ↔ minimum = none ∧ ∀ seg ∈ segments, seg.type ≠ .hotp
  le_start : ∀ n k, r = some n → minimum = some k → n ≤ k
  le_uses : ∀ n, r = some n → ∀ seg ∈ segments, seg.type = .hotp → n ≤ seg.usesRemaining
  attained : ∀ n, r = some n →
    minimum = some n ∨ ∃ seg ∈ segments, seg.type = .hotp ∧ n = seg.usesRemaining

theorem LeastUses.cons {minimum r : Option Int} {seg : SegmentConfig}
    {rest : List SegmentConfig} (ht : seg.type = .hotp)
    (h : LeastUses (some (minimum.elim seg.usesRemaining (min · seg.usesRemaining))) rest r) :
    LeastUses minimum (seg :: rest) r := by
  have hnone : r ≠ none := fun hr => by simpa using (h.none_iff.mp hr).1
  refine ⟨⟨fun hr => absurd hr hnone, fun hr => absurd ht (hr.2 seg List.mem_cons_self)⟩,
    fun n k hn hk => ?_, fun n hn s hs hst => ?_, fun n hn => ?_⟩
  · have := h.le_start n _ hn rfl
    simp only [hk, Option.elim_some] at this
    omega
  · rcases List.mem_cons.mp hs with rfl | hs
    · have := h.le_start n _ hn rfl
      cases minimum <;> simp only [Option.elim_some, Option.elim_none] at this <;> omega
    · exact h.le_uses n hn s hs hst
  · rcases h.attained n hn with hm | ⟨s, hs, hst, hsn⟩
    · cases minimum with
      | none => exact .inr ⟨seg, List.mem_cons_self, ht, by simpa using hm.symm⟩
      | some k =>
        simp only [Option.elim_some, Option.some.injEq] at hm
        by_cases hle : k ≤ seg.usesRemaining
        · exact .inl (by rw [← hm, Int.min_eq_left hle])
        · exact .inr ⟨seg, List.mem_cons_self, ht, by rw [← hm, Int.min_eq_right (by omega)]⟩
    · exact .inr ⟨s, List.mem_cons_of_mem _ hs, hst, hsn⟩

theorem minimumHOTPUsesFrom_ok {segments : List SegmentConfig} (h : CountersValid segments)
    (minimum : Option Int) :
    ∃ r, minimumHOTPUsesFrom minimum segments = .ok r ∧ LeastUses minimum segments r := by
  induction segments generalizing minimum with
  | nil =>
    refine ⟨minimum, rfl, by simp, ?_, by simp, fun n hn => .inl hn⟩
    intro n k hn hk
    rw [hn] at hk
    exact Int.le_of_eq (Option.some.inj hk)
  | cons seg rest ih =>
    have hrest : CountersValid rest := fun s hs => h s (List.mem_cons_of_mem _ hs)
    by_cases ht : seg.type = .hotp
    · obtain ⟨r, hr, hleast⟩ :=
        ih hrest (some (minimum.elim seg.usesRemaining (min · seg.usesRemaining)))
      refine ⟨r, ?_, hleast.cons ht⟩
      have hv := h seg List.mem_cons_self ht
      simp only [minimumHOTPUsesFrom, ht, if_true, hotpUsesRemaining, assertValid_ok hv]
      exact hr
    · obtain ⟨r, hr, hleast⟩ := ih hrest minimum
      refine ⟨r, by simpa [minimumHOTPUsesFrom, ht] using hr, ?_⟩
      refine ⟨?_, hleast.le_start, fun n hn s hs hst => ?_, fun n hn => ?_⟩
      · simpa [ht] using hleast.none_iff
      · rcases List.mem_cons.mp hs with rfl | hs
        · exact absurd hst ht
        · exact hleast.le_uses n hn s hs hst
      · exact (hleast.attained n hn).imp_right
          (fun ⟨s, hs, h⟩ => ⟨s, List.mem_cons_of_mem _ hs, h⟩)

theorem minimumHOTPUsesRemaining_ok {segments : List SegmentConfig}
    (h : CountersValid segments) :
    ∃ r, minimumHOTPUsesRemaining segments = .ok r ∧ LeastUses none segments r :=
  minimumHOTPUsesFrom_ok h none

end TskProtocol
