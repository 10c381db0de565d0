import TskProtocol.Core.Generate

namespace TskProtocol

/-- What is drawn always is: it is returned on every tape that goes on long enough, in `P`. -/
abbrev Drawn {α : Type} (x : Draw GenerateError α) (P : α → Prop) : Prop :=
  Draw.Total GenerateError.exhausted x P

section Random

theorem randomBytes_drawn (n : Nat) : Drawn (randomBytes n) (fun bytes => bytes.length = n) where
  yields tape := by
    by_cases h : n ≤ tape.length
    · exact .inr ⟨_, _, if_pos h, List.length_take_of_le h⟩
    · exact .inl (if_neg h)
  localized tape a rest h more := by
    simp only [randomBytes] at h ⊢
    split at h
    · next hn =>
      obtain ⟨rfl, rfl⟩ := Prod.mk.inj (Except.ok.inj h)
      rw [if_pos (by rw [List.length_append]; omega), List.take_append_of_le_length hn,
        List.drop_append_of_le_length hn]
    · cases h
  returns tape := by
    have hle : n ≤ (tape ++ List.replicate n 0).length := by
      rw [List.length_append, List.length_replicate]
      omega
    exact ⟨List.replicate n 0, _, _, if_pos hle, List.length_take_of_le hle⟩

/-- A word, and the word zero behind it: one of the two is taken. -/
theorem rejectionLoop_zeros {max limit : Nat} (hmax : 0 < max) (hlimit : 0 < limit) (a b c d : UInt8) :
    ∃ n rest, rejectionLoop max limit [a, b, c, d, 0, 0, 0, 0] = .ok (n, rest) ∧ n < max := by
  rw [rejectionLoop]
  split
  · rw [rejectionLoop, if_neg (show ¬ limit ≤ readUInt32BE 0 0 0 0 from Nat.not_le.mpr hlimit)]
    exact ⟨_, _, rfl, Nat.mod_lt _ hmax⟩
  · exact ⟨_, _, rfl, Nat.mod_lt _ hmax⟩

theorem rejectionLoop_drawn {max limit : Nat} (hmax : 0 < max) (hlimit : 0 < limit) :
    Drawn (rejectionLoop max limit) (fun n => n < max) where
  yields tape := by
    induction tape using rejectionLoop.induct limit with
    | case1 a b c d rest val hval ih =>
      rw [rejectionLoop, if_pos hval]
      exact ih
    | case2 a b c d rest val hval =>
      rw [rejectionLoop, if_neg hval]
      exact .inr ⟨_, _, rfl, Nat.mod_lt _ hmax⟩
    | case3 tape h =>
      rw [rejectionLoop.eq_def]
      split
      · exact absurd rfl (h _ _ _ _ _)
      · exact .inl rfl
  localized tape n rest h more := by
    induction tape using rejectionLoop.induct limit with
    | case1 a b c d tape val hval ih =>
      rw [rejectionLoop, if_pos hval] at h
      simp only [List.cons_append]
      rw [rejectionLoop, if_pos hval]
      exact ih h
    | case2 a b c d tape val hval =>
      rw [rejectionLoop, if_neg hval] at h
      simp only [List.cons_append]
      rw [rejectionLoop, if_neg hval]
      cases h
      rfl
    | case3 tape hshort =>
      rw [rejectionLoop.eq_def] at h
      split at h
      · exact absurd rfl (hshort _ _ _ _ _)
      · cases h
  returns tape := by
    induction tape using rejectionLoop.induct limit with
    | case1 a b c d rest val hval ih =>
      obtain ⟨more, n, rest', hn, hlt⟩ := ih
      refine ⟨more, n, rest', ?_, hlt⟩
      simp only [List.cons_append]
      rw [rejectionLoop, if_pos hval, hn]
    | case2 a b c d rest val hval =>
      refine ⟨[], val % max, rest, ?_, Nat.mod_lt val hmax⟩
      rw [List.append_nil, rejectionLoop, if_neg hval]
    | case3 tape h =>
      -- what is left of the tape is completed to a word, and a word zero follows it
      match tape with
      | [] => exact ⟨_, rejectionLoop_zeros hmax hlimit 0 0 0 0⟩
      | [a] => exact ⟨[0, 0, 0, 0, 0, 0, 0], rejectionLoop_zeros hmax hlimit a 0 0 0⟩
      | [a, b] => exact ⟨[0, 0, 0, 0, 0, 0], rejectionLoop_zeros hmax hlimit a b 0 0⟩
      | [a, b, c] => exact ⟨[0, 0, 0, 0, 0], rejectionLoop_zeros hmax hlimit a b c 0⟩
      | a :: b :: c :: d :: rest => exact absurd rfl (h a b c d rest)

theorem secureRandomInt_drawn {max : Nat} (hpos : 0 < max) (hle : max ≤ 4294967296) :
    Drawn (secureRandomInt max) (fun n => n < max) := by
  rw [secureRandomInt, if_neg (by omega)]
  split
  · exact .pure hpos
  · exact rejectionLoop_drawn hpos (by have := Nat.mod_lt 4294967296 hpos; omega)

theorem generateSharedSecret_drawn : Drawn generateSharedSecret (fun _ => True) :=
  (randomBytes_drawn 32).bind fun _ _ => .pure trivial

theorem generateSegmentId_drawn (idPrefix : String) : Drawn (generateSegmentId idPrefix) (fun _ => True) :=
  (randomBytes_drawn 4).bind fun _ _ => .pure trivial

theorem generateClientId_drawn : Drawn generateClientId (fun _ => True) :=
  (randomBytes_drawn 8).bind fun _ _ => .pure trivial

end Random

section Segments

/-- Boundaries that leave the minimum length between any two neighbours. -/
abbrev Spaced (boundaries : List Nat) : Prop :=
  boundaries.IsChain (fun a b => a + MIN_SEGMENT_LENGTH ≤ b)

/-- The clamp never crosses: the boundary before leaves room for all that are missing. -/
theorem drawBoundaries_drawn {totalLength count : Nat} (hshort : totalLength ≤ 500) :
    ∀ {k i previous : Nat}, i + k = count → previous + (k + 1) * MIN_SEGMENT_LENGTH ≤ totalLength →
    Drawn (drawBoundaries totalLength count (totalLength / count) k i previous)
      (fun boundaries => boundaries.length = k ∧ Spaced (previous :: boundaries ++ [totalLength])) := by
  intro k
  induction k with
  | zero =>
    intro i previous hi hroom
    refine .pure ⟨rfl, ?_⟩
    simpa [MIN_SEGMENT_LENGTH] using hroom
  | succ k ih =>
    intro i previous hi hroom
    simp only [drawBoundaries]
    have hbase : totalLength / count ≤ totalLength := Nat.div_le_self _ _
    refine (secureRandomInt_drawn (by omega) (by omega)).bind fun drawn _ => ?_
    generalize i * (totalLength / count) = ideal
    generalize totalLength / count / 5 = maxJitter
    generalize hb : (max ((previous + MIN_SEGMENT_LENGTH : Nat) : Int) (min _ _)).toNat = boundary
    simp only [MIN_SEGMENT_LENGTH] at hb hroom ⊢
    have hgap : previous + 8 ≤ boundary := by omega
    have hrest : boundary + (k + 1) * 8 ≤ totalLength := by omega
    refine (ih (by omega) hrest).bind fun boundaries hboundaries => .pure ⟨?_, ?_⟩
    · rw [List.length_cons, hboundaries.1]
    · exact .cons_cons hgap hboundaries.2

theorem swapIfInBounds_perm (xs : Array Nat) (i j : Nat) : (xs.swapIfInBounds i j).toList.Perm xs.toList := by
  rw [Array.swapIfInBounds_def]
  split
  · split
    · exact Array.perm_iff_toList_perm.mp (Array.swap_perm _ _)
    · exact .refl _
  · exact .refl _

theorem shuffleFrom_drawn {i : Nat} (hi : i < 4294967295) (xs : Array Nat) :
    Drawn (shuffleFrom i xs) (fun ys => ys.toList.Perm xs.toList) := by
  induction i generalizing xs with
  | zero => exact .pure (.refl _)
  | succ i ih =>
    refine (secureRandomInt_drawn (by omega) (by omega)).bind fun j _ => ?_
    exact (ih (by omega) _).mono fun ys hys => hys.trans (swapIfInBounds_perm xs (i + 1) j)

theorem Spaced.pairwise {boundaries : List Nat} (h : Spaced boundaries) : boundaries.Pairwise (· ≤ ·) :=
  (h.imp fun a _ hab => Nat.le_trans (Nat.le_add_right a _) hab).pairwise

/-- The shuffle is undone by the sort. -/
theorem insertionSort_shuffled {boundaries : List Nat} {first last : Nat} {shuffled : Array Nat}
    (h : Spaced (first :: boundaries ++ [last])) (hperm : shuffled.toList.Perm boundaries) :
    shuffled.toList.insertionSort (· ≤ ·) = boundaries := by
  have hsorted : boundaries.Pairwise (· ≤ ·) := by
    have hall := h.pairwise
    rw [List.cons_append, List.pairwise_cons, List.pairwise_append] at hall
    exact hall.2.1
  exact ((List.perm_insertionSort _ _).trans hperm).eq_of_pairwise (fun _ _ _ _ => Nat.le_antisymm)
    (List.pairwise_insertionSort _ _) hsorted

/-- The positions of segments that lie end to end. -/
def Tiles (totalLength count : Nat) (positions : List (Nat × Nat)) : Prop :=
  ∃ boundaries : List Nat, boundaries.length + 1 = count ∧ Spaced (0 :: boundaries ++ [totalLength]) ∧
    positions = (0 :: boundaries).zip (boundaries ++ [totalLength])

theorem randomNonOverlappingSegments_drawn {totalLength count : Nat} (hshort : totalLength ≤ 500)
    (hpos : 0 < count) (hroom : count * MIN_SEGMENT_LENGTH ≤ totalLength) :
    Drawn (randomNonOverlappingSegments totalLength count) (Tiles totalLength count) := by
  rw [randomNonOverlappingSegments, if_neg (by omega), if_neg (by omega)]
  have hbound := hroom
  simp only [MIN_SEGMENT_LENGTH] at hbound
  refine (drawBoundaries_drawn hshort (by omega) (by simp only [MIN_SEGMENT_LENGTH]; omega)).bind ?_
  rintro boundaries ⟨hlength, hspaced⟩
  refine (shuffleFrom_drawn (by omega) boundaries.toArray).bind fun shuffled hperm => .pure ?_
  rw [insertionSort_shuffled hspaced hperm]
  refine ⟨boundaries, by omega, hspaced, ?_⟩
  have hzip : ((0 :: boundaries) ++ [totalLength]).zip ((boundaries ++ [totalLength]) ++ []) =
      (0 :: boundaries).zip (boundaries ++ [totalLength]) ++ [totalLength].zip [] := List.zip_append (by simp)
  rw [List.append_nil, List.zip_nil_right, List.append_nil] at hzip
  exact hzip

end Segments

section Map

/-- The first segment is static, and the required one is HOTP. -/
def AnchoredSegment (requiredHotpIndex i : Nat) (seg : SegmentConfig) : Prop :=
  (i = 0 → seg.type = .static) ∧ (i = requiredHotpIndex → 0 < i → seg.type = .hotp)

theorem drawIsTotp_drawn (requiredHotpIndex i : Nat) :
    Drawn (drawIsTotp requiredHotpIndex i) (fun isTotp => i = requiredHotpIndex → isTotp = false) := by
  rw [drawIsTotp]
  split
  · next hne =>
    exact (secureRandomInt_drawn (by decide) (by decide)).bind fun roll _ => .pure fun heq => absurd heq hne
  · exact .pure fun _ => rfl

theorem drawSegment_drawn {allowedWindows : List Nat} (hwindows : 0 < allowedWindows.length)
    (hfew : allowedWindows.length ≤ 4294967296) (requiredHotpIndex i : Nat) (pos : Nat × Nat) :
    Drawn (drawSegment allowedWindows requiredHotpIndex i pos)
      (fun seg => seg.position = pos ∧ AnchoredSegment requiredHotpIndex i seg) := by
  refine (generateSegmentId_drawn _).bind fun segId _ => ?_
  split
  · next hi => exact .pure ⟨rfl, fun _ => rfl, fun _ hpos => by omega⟩
  · next hi =>
    refine (drawIsTotp_drawn requiredHotpIndex i).bind fun isTotp hisTotp => ?_
    refine (secureRandomInt_drawn hwindows hfew).bind fun index _ => .pure ⟨rfl, fun h => absurd h hi, ?_⟩
    intro heq _
    rw [hisTotp heq]
    rfl

theorem drawSegments_drawn {allowedWindows : List Nat} (hwindows : 0 < allowedWindows.length)
    (hfew : allowedWindows.length ≤ 4294967296) (requiredHotpIndex : Nat) (positions : List (Nat × Nat))
    (i : Nat) :
    Drawn (drawSegments allowedWindows requiredHotpIndex i positions) (fun segments =>
      segments.map (·.position) = positions ∧
      ∀ k seg, segments[k]? = some seg → AnchoredSegment requiredHotpIndex (i + k) seg) := by
  induction positions generalizing i with
  | nil => exact .pure ⟨rfl, fun k seg h => by simp at h⟩
  | cons pos positions ih =>
    refine (drawSegment_drawn hwindows hfew requiredHotpIndex i pos).bind fun segment hsegment => ?_
    refine (ih (i + 1)).bind fun segments hsegments => .pure ⟨?_, ?_⟩
    · rw [List.map_cons, hsegment.1, hsegments.1]
    · intro k seg hseg
      cases k with
      | zero =>
        obtain rfl := Option.some.inj hseg
        exact hsegment.2
      | succ k =>
        rw [List.getElem?_cons_succ] at hseg
        rw [Nat.add_comm k 1, ← Nat.add_assoc]
        exact hsegments.2 k seg hseg

theorem tiled_cons {start next stop : Nat} {seg : SegmentConfig} {rest : List SegmentConfig}
    (htiled : Tiled next rest stop) (hlong : ∀ seg ∈ rest, MIN_SEGMENT_LENGTH ≤ seg.length)
    (hseg : seg.position = (start, next)) (hgap : start + MIN_SEGMENT_LENGTH ≤ next) :
    Tiled start (seg :: rest) stop ∧ ∀ other ∈ seg :: rest, MIN_SEGMENT_LENGTH ≤ other.length := by
  have hstart : seg.position.1 = start := by rw [hseg]
  have hnext : seg.position.2 = next := by rw [hseg]
  simp only [MIN_SEGMENT_LENGTH] at hgap hlong ⊢
  refine ⟨.cons hstart (by omega) (hnext ▸ htiled), List.forall_mem_cons.mpr ⟨?_, hlong⟩⟩
  simp only [SegmentConfig.length]
  omega

/-- Positions that tile make the segments lie end to end. -/
theorem tiled_of_positions {boundaries : List Nat} {start stop : Nat} {segments : List SegmentConfig}
    (hspaced : Spaced (start :: boundaries ++ [stop]))
    (hpositions : segments.map (·.position) = (start :: boundaries).zip (boundaries ++ [stop])) :
    Tiled start segments stop ∧ ∀ seg ∈ segments, MIN_SEGMENT_LENGTH ≤ seg.length := by
  induction boundaries generalizing start segments with
  | nil =>
    obtain ⟨seg, rfl, hseg⟩ := List.map_eq_singleton_iff.mp hpositions
    have hgap : start + MIN_SEGMENT_LENGTH ≤ stop := by simpa using hspaced
    exact tiled_cons (.nil stop) (by simp) hseg hgap
  | cons next boundaries ih =>
    obtain ⟨seg, rest, rfl, hseg, hrest⟩ := List.map_eq_cons_iff.mp hpositions
    obtain ⟨hgap, hspaced⟩ := List.isChain_cons_cons.mp hspaced
    obtain ⟨htiled, hlong⟩ := ih hspaced hrest
    exact tiled_cons htiled hlong hseg hgap

/-- What a map looks like that is drawn for the options. -/
structure Generated (options : RequiredTumblerMapOptions) (map : TumblerMap) : Prop where
  keyLength : map.keyLength = options.keyLength
  checksum : map.checksum = (options.keyLength - CHECKSUM_LENGTH, options.keyLength)
  tiled : Tiled 0 map.segments (options.keyLength - CHECKSUM_LENGTH)
  lengths : ∀ seg ∈ map.segments, MIN_SEGMENT_LENGTH ≤ seg.length
  first : map.segments.head?.map (·.type) = some .static
  hotp : ∃ seg ∈ map.segments, seg.type = .hotp
  count : options.minTumblers + 1 ≤ map.segments.length ∧ map.segments.length ≤ options.maxTumblers + 1

/-- What `validateOptions` has checked. -/
structure RequiredTumblerMapOptions.Valid (options : RequiredTumblerMapOptions) : Prop where
  minTumblers : MIN_TUMBLERS ≤ options.minTumblers
  tumblerRange : options.minTumblers ≤ options.maxTumblers
  keyLength : options.keyLength ≤ MAX_KEY_LENGTH
  room : (options.maxTumblers + 1) * MIN_SEGMENT_LENGTH + CHECKSUM_LENGTH ≤ options.keyLength
  windows : 0 < options.allowedWindows.length
  few : options.allowedWindows.length ≤ 4294967296

theorem length_validateWindows {allowedWindows : List (Option Int)} {windows : List Nat}
    (h : validateWindows allowedWindows = .ok windows) : windows.length = allowedWindows.length := by
  induction allowedWindows generalizing windows with
  | nil => cases h; rfl
  | cons w rest ih =>
    simp only [validateWindows, bind_eq_ok, pure_eq_ok, Except.ok.injEq] at h
    obtain ⟨n, -, windows, hrest, rfl⟩ := h
    rw [List.length_cons, List.length_cons, ih hrest]

theorem validateOptions_valid {options : TumblerMapOptions} {required : RequiredTumblerMapOptions}
    (h : validateOptions options = .ok required) : required.Valid := by
  simp only [validateOptions, checkedOption, bind_eq_ok, orThrow_eq_ok, require_eq_ok, pure_eq_ok,
    Except.ok.injEq, Option.filter_eq_some_iff, Bool.and_eq_true, decide_eq_true_eq] at h
  obtain ⟨keyLength, ⟨-, hkey⟩, minTumblers, ⟨-, hmin⟩, maxTumblers, ⟨-, hmax⟩, _, hrange, _, hsome, windows,
    hwindows, _, hroom, rfl⟩ := h
  have hlength := length_validateWindows hwindows
  have hfew : ((options.allowedWindows.map (·.val)).getD (ALLOWED_WINDOWS.map some)).length < 4294967296 := by
    cases options.allowedWindows with
    | none => decide
    | some windows => exact windows.property
  have hpos := List.length_pos_of_ne_nil hsome
  simp only [MIN_TUMBLERS, MAX_KEY_LENGTH, MIN_SEGMENT_LENGTH, CHECKSUM_LENGTH] at hkey hmin hroom
  constructor <;> simp only [MIN_TUMBLERS, MAX_KEY_LENGTH, MIN_SEGMENT_LENGTH, CHECKSUM_LENGTH] <;> omega

/-- The segments of a map, from the positions and the types that were drawn. -/
theorem segments_generated {totalLength count requiredHotpIndex : Nat} {positions : List (Nat × Nat)}
    {segments : List SegmentConfig} (htiles : Tiles totalLength count positions)
    (hpositions : segments.map (·.position) = positions)
    (htypes : ∀ k seg, segments[k]? = some seg → AnchoredSegment requiredHotpIndex (0 + k) seg)
    (hrequired : 0 < requiredHotpIndex ∧ requiredHotpIndex < count) :
    (Tiled 0 segments totalLength ∧ ∀ seg ∈ segments, MIN_SEGMENT_LENGTH ≤ seg.length) ∧
    segments.head?.map (·.type) = some .static ∧ (∃ seg ∈ segments, seg.type = .hotp) ∧
    segments.length = count := by
  obtain ⟨boundaries, hcount, hspaced, rfl⟩ := htiles
  have hlength : segments.length = count := by
    have hlength := congrArg List.length hpositions
    simpa [hcount] using hlength
  refine ⟨tiled_of_positions hspaced hpositions, ?_, ?_, hlength⟩
  · have hseg := List.getElem?_eq_getElem (l := segments) (i := 0) (by omega)
    rw [List.head?_eq_getElem?, hseg, Option.map_some, (htypes 0 _ hseg).1 rfl]
  · have hseg := List.getElem?_eq_getElem (l := segments) (i := requiredHotpIndex) (by omega)
    exact ⟨_, List.mem_of_getElem? hseg, (htypes _ _ hseg).2 (Nat.zero_add _) (by omega)⟩

theorem drawTumblerMap_drawn {options : RequiredTumblerMapOptions} (h : options.Valid) (now : Int) :
    Drawn (drawTumblerMap options now) (Generated options) := by
  obtain ⟨hmin, hrange, hkey, hroom, hwindows, hfew⟩ := h
  simp only [MIN_TUMBLERS, MAX_KEY_LENGTH, MIN_SEGMENT_LENGTH, CHECKSUM_LENGTH] at hmin hkey hroom
  refine generateClientId_drawn.bind fun clientId _ => ?_
  refine generateSharedSecret_drawn.bind fun sharedSecret _ => ?_
  refine (secureRandomInt_drawn (by omega) (by omega)).bind fun extra hextra => ?_
  refine (secureRandomInt_drawn (by omega) (by omega)).bind fun drawn hdrawn => ?_
  refine (randomNonOverlappingSegments_drawn (by simp only [CHECKSUM_LENGTH]; omega) (by omega)
    (by simp only [CHECKSUM_LENGTH, MIN_SEGMENT_LENGTH]; omega)).bind fun positions htiles => ?_
  refine (drawSegments_drawn hwindows hfew (1 + drawn) positions 0).bind ?_
  rintro segments ⟨hpositions, htypes⟩
  obtain ⟨⟨htiled, hlengths⟩, hfirst, hhotp, hcount⟩ :=
    segments_generated htiles hpositions htypes (by omega)
  exact .pure ⟨rfl, rfl, htiled, hlengths, hfirst, hhotp, by rw [hcount]; omega⟩

/-- Accepted options always give a map: every tape of random bytes runs out, or a map of the promised
layout is drawn from it, and every tape can be continued until one is. -/
theorem generateTumblerMap_generated {options : TumblerMapOptions} {required : RequiredTumblerMapOptions}
    (h : validateOptions options = .ok required) (now : Int) :
    (∀ tape, generateTumblerMap options now tape = .error .exhausted ∨
      ∃ map rest, generateTumblerMap options now tape = .ok (map, rest) ∧ Generated required map) ∧
    ∀ tape, ∃ more map rest, generateTumblerMap options now (tape ++ more) = .ok (map, rest) := by
  have hdrawn : Drawn (generateTumblerMap options now) (Generated required) :=
    (Draw.Total.lift h (P := (· = required)) rfl).bind fun a ha =>
      ha ▸ drawTumblerMap_drawn (validateOptions_valid h) now
  refine ⟨hdrawn.yields, fun tape => ?_⟩
  obtain ⟨more, map, rest, hmap, -⟩ := hdrawn.returns tape
  exact ⟨more, map, rest, hmap⟩

def sampleGenerateOptions : TumblerMapOptions where
  minTumblers := some (some 1)
  maxTumblers := some (some 2)

def sampleTape : List UInt8 := (List.range 100).map (fun i => UInt8.ofNat (i * i * 7 + i * 13 + 5))

theorem generateTumblerMap_generated_sample : ∃ map rest,
    generateTumblerMap sampleGenerateOptions 0 sampleTape = .ok (map, rest) ∧
    map.segments.map (·.position) = [(0, 17), (17, 36), (36, 52)] ∧
    Generated ⟨64, 1, 2, [30, 60, 120, 300]⟩ map := by
  have hoptions : validateOptions sampleGenerateOptions = .ok ⟨64, 1, 2, [30, 60, 120, 300]⟩ := by decide
  have hpositions : (generateTumblerMap sampleGenerateOptions 0 sampleTape).map
      (fun r => r.1.segments.map (·.position)) = .ok [(0, 17), (17, 36), (36, 52)] := by decide +kernel
  rcases (generateTumblerMap_generated hoptions 0).1 sampleTape with hran | ⟨map, rest, hmap, hgenerated⟩
  · rw [hran] at hpositions
    cases hpositions
  · rw [hmap] at hpositions
    exact ⟨map, rest, hmap, Except.ok.inj hpositions, hgenerated⟩

end Map

end TskProtocol
