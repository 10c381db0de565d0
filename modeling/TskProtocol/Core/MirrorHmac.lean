import TskProtocol.Core.Segment

namespace TskProtocol

def toBase64Url (c : UInt16) : UInt16 := if isBase64Url c then c else 95

theorem isBase64Url_toBase64Url (c : UInt16) : isBase64Url (toBase64Url c) = true := by
  simp only [toBase64Url]
  split
  · assumption
  · decide

def mirrorDigest (data : JsString) : JsString :=
  (data.reverse.map toBase64Url ++ List.replicate 43 65).take 43

/-- A keyless stand-in for the HMAC that spells its input backwards.  It keeps the counters
of a long enough segment apart, which a run on concrete data needs. -/
def mirrorHmac : HmacSha256 where
  digest _ data := mirrorDigest data
  length_digest _ data := by simp [mirrorDigest]
  base64url_digest _ data c hc := by
    rcases List.mem_append.mp (List.mem_of_mem_take hc) with hc | hc
    · obtain ⟨d, -, rfl⟩ := List.mem_map.mp hc
      exact isBase64Url_toBase64Url d
    · obtain rfl := (List.mem_replicate.mp hc).2
      decide

def toLowerHex (c : UInt16) : UInt16 := if isLowerHexDigit c then c else 97 + c % 6

theorem isLowerHexDigit_toLowerHex (c : UInt16) : isLowerHexDigit (toLowerHex c) = true := by
  simp only [toLowerHex]
  split
  · assumption
  · have hmod : (c % 6).toNat < 6 := by
      simpa using Nat.mod_lt c.toNat (by decide : 0 < 6)
    simp only [isLowerHexDigit, Bool.or_eq_true, Bool.and_eq_true, decide_eq_true_eq,
      UInt16.le_iff_toNat_le, UInt16.toNat_add]
    right
    simp only [UInt16.toNat_ofNat, Nat.reducePow, Nat.reduceMod]
    omega

/-- The same stand-in for SHA-256. -/
def mirrorSha256 : Sha256 where
  hex data := (data.reverse.map toLowerHex ++ List.replicate 64 48).take 64
  length_hex data := by simp
  lower_hex data c hc := by
    rcases List.mem_append.mp (List.mem_of_mem_take hc) with hc | hc
    · obtain ⟨d, -, rfl⟩ := List.mem_map.mp hc
      exact isLowerHexDigit_toLowerHex d
    · obtain rfl := (List.mem_replicate.mp hc).2
      decide

theorem toBase64Url_digit {c : UInt16} (h : 48 ≤ c.toNat ∧ c.toNat ≤ 57) : toBase64Url c = c := by
  have hdigit : isBase64Url c = true := by
    simp only [isBase64Url, Bool.or_eq_true, Bool.and_eq_true, decide_eq_true_eq,
      UInt16.le_iff_toNat_le]
    left; left; left; left
    exact h
  simp [toBase64Url, hdigit]

theorem takeWhile_take_append {α : Type u} {p : α → Bool} {digits rest : List α} {stop : α} {n : Nat}
    (hd : ∀ c ∈ digits, p c = true) (hs : p stop = false) (hn : digits.length < n) :
    ((digits ++ stop :: rest).take n).takeWhile p = digits := by
  obtain ⟨k, hk⟩ : ∃ k, n - digits.length = k + 1 := ⟨n - digits.length - 1, by omega⟩
  rw [List.take_append, List.take_of_length_le (by omega), hk, List.take_succ_cons,
    List.takeWhile_append_of_pos hd, List.takeWhile_cons_of_neg (by simp [hs]), List.append_nil]

theorem hotpInput_ofNat (segmentId : JsString) (n : Nat) :
    hotpInput segmentId n =
      JsString.lit "hotp:" ++ segmentId ++ JsString.lit ":" ++ JsString.ofNat n := rfl

/-- The counter can be read off the front of the text. -/
theorem takeWhile_mirror_hotpText (secret : JsString) {seg : SegmentConfig} {n : Nat}
    (h11 : 11 ≤ seg.length) (h43 : seg.length ≤ 43) (hn : n < 10000000000) :
    (hotpText mirrorHmac secret seg n).takeWhile (fun c => c ≠ 95) = (JsString.ofNat n).reverse := by
  have hlen : (JsString.ofNat n).length ≤ 10 := JsString.length_ofNat_le (by decide) hn
  have hdigits : (JsString.ofNat n).reverse.map toBase64Url = (JsString.ofNat n).reverse := by
    conv_rhs => rw [← List.map_id (JsString.ofNat n).reverse]
    apply List.map_congr_left
    intro c hc
    exact toBase64Url_digit (JsString.digit_of_mem_ofNat (List.mem_reverse.mp hc))
  have hnot : ∀ c ∈ (JsString.ofNat n).reverse, decide (c ≠ 95) = true := by
    intro c hc
    have hd := JsString.digit_of_mem_ofNat (List.mem_reverse.mp hc)
    simp only [ne_eq, decide_not, Bool.not_eq_true', decide_eq_false_iff_not]
    rintro rfl
    exact absurd hd.2 (by decide)
  have hshape : ∃ rest, mirrorDigest (hotpInput seg.segmentId n) =
      ((JsString.ofNat n).reverse ++ 95 :: rest).take 43 := by
    refine ⟨(JsString.lit "hotp:" ++ seg.segmentId).reverse.map toBase64Url ++
      List.replicate 43 65, ?_⟩
    have hcolon : (JsString.lit ":").reverse.map toBase64Url = [95] := by decide
    simp only [mirrorDigest, hotpInput_ofNat, List.reverse_append, List.map_append, hdigits,
      hcolon, List.append_assoc, List.cons_append, List.nil_append]
  obtain ⟨rest, hrest⟩ := hshape
  have hlen43 : (mirrorDigest (hotpInput seg.segmentId n)).length = 43 := by simp [mirrorDigest]
  have hslice : hotpText mirrorHmac secret seg n =
      ((JsString.ofNat n).reverse ++ 95 :: rest).take seg.length := by
    have hfit : seg.length ≤ (mirrorDigest (hotpInput seg.segmentId n)).length := hlen43 ▸ h43
    calc hotpText mirrorHmac secret seg n
        = (mirrorDigest (hotpInput seg.segmentId n)).slice 0 seg.length := if_pos hfit
      _ = _ := by
        rw [hrest, JsString.slice, List.drop_zero, List.take_take, Nat.min_eq_left h43]
  rw [hslice]
  exact takeWhile_take_append hnot (by decide) (by rw [List.length_reverse]; omega)

theorem mirrorHmac_counter_unique {secret : JsString} {seg : SegmentConfig} {c d : Int}
    (h11 : 11 ≤ seg.length) (h43 : seg.length ≤ 43)
    (hc : isUsableHOTPDerivationCounter c = true) (hd : isUsableHOTPDerivationCounter d = true)
    (h : hotpText mirrorHmac secret seg c = hotpText mirrorHmac secret seg d) : c = d := by
  obtain ⟨hc0, hcmax⟩ := isUsable_iff.mp hc
  obtain ⟨hd0, hdmax⟩ := isUsable_iff.mp hd
  obtain ⟨m, rfl⟩ := Int.eq_ofNat_of_zero_le hc0
  obtain ⟨n, rfl⟩ := Int.eq_ofNat_of_zero_le hd0
  simp only [TSK_MAX_HOTP_COUNTER] at hcmax hdmax
  have hm := takeWhile_mirror_hotpText secret h11 h43 (n := m) (by omega)
  have hn := takeWhile_mirror_hotpText secret h11 h43 (n := n) (by omega)
  rw [h, hn] at hm
  exact congrArg Int.ofNat (JsString.ofNat_injective (List.reverse_injective hm)).symm

end TskProtocol
