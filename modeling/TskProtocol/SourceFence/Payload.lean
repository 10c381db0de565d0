import TskProtocol.Outbox.Admission
import TskProtocol.SourceFence.Bundle
import TskProtocol.SourceFence.Exporter
import TskProtocol.Json.RoundTrip

namespace TskProtocol

namespace JsString

theorem length_quoteUnit_le (c : UInt16) : (quoteUnit c).length ≤ 6 := by
  unfold quoteUnit
  repeat' split
  all_goals simp [escapeUnit]

theorem length_quote_le (s : JsString) : s.quote.length ≤ 6 * s.length + 2 := by
  have hunits : (quoteUnits s).length ≤ 6 * s.length := by
    induction s using quoteUnits.induct with
    | case1 => simp [quoteUnits]
    | case2 c => simpa [quoteUnits] using length_quoteUnit_le c
    | case3 c d rest h ih =>
      rw [quoteUnits, if_pos h]
      simp only [List.length_cons]
      omega
    | case4 c d rest h ih =>
      have hc := length_quoteUnit_le c
      rw [quoteUnits, if_neg h]
      simp only [List.length_append, List.length_cons] at ih ⊢
      omega
  simp only [quote, List.length_append, List.length_cons, List.length_nil]
  omega

end JsString

section Stored

open JsString Json

variable (mutation : TskHotpMutation)

theorem stringify_ofStoredMutation : (ofStoredMutation mutation).stringify = mutationText mutation := by
  have hcounter : (lit "counter").quote = lit "\"counter\"" := by decide
  have htumbler : (lit "tumblerId").quote = lit "\"tumblerId\"" := by decide
  have hopen : lit "\x7b\"counter\":" = lit "\x7b" ++ (lit "\"counter\"" ++ lit ":") := by decide
  have hnext : lit ",\"tumblerId\":" = lit "," ++ (lit "\"tumblerId\"" ++ lit ":") := by decide
  simp [stringify, ofStoredMutation, render, renderMembers, join, renderMember, hcounter, htumbler,
    mutationText, hopen, hnext]

/-- The text of a mutation is read back. -/
theorem parse_mutationText : Json.parse (mutationText mutation) = some (ofStoredMutation mutation) := by
  rw [← stringify_ofStoredMutation]
  apply parse_stringify
  have hkeys : [lit "counter", lit "tumblerId"].Nodup := by decide
  exact ⟨hkeys, trivial, trivial, trivial⟩

theorem length_mutationText_le (hcounter : 0 ≤ mutation.counter ∧ mutation.counter ≤ TSK_HOTP_MAX_COUNTER) :
    (mutationText mutation).length ≤ 6 * mutation.tumblerId.length + 64 := by
  have hopen : (lit "\x7b\"counter\":").length = 11 := by decide
  have hnext : (lit ",\"tumblerId\":").length = 13 := by decide
  have hclose : (lit "\x7d").length = 1 := by decide
  have hquote := length_quote_le mutation.tumblerId
  have hdigits : (ofInt mutation.counter).length ≤ 10 := by
    obtain ⟨n, hn⟩ := Int.eq_ofNat_of_zero_le hcounter.1
    have hbound : n < Nat.pow 10 10 := by
      have hmax : TSK_HOTP_MAX_COUNTER = 2147483647 := rfl
      have hpow : Nat.pow 10 10 = 10000000000 := rfl
      omega
    rw [hn]
    exact length_ofNat_le (by decide) hbound
  simp only [mutationText, List.length_append, hopen, hnext, hclose]
  omega

end Stored

end TskProtocol
