import TskProtocol.Principal.Streams

namespace TskProtocol

namespace BindSessionInput

end BindSessionInput

namespace MemoryPrincipalSessionLedger

section Accepted

variable (S : Sha256) (H : HmacSha256)

/-- A session that a principal has active. -/
def ActiveIn (principalId providerSessionId : JsString) (ledger : MemoryPrincipalSessionLedger) : Prop :=
  ∃ principal, ledger.principals.get? principalId = some principal ∧ providerSessionId ∈ principal.activeSessionIds

end Accepted

variable {S : Sha256} {H : HmacSha256}

section Active

variable {ledger ledger' : MemoryPrincipalSessionLedger} {principalId providerSessionId : JsString}

theorem ActiveIn.of_set {principals : OrderedMap JsString PrincipalRecord} {id : JsString} {record : PrincipalRecord}
    (hledger : ledger.principals = principals.set id record)
    (h : ledger.ActiveIn principalId providerSessionId) (hsame : principals = ledger'.principals)
    (hrecord : providerSessionId ∈ record.activeSessionIds → ledger'.ActiveIn id providerSessionId) :
    ledger'.ActiveIn principalId providerSessionId := by
  obtain ⟨principal, hget, hactive⟩ := h
  rw [hledger, OrderedMap.get?_set] at hget
  split at hget
  · next heq =>
    rw [← heq]
    exact hrecord (Option.some.inj hget ▸ hactive)
  · exact ⟨principal, hsame ▸ hget, hactive⟩

end Active

end MemoryPrincipalSessionLedger

open MemoryPrincipalSessionLedger

section Sample

end Sample

end TskProtocol
