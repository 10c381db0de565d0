import TskProtocol.TumblerMapStore.Mutation
import TskProtocol.Outbox.Preimages

namespace TskProtocol.Credential

variable {D : Sha256Bytes} {m m' : CredentialMutation} {s s' : CredentialSnapshot} {map : TumblerMap}

theorem canonicalText_eq_ok {v : Json} {text : JsString} : canonicalText v = .ok text ↔
    (v.depth ≤ CANON_MAX_DEPTH ∧ v.nodes ≤ CANON_MAX_NODES) ∧ v.isCanonical = true ∧
      v.canonical.utf8.length ≤ CANON_MAX_TOTAL_BYTES ∧ v.canonical = text := by
  simp only [canonicalText, canonicalize, bind_eq_ok, require_eq_ok, exists_const, orThrow_eq_ok]
  split
  · next h =>
    rw [Bool.and_eq_true, decide_eq_true_eq] at h
    simp [h.1, h.2]
  · next h =>
    rw [Bool.and_eq_true, decide_eq_true_eq, not_and] at h
    simp only [reduceCtorEq, and_false, false_iff, not_and]
    exact fun _ hcanonical hbytes => absurd hbytes (h hcanonical)

section Sanitized

/-- A snapshot that the sanitizer has found to be exact, bound and free of secrets. -/
structure Bound (D : Sha256Bytes) (s : CredentialSnapshot) : Prop where
  valid : ValidMap false s.publicMap.map
  clientId : s.publicMap.map.clientId = s.clientId
  publicMapDigest : digest D s.publicMap.toJson = .ok s.publicMapDigest
  publicMapHex : matchesHex64 s.publicMapDigest = true
  secretHex : matchesHex64 s.secretDigest = true
  counter : 1 ≤ s.counter ∧ s.counter ≤ MAX_REVISION
  free : containsSecret [] s.publicMap.toJson = false

theorem sanitizeSnapshot_ok {name : String} (h : sanitizeSnapshot D s name = .ok s') : s' = s ∧ Bound D s := by
  simp only [sanitizeSnapshot, bind_eq_ok, checkId_eq_ok, require_eq_ok, pure_eq_ok, Except.ok.injEq] at h
  obtain ⟨_, ⟨-, rfl⟩, publicMap, hmap, _, ⟨hid, hfree, hhex⟩, _, hdigest, _, ⟨rfl, hsecret, hcounter⟩, rfl⟩ := h
  obtain ⟨rfl, hvalid⟩ := validateMap_ok hmap
  exact ⟨rfl, hvalid, hid, hdigest, hhex, hsecret, hcounter, hfree⟩

/-- What the sanitizer has found out about a mutation that it returns. -/
def Sanitized (D : Sha256Bytes) : CredentialMutation → Prop
  | .snapshot tumblerId s => Bound D s ∧ tumblerId = s.clientId
  | .replace tumblerId counter old replacement => Bound D old ∧ Bound D replacement ∧
      old.clientId ≠ replacement.clientId ∧ tumblerId = old.clientId ∧ counter = old.counter
  | .delete tumblerId clientId counter => matchesStreamId 128 clientId = true ∧ tumblerId = clientId ∧
      1 ≤ counter ∧ counter ≤ MAX_REVISION

/-- The sanitizer returns what it was given. -/
theorem sanitizeMutation_ok (h : sanitizeMutation D m = .ok m') :
    m' = m ∧ Sanitized D m ∧ m.toJson.isCanonical = true := by
  simp only [sanitizeMutation, bind_eq_ok] at h
  obtain ⟨_, hclone, h⟩ := h
  have hcanonical : m.toJson.isCanonical = true := by
    simp only [cloneJson, bind_eq_ok, canonicalText_eq_ok] at hclone
    obtain ⟨_, -, _, ⟨-, hcanonical, -, -⟩, -⟩ := hclone
    exact hcanonical
  cases m with
  | delete tumblerId clientId counter =>
    simp only [bind_eq_ok, checkId_eq_ok, require_eq_ok, pure_eq_ok, Except.ok.injEq] at h
    obtain ⟨_, ⟨hid, rfl⟩, _, ⟨rfl, hcounter⟩, rfl⟩ := h
    exact ⟨rfl, ⟨hid, rfl, hcounter⟩, hcanonical⟩
  | replace tumblerId counter old replacement =>
    simp only [bind_eq_ok, require_eq_ok, pure_eq_ok, Except.ok.injEq] at h
    obtain ⟨_, hold, _, hnew, _, ⟨hne, rfl, rfl, -, -⟩, rfl⟩ := h
    obtain ⟨rfl, hold⟩ := sanitizeSnapshot_ok hold
    obtain ⟨rfl, hnew⟩ := sanitizeSnapshot_ok hnew
    exact ⟨rfl, ⟨hold, hnew, hne, rfl, rfl⟩, hcanonical⟩
  | snapshot tumblerId s =>
    simp only [bind_eq_ok, checkId_eq_ok, require_eq_ok, pure_eq_ok, Except.ok.injEq] at h
    obtain ⟨_, ⟨-, rfl⟩, _, hs, _, ⟨rfl, -⟩, rfl⟩ := h
    obtain ⟨rfl, hs⟩ := sanitizeSnapshot_ok hs
    exact ⟨rfl, ⟨hs, rfl⟩, hcanonical⟩

theorem publicSnapshot_ok {p : PublicMap} {publicMapDigest secretDigest : JsString}
    (h : publicSnapshot D map = .ok (p, publicMapDigest, secretDigest)) :
    ValidMap true map ∧ p = .ofMap map ∧ secretDigest = D.hex map.sharedSecret.utf8 := by
  simp only [publicSnapshot, bind_eq_ok, require_eq_ok, checkId_eq_ok, pure_eq_ok, Except.ok.injEq,
    Prod.mk.injEq] at h
  obtain ⟨_, -, source, hmap, _, -, _, -, _, -, rfl, -, rfl⟩ := h
  obtain ⟨rfl, hvalid⟩ := validateMap_ok hmap
  exact ⟨hvalid, rfl, rfl⟩

/-- A snapshot of the source is bound, and it shows the map. -/
structure SnapshotOf (D : Sha256Bytes) (map : TumblerMap) (revision : Int) (s : CredentialSnapshot) : Prop where
  valid : ValidMap true map
  clientId : s.clientId = map.clientId
  counter : s.counter = revision
  publicMap : s.publicMap = .ofMap map
  secretDigest : s.secretDigest = D.hex map.sharedSecret.utf8
  bound : Bound D s

theorem snapshot_ok {revision : Int} (h : snapshot D map revision = .ok s) : SnapshotOf D map revision s := by
  simp only [snapshot, bind_eq_ok, require_eq_ok, checkId_eq_ok] at h
  obtain ⟨_, ⟨-, rfl⟩, _, -, _, -, ⟨p, publicMapDigest, secretDigest⟩, hpublic, hsanitize⟩ := h
  obtain ⟨hvalid, rfl, rfl⟩ := publicSnapshot_ok hpublic
  obtain ⟨rfl, hbound⟩ := sanitizeSnapshot_ok hsanitize
  exact ⟨hvalid, rfl, rfl, rfl, rfl, hbound⟩

end Sanitized

end TskProtocol.Credential
