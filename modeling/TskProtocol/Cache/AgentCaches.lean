import Mathlib.Data.Rat.Floor
import Mathlib.Tactic.Linarith
import TskProtocol.Cache.AgentCache

namespace TskProtocol

namespace JsString

/-- No other string has its UTF-8 encoding. -/
def isExact (s : JsString) : Bool := !s.hasLoneSurrogate && !s.contains 0xFFFD

theorem unitPoint_lone {c : UInt16} (h : (isHighSurrogate c || isLowSurrogate c) = true) :
    unitPoint c = 0xFFFD := if_pos h

theorem WellFormed.unit_of_not_lone {c : UInt16} {rest : JsString}
    (h : ¬ (isHighSurrogate c || isLowSurrogate c) = true) (hrest : rest.WellFormed) : WellFormed (c :: rest) := by
  rw [Bool.not_eq_true, Bool.or_eq_false_iff] at h
  exact .unit h.1 h.2 hrest

/-- A lone surrogate is written as U+FFFD. -/
theorem mem_points_of_not_wellFormed {s : JsString} (h : ¬ s.WellFormed) : 0xFFFD ∈ points s := by
  induction s using points.induct with
  | case1 => exact (h .nil).elim
  | case2 c =>
    by_cases hc : (isHighSurrogate c || isLowSurrogate c) = true
    · rw [points, unitPoint_lone hc]
      exact List.mem_singleton_self _
    · exact (h (.unit_of_not_lone hc .nil)).elim
  | case3 c d rest hpair ih =>
    rw [points, if_pos hpair]
    rw [Bool.and_eq_true] at hpair
    exact List.mem_cons_of_mem _ (ih fun hrest => h (.pair hpair.1 hpair.2 hrest))
  | case4 c d rest hpair ih =>
    rw [points, if_neg hpair]
    by_cases hc : (isHighSurrogate c || isLowSurrogate c) = true
    · rw [unitPoint_lone hc]
      exact List.mem_cons_self
    · exact List.mem_cons_of_mem _ (ih fun hrest => h (.unit_of_not_lone hc hrest))

theorem WellFormed.mem_of_mem_points {s : JsString} (hs : s.WellFormed) (h : 0xFFFD ∈ points s) :
    (0xFFFD : UInt16) ∈ s := by
  induction hs with
  | nil => simp [points] at h
  | @unit c rest hhigh hlow hrest ih =>
    rw [points_unit hhigh hlow, List.mem_cons] at h
    rcases h with h | h
    · have hc : c = 0xFFFD := UInt16.toNat_inj.mp h.symm
      rw [hc]
      exact List.mem_cons_self
    · exact List.mem_cons_of_mem _ (ih h)
  | @pair c d rest hhigh hlow hrest ih =>
    rw [points_pair hhigh hlow, List.mem_cons] at h
    rcases h with h | h
    · have := (pairPoint_lt hhigh hlow).1
      omega
    · exact List.mem_cons_of_mem _ (List.mem_cons_of_mem _ (ih h))

theorem isExact_iff {s : JsString} : s.isExact = true ↔ s.WellFormed ∧ (0xFFFD : UInt16) ∉ s := by
  rw [isExact, Bool.and_eq_true, Bool.not_eq_true', Bool.not_eq_true', ← wellFormed_iff, List.contains_eq_mem,
    decide_eq_false_iff_not]

theorem eq_of_isExact {s t : JsString} (hs : s.isExact = true) (h : utf8 t = utf8 s) : t = s := by
  obtain ⟨hwell, hmem⟩ := isExact_iff.mp hs
  have hpoints : points t = points s := by
    rw [utf8_eq, utf8_eq] at h
    exact flatMap_encodePoint_inj (points_lt t) (points_lt s) h
  have ht : t.WellFormed := by
    by_contra ht
    have := mem_points_of_not_wellFormed ht
    rw [hpoints] at this
    exact hmem (hwell.mem_of_mem_points this)
  exact ht.points_inj hwell hpoints

theorem utf8_unit {c : UInt16} (hc : isHighSurrogate c = false) (rest : JsString) :
    utf8 (c :: rest) = encodeUnit c ++ utf8 rest := by
  cases rest with
  | nil => simp [utf8]
  | cons d rest => rw [utf8, if_neg (by simp [hc])]

/-- A lone surrogate may be replaced by what is written of it. -/
theorem exists_replaced {s : JsString} (h : ¬ s.WellFormed) :
    ∃ t, t ≠ s ∧ utf8 t = utf8 s ∧ (0xFFFD : UInt16) ∈ t := by
  have hlone (c : UInt16) (hc : (isHighSurrogate c || isLowSurrogate c) = true) :
      0xFFFD ≠ c ∧ encodeUnit 0xFFFD = encodeUnit c := by
    refine ⟨?_, ?_⟩
    · rintro rfl
      exact absurd hc (by decide)
    · rw [encodeUnit, encodeUnit, if_pos hc]
      rfl
  induction s using utf8.induct with
  | case1 => exact (h .nil).elim
  | case2 c =>
    by_cases hc : (isHighSurrogate c || isLowSurrogate c) = true
    · exact ⟨[0xFFFD], by simpa using (hlone c hc).1, (hlone c hc).2, List.mem_singleton_self _⟩
    · exact (h (.unit_of_not_lone hc .nil)).elim
  | case3 c d rest hpair ih =>
    have hpair' := hpair
    rw [Bool.and_eq_true] at hpair'
    obtain ⟨t, hne, hutf8, hmem⟩ := ih fun hrest => h (.pair hpair'.1 hpair'.2 hrest)
    refine ⟨c :: d :: t, by simpa using hne, ?_, by simp [hmem]⟩
    rw [utf8, if_pos hpair, utf8, if_pos hpair, hutf8]
  | case4 c d rest hpair ih =>
    by_cases hc : (isHighSurrogate c || isLowSurrogate c) = true
    · refine ⟨0xFFFD :: d :: rest, by simpa using (hlone c hc).1, ?_, List.mem_cons_self⟩
      rw [utf8, if_neg (by simp [show isHighSurrogate 0xFFFD = false by decide]), utf8, if_neg hpair,
        (hlone c hc).2]
    · obtain ⟨t, hne, hutf8, hmem⟩ := ih fun hrest => h (.unit_of_not_lone hc hrest)
      refine ⟨c :: t, by simpa using hne, ?_, List.mem_cons_of_mem _ hmem⟩
      rw [Bool.not_eq_true, Bool.or_eq_false_iff] at hc
      rw [utf8_unit hc.1 t, utf8_unit hc.1 (d :: rest), hutf8]

theorem not_low_of_high {c : UInt16} (h : isHighSurrogate c = true) : isLowSurrogate c = false := by
  obtain ⟨-, hle⟩ := toNat_of_high h
  cases hlow : isLowSurrogate c with
  | false => rfl
  | true =>
    have := (toNat_of_low hlow).1
    omega

/-- U+FFFD may be replaced by a lone surrogate. -/
theorem WellFormed.exists_replaced {s : JsString} (hs : s.WellFormed) (h : (0xFFFD : UInt16) ∈ s) :
    ∃ t, t ≠ s ∧ utf8 t = utf8 s ∧ (0xD800 : UInt16) ∈ t := by
  induction hs with
  | nil => cases h
  | @unit c rest hhigh hlow hrest ih =>
    by_cases hc : c = 0xFFFD
    · subst hc
      refine ⟨0xD800 :: rest, by simp, ?_, List.mem_cons_self⟩
      rw [utf8_unit hhigh rest]
      cases hrest with
      | nil => rfl
      | unit _ hlow' _ =>
        rw [utf8, if_neg (by simp [hlow'])]
        rfl
      | pair hhigh' _ _ =>
        rw [utf8, if_neg (by simp [not_low_of_high hhigh'])]
        rfl
    · obtain ⟨t, hne, hutf8, hmem⟩ := ih ((List.mem_cons.mp h).resolve_left fun heq => hc heq.symm)
      refine ⟨c :: t, by simpa using hne, ?_, List.mem_cons_of_mem _ hmem⟩
      rw [utf8_unit hhigh t, utf8_unit hhigh rest, hutf8]
  | @pair c d rest hhigh hlow hrest ih =>
    have hpair : (isHighSurrogate c && isLowSurrogate d) = true := by rw [hhigh, hlow]; rfl
    have hrest : (0xFFFD : UInt16) ∈ rest := by
      simp only [List.mem_cons] at h
      rcases h with rfl | rfl | h
      · exact absurd hhigh (by decide)
      · exact absurd hlow (by decide)
      · exact h
    obtain ⟨t, hne, hutf8, hmem⟩ := ih hrest
    refine ⟨c :: d :: t, by simpa using hne, ?_, by simp [hmem]⟩
    rw [utf8, if_pos hpair, utf8, if_pos hpair, hutf8]

/-- Any other string that is written with lone surrogates or U+FFFD shares its encoding. -/
theorem exists_of_not_isExact {s : JsString} (h : s.isExact = false) :
    ∃ t, t ≠ s ∧ utf8 t = utf8 s ∧ isBlank t = false := by
  have hblank (c : UInt16) (hc : isJsWhitespace c = false) (t : JsString) (hmem : c ∈ t) : isBlank t = false :=
    List.all_eq_false.mpr ⟨c, hmem, by simp [hc]⟩
  by_cases hwell : s.WellFormed
  · have hmem : (0xFFFD : UInt16) ∈ s := by
      by_contra hmem
      rw [isExact_iff.mpr ⟨hwell, hmem⟩] at h
      cases h
    obtain ⟨t, hne, hutf8, ht⟩ := hwell.exists_replaced hmem
    exact ⟨t, hne, hutf8, hblank _ (by decide) t ht⟩
  · obtain ⟨t, hne, hutf8, ht⟩ := JsString.exists_replaced hwell
    exact ⟨t, hne, hutf8, hblank _ (by decide) t ht⟩

end JsString

namespace PlainNumber

/-- What `JSON.parse` reads of a finite number that `JSON.stringify` wrote. -/
def read : PlainNumber → PlainNumber
  | .negativeZero => .int 0
  | n => n

theorem asNumber_toJson {n : PlainNumber} (h : n.isFinite = true) : n.toJson.asNumber = some n.read := by
  cases n with
  | nan | infinity _ => cases h
  | negativeZero | int _ | dec _ => rfl

theorem isFinite_read (n : PlainNumber) : n.read.isFinite = n.isFinite := by
  cases n <;> rfl

theorem le_read (n m : PlainNumber) : n.read.le m = n.le m := by
  cases n with
  | negativeZero =>
    have hvalue : value (.int 0) = value .negativeZero := Int.cast_zero
    cases m with
    | infinity negative => cases negative <;> rfl
    | nan => rfl
    | negativeZero => exact congrArg (fun x : Rat => decide (x ≤ value .negativeZero)) hvalue
    | int i => exact congrArg (fun x : Rat => decide (x ≤ value (.int i))) hvalue
    | dec d => exact congrArg (fun x : Rat => decide (x ≤ value (.dec d))) hvalue
  | nan | infinity _ | int _ | dec _ => rfl

/-- There is a time ahead of every finite time. -/
theorem exists_before {n : PlainNumber} (h : n.isFinite = true) :
    ∃ now : PlainNumber, now.isFinite = true ∧ n.le now = false := by
  have hlt : ((⌊n.value⌋ - 1 : Int) : Rat) < n.value := by
    have := Int.floor_le n.value
    push_cast
    linarith
  refine ⟨.int (⌊n.value⌋ - 1), rfl, ?_⟩
  cases n with
  | nan | infinity _ => cases h
  | negativeZero | int _ | dec _ => exact decide_eq_false (not_le.mpr hlt)

end PlainNumber

theorem requireNonEmptyString_eq_ok {value : Option JsString} {fieldName : String} {s : JsString} :
    requireNonEmptyString value fieldName = .ok s ↔ value = some s ∧ isBlank s = false := by
  rw [requireNonEmptyString, orThrow_eq_ok, Option.filter_eq_some_iff, Bool.not_eq_true']

theorem requireFiniteTimestamp_eq_ok {value : Option PlainNumber} {fieldName : String} {n : PlainNumber} :
    requireFiniteTimestamp value fieldName = .ok n ↔ value = some n ∧ n.isFinite = true := by
  rw [requireFiniteTimestamp, orThrow_eq_ok, Option.filter_eq_some_iff]

namespace AgentCredentialCacheEntry

/-- What is checked of an entry on either side of its serialisation. -/
structure Valid (entry : AgentCredentialCacheEntry) : Prop where
  principal_id : isBlank entry.principal_id = false
  binding_hash : isBlank entry.binding_hash = false
  policy_digest : isBlank entry.policy_digest = false
  permissions_hash : isBlank entry.permissions_hash = false
  expires_at : entry.expires_at.isFinite = true
  sealed_at : entry.sealed_at.isFinite = true
  distinct : entry.credential_material.Distinct

/-- The entry as it is read back, its material as `json`. -/
def readAs (entry : AgentCredentialCacheEntry) (json : Json) : AgentCredentialCacheEntry :=
  { entry with
    expires_at := entry.expires_at.read
    sealed_at := entry.sealed_at.read
    credential_material := .ofJson json }

variable {entry : AgentCredentialCacheEntry}

theorem Valid.distinct_json (h : entry.Valid) : entry.json.Distinct := by
  have hmembers : (PlainValue.obj entry.members).Distinct := by
    have hkeys : (entry.members.map Prod.fst) = [JsString.lit "version", JsString.lit "principal_id",
        JsString.lit "binding_hash", JsString.lit "policy_digest", JsString.lit "permissions_hash",
        JsString.lit "expires_at", JsString.lit "sealed_at", JsString.lit "credential_material"] := rfl
    refine ⟨by rw [hkeys]; decide, ?_⟩
    simp only [members, PlainValue.MembersDistinct, PlainValue.Distinct, true_and, and_true]
    exact h.distinct
  exact hmembers.toJson _ _ rfl

theorem field_credential_material :
    entry.json.field "credential_material" = entry.credential_material.toJson := by
  have hfield (written : Option Json) :
      ((PlainValue.membersToJson (entry.members.take 7) ++
        ((written.map fun json => (JsString.lit "credential_material", json)).toList ++ [])).find?
          fun m : JsString × Json => m.1 = JsString.lit "credential_material").map Prod.snd = written := by
    cases written <;> rfl
  exact hfield entry.credential_material.toJson

/-- What is written of an entry is read back unless nothing is written of its material. -/
theorem Valid.parseCacheEntry_eq_ok (h : entry.Valid) {e : AgentCredentialCacheEntry} :
    parseCacheEntry entry.json.stringify = .ok e ↔
      ∃ json, entry.credential_material.toJson = some json ∧ e = entry.readAs json := by
  have hexpires : (entry.json.field "expires_at").bind Json.asNumber = some entry.expires_at.read :=
    PlainNumber.asNumber_toJson h.expires_at
  have hsealed : (entry.json.field "sealed_at").bind Json.asNumber = some entry.sealed_at.read :=
    PlainNumber.asNumber_toJson h.sealed_at
  have hstr (key : String) (s : JsString) (hs : isBlank s = false) (hfield : entry.json.strField key = some s) :
      requireNonEmptyString (entry.json.strField key) key = .ok s :=
    requireNonEmptyString_eq_ok.mpr ⟨hfield, hs⟩
  have hnum (key : String) (n : PlainNumber) (hn : n.isFinite = true)
      (hfield : (entry.json.field key).bind Json.asNumber = some n) :
      requireFiniteTimestamp ((entry.json.field key).bind Json.asNumber) key = .ok n :=
    requireFiniteTimestamp_eq_ok.mpr ⟨hfield, hn⟩
  rw [parseCacheEntry, Json.parse_stringify h.distinct_json, orThrow, bind_ok,
    require_pos (p := entry.json.isObject = true) rfl, bind_ok,
    hstr "principal_id" _ h.principal_id rfl, bind_ok, hstr "binding_hash" _ h.binding_hash rfl, bind_ok,
    hstr "policy_digest" _ h.policy_digest rfl, bind_ok,
    hstr "permissions_hash" _ h.permissions_hash rfl, bind_ok,
    hnum "expires_at" _ (by rw [PlainNumber.isFinite_read]; exact h.expires_at) hexpires, bind_ok,
    hnum "sealed_at" _ (by rw [PlainNumber.isFinite_read]; exact h.sealed_at) hsealed, bind_ok,
    require_pos (p := entry.json.strField "version" = some (JsString.lit "1")) rfl, bind_ok,
    field_credential_material]
  cases entry.credential_material.toJson with
  | none => simp [require]
  | some json => simp [require, readAs, eq_comm]

end AgentCredentialCacheEntry

namespace AgentCredentialCacheExpectedState

def fields (state : AgentCredentialCacheExpectedState) : List JsString :=
  [state.principalId, state.bindingHash, state.policyDigest, state.permissionsHash]

theorem fields_injective : Function.Injective fields := by
  rintro ⟨_, _, _, _⟩ ⟨_, _, _, _⟩ h
  simpa [fields] using h

/-- Another state that differs in one field. -/
theorem exists_replaced {state : AgentCredentialCacheExpectedState} {s t : JsString} (h : s ∈ state.fields)
    (hne : t ≠ s) : ∃ other : AgentCredentialCacheExpectedState, other ≠ state ∧
      ∀ R : JsString → JsString → Prop, (∀ a ∈ state.fields, R a a) → R s t →
        List.Forall₂ R state.fields other.fields := by
  have hother : ∃ other : AgentCredentialCacheExpectedState, other ≠ state ∧
      List.Forall₂ (fun a b => b = a ∨ a = s ∧ b = t) state.fields other.fields := by
    simp only [fields, List.mem_cons, List.not_mem_nil, or_false] at h
    rcases h with rfl | rfl | rfl | rfl
    · exact ⟨{ state with principalId := t }, fun h => hne (congrArg principalId h), by simp [fields]⟩
    · exact ⟨{ state with bindingHash := t }, fun h => hne (congrArg bindingHash h), by simp [fields]⟩
    · exact ⟨{ state with policyDigest := t }, fun h => hne (congrArg policyDigest h), by simp [fields]⟩
    · exact ⟨{ state with permissionsHash := t }, fun h => hne (congrArg permissionsHash h), by simp [fields]⟩
  obtain ⟨other, hother, hfields⟩ := hother
  refine ⟨other, hother, fun R hrefl hR => List.forall₂_iff_get.mpr ⟨hfields.length_eq, fun i hi hi' => ?_⟩⟩
  rcases hfields.get hi hi' with hsame | ⟨hs, ht⟩
  · rw [hsame]
    exact hrefl _ (List.get_mem _ _)
  · rw [hs, ht]
    exact hR

end AgentCredentialCacheExpectedState

section Opening

variable {S : Sha256Bytes} {protector : DpapiProtector} {input : CreateAgentCredentialCacheEntryInput}
  {sealedAt now : PlainNumber} {sealedCache : SealedAgentCredentialCache}
  {expected : AgentCredentialCacheExpectedState} {entry e : AgentCredentialCacheEntry}

/-- The entry of an input and its material. -/
def CreateAgentCredentialCacheEntryInput.entryWith (input : CreateAgentCredentialCacheEntryInput)
    (sealedAt : PlainNumber) (material : PlainValue) : AgentCredentialCacheEntry where
  principal_id := input.principalId
  binding_hash := input.bindingHash
  policy_digest := input.policyDigest
  permissions_hash := input.permissionsHash
  expires_at := input.expiresAt
  sealed_at := sealedAt
  credential_material := material

theorem createAgentCredentialCacheEntry_ok (h : createAgentCredentialCacheEntry input sealedAt = .ok entry) :
    ∃ material, input.credentialMaterial = some material ∧ entry = input.entryWith sealedAt material ∧
      entry.Valid := by
  simp only [createAgentCredentialCacheEntry, bind_eq_ok, requireNonEmptyString_eq_ok,
    requireFiniteTimestamp_eq_ok, require_eq_ok, exists_const, pure_eq_ok, Except.ok.injEq,
    Option.some.injEq] at h
  obtain ⟨_, ⟨rfl, hprincipal⟩, _, ⟨rfl, hbinding⟩, _, ⟨rfl, hpolicy⟩, _, ⟨rfl, hpermissions⟩, _,
    ⟨rfl, hexpires⟩, _, ⟨rfl, hsealed⟩, hmaterial, rfl⟩ := h
  obtain ⟨material, hmaterial⟩ := Option.isSome_iff_exists.mp hmaterial
  have hdistinct := input.distinct material hmaterial
  refine ⟨material, hmaterial, ?_, ?_⟩
  · rw [hmaterial]
    rfl
  · rw [hmaterial]
    exact ⟨hprincipal, hbinding, hpolicy, hpermissions, hexpires, hsealed, hdistinct⟩

/-- What a sealed document is made of. -/
theorem sealAgentCredentialCacheEntry_eq_ok :
    sealAgentCredentialCacheEntry input sealedAt protector = .ok sealedCache ↔
      protector.scope = CURRENT_USER ∧ ∃ entry, createAgentCredentialCacheEntry input sealedAt = .ok entry ∧
        ∃ ciphertext, protector.protect entry.json.stringify.utf8 = .ok ciphertext ∧
          ⟨JsString.lit "1", CURRENT_USER, entry.sealed_at, Base64Url.encodeStandard ciphertext⟩ = sealedCache := by
  simp only [sealAgentCredentialCacheEntry, bind_eq_ok, require_eq_ok, exists_const, pure_eq_ok,
    Except.ok.injEq]

theorem isBlank_encodeStandard (data : List UInt8) :
    isBlank (Base64Url.encodeStandard data) = true ↔ data = [] := by
  constructor
  · intro h
    by_contra hdata
    have hdigits : ∀ n < 64, isJsWhitespace (Base64Url.standardDigit n) = false := by decide
    obtain ⟨n, rest, hsextets⟩ : ∃ n rest, Base64Url.sextets data = n :: rest := by
      rcases data with _ | ⟨a, _ | ⟨b, _ | ⟨c, rest⟩⟩⟩
      · exact (hdata rfl).elim
      · exact ⟨_, _, rfl⟩
      · exact ⟨_, _, rfl⟩
      · exact ⟨_, _, rfl⟩
    have hmem : n ∈ Base64Url.sextets data := by
      rw [hsextets]
      exact List.mem_cons_self
    have hn := Base64Url.sextets_lt hmem
    rw [Base64Url.encodeStandard, hsextets, List.map_cons, List.cons_append, isBlank, List.all_cons,
      hdigits n hn] at h
    cases h
  · rintro rfl
    rfl

/-- The digests of the fields agree, and what is expected is not blank. -/
def MatchesState (S : Sha256Bytes) (state expected : AgentCredentialCacheExpectedState) : Prop :=
  List.Forall₂ (fun a b : JsString => isBlank b = false ∧ S.hex a.utf8 = S.hex b.utf8) state.fields
    expected.fields

theorem assertSameField_eq_ok {actual want : JsString} {fieldName : String} {u : Unit} :
    assertSameField S actual want fieldName = .ok u ↔
      isBlank want = false ∧ S.hex actual.utf8 = S.hex want.utf8 := by
  simp only [assertSameField, bind_eq_ok, requireNonEmptyString_eq_ok, Option.some.injEq, require_eq_ok,
    constantTimeStringEqual, decide_eq_true_eq]
  constructor
  · rintro ⟨_, ⟨rfl, hblank⟩, hhex⟩
    exact ⟨hblank, hhex⟩
  · exact fun h => ⟨want, ⟨rfl, h.1⟩, h.2⟩

theorem validateEntryAgainstCurrentState_eq_ok {material : PlainValue} {json : Json} {u : Unit} :
    validateEntryAgainstCurrentState S ((input.entryWith sealedAt material).readAs json) expected now = .ok u ↔
      input.expiresAt.le now = false ∧ MatchesState S input.toAgentCredentialCacheExpectedState expected := by
  simp only [validateEntryAgainstCurrentState, bind_eq_ok, require_eq_ok, assertSameField_eq_ok, exists_const,
    MatchesState, AgentCredentialCacheExpectedState.fields, List.forall₂_cons, List.forall₂_nil_left_iff, and_true]
  rw [AgentCredentialCacheEntry.readAs, PlainNumber.le_read]
  rfl

/-- When a sealed document opens, and what it opens to. -/
theorem openAgentCredentialCacheEntry_eq_ok
    (hinverse : ∀ plaintext ciphertext, protector.protect plaintext = .ok ciphertext →
      protector.unprotect ciphertext = .ok plaintext)
    (hscope : protector.scope = CURRENT_USER) {material : PlainValue}
    (hvalid : (input.entryWith sealedAt material).Valid) {ciphertext : List UInt8}
    (hprotect : protector.protect (input.entryWith sealedAt material).json.stringify.utf8 = .ok ciphertext) :
    openAgentCredentialCacheEntry S ⟨JsString.lit "1", CURRENT_USER, sealedAt,
        Base64Url.encodeStandard ciphertext⟩ expected now protector = .ok e ↔
      ciphertext ≠ [] ∧ (∃ json, material.toJson = some json ∧ e = (input.entryWith sealedAt material).readAs json) ∧
        input.expiresAt.le now = false ∧ MatchesState S input.toAgentCredentialCacheExpectedState expected := by
  have hblank : isBlank (Base64Url.encodeStandard ciphertext) = false ↔ ciphertext ≠ [] := by
    rw [← Bool.not_eq_true, isBlank_encodeStandard]
  have hread := JsString.decodeUtf8_utf8 (Json.wellFormed_stringify (input.entryWith sealedAt material).json)
  have hfinite : sealedAt.isFinite = true := hvalid.sealed_at
  simp only [openAgentCredentialCacheEntry, validateSealedEnvelope, bind_eq_ok, require_eq_ok, exists_const,
    requireNonEmptyString_eq_ok, requireFiniteTimestamp_eq_ok, Base64Url.decode_encodeStandard,
    hinverse _ _ hprotect, Except.mapError, hscope, Except.ok.injEq, pure_eq_ok, Option.some.injEq, hread,
    hvalid.parseCacheEntry_eq_ok, true_and, exists_eq_left', hblank, hfinite, and_true]
  constructor
  · rintro ⟨hne, _, ⟨json, hjson, rfl⟩, _, hvalidate, rfl⟩
    exact ⟨hne, ⟨json, hjson, rfl⟩, validateEntryAgainstCurrentState_eq_ok.mp hvalidate⟩
  · rintro ⟨hne, ⟨json, hjson, rfl⟩, hvalidate⟩
    exact ⟨hne, _, ⟨json, hjson, rfl⟩, (), validateEntryAgainstCurrentState_eq_ok.mpr hvalidate, rfl⟩

/-- No two fields have one digest without having one encoding. -/
def DigestsApart (S : Sha256Bytes) (state expected : AgentCredentialCacheExpectedState) : Prop :=
  List.Forall₂ (fun a b : JsString => S.hex a.utf8 = S.hex b.utf8 → a.utf8 = b.utf8) state.fields expected.fields

/-- The sealed document opens before it expires and under the state it was sealed for, and at no other
time and under no other state. -/
structure Recovers (S : Sha256Bytes) (protector : DpapiProtector) (input : CreateAgentCredentialCacheEntryInput)
    (sealedAt : PlainNumber) (sealedCache : SealedAgentCredentialCache) : Prop where
  opens : ∀ now : PlainNumber, now.isFinite = true → input.expiresAt.le now = false →
    ∃ material ∈ input.credentialMaterial, ∃ json, material.toJson = some json ∧
      openAgentCredentialCacheEntry S sealedCache input.toAgentCredentialCacheExpectedState now protector =
        .ok ((input.entryWith sealedAt material).readAs json)
  refuses : ∀ (expected : AgentCredentialCacheExpectedState) (now : PlainNumber), now.isFinite = true →
    (input.expiresAt.le now = true ∨ expected ≠ input.toAgentCredentialCacheExpectedState) →
    DigestsApart S input.toAgentCredentialCacheExpectedState expected →
    ∃ error, openAgentCredentialCacheEntry S sealedCache expected now protector = .error error

/-- Something is written of the material, the protector returns bytes for it, and no other string
has the encoding of a field. -/
structure Recoverable (protector : DpapiProtector) (input : CreateAgentCredentialCacheEntryInput)
    (sealedAt : PlainNumber) : Prop where
  written : ∃ material ∈ input.credentialMaterial, material.toJson.isSome = true
  bytes : ∀ material ∈ input.credentialMaterial,
    protector.protect (input.entryWith sealedAt material).json.stringify.utf8 ≠ .ok []
  exact_fields : ∀ s ∈ input.fields, s.isExact = true

theorem AgentCredentialCacheEntry.Valid.nonblank {material : PlainValue}
    (hvalid : (input.entryWith sealedAt material).Valid) {s : JsString} (hs : s ∈ input.fields) :
    isBlank s = false := by
  simp only [AgentCredentialCacheExpectedState.fields, List.mem_cons, List.not_mem_nil, or_false] at hs
  rcases hs with rfl | rfl | rfl | rfl
  · exact hvalid.principal_id
  · exact hvalid.binding_hash
  · exact hvalid.policy_digest
  · exact hvalid.permissions_hash

theorem MatchesState.refl (S : Sha256Bytes) {material : PlainValue}
    (hvalid : (input.entryWith sealedAt material).Valid) :
    MatchesState S input.toAgentCredentialCacheExpectedState input.toAgentCredentialCacheExpectedState :=
  List.forall₂_same.mpr fun _ hs => ⟨hvalid.nonblank hs, rfl⟩

theorem eq_of_forall₂_utf8 {strings others : List JsString}
    (h : List.Forall₂ (fun a b : JsString => b.utf8 = a.utf8) strings others)
    (hexact : ∀ s ∈ strings, s.isExact = true) : others = strings := by
  induction h with
  | nil => rfl
  | cons hab _ ih =>
    rw [JsString.eq_of_isExact (hexact _ List.mem_cons_self) hab,
      ih fun s hs => hexact s (List.mem_cons_of_mem _ hs)]

theorem MatchesState.eq {state : AgentCredentialCacheExpectedState} (h : MatchesState S state expected)
    (hapart : DigestsApart S state expected) (hexact : ∀ s ∈ state.fields, s.isExact = true) :
    expected = state := by
  apply AgentCredentialCacheExpectedState.fields_injective
  refine eq_of_forall₂_utf8 ?_ hexact
  simp only [MatchesState, DigestsApart, AgentCredentialCacheExpectedState.fields, List.forall₂_cons,
    List.forall₂_nil_left_iff, and_true] at h hapart ⊢
  exact ⟨(hapart.1 h.1.2).symm, (hapart.2.1 h.2.1.2).symm, (hapart.2.2.1 h.2.2.1.2).symm,
    (hapart.2.2.2 h.2.2.2.2).symm⟩

/-- A document recovers exactly what is recoverable. -/
theorem recovers_iff
    (hinverse : ∀ plaintext ciphertext, protector.protect plaintext = .ok ciphertext →
      protector.unprotect ciphertext = .ok plaintext)
    (hsealed : sealAgentCredentialCacheEntry input sealedAt protector = .ok sealedCache) :
    Recovers S protector input sealedAt sealedCache ↔ Recoverable protector input sealedAt := by
  obtain ⟨hscope, entry, hentry, ciphertext, hprotect, rfl⟩ := sealAgentCredentialCacheEntry_eq_ok.mp hsealed
  obtain ⟨material, hmaterial, rfl, hvalid⟩ := createAgentCredentialCacheEntry_ok hentry
  have hopen (expected : AgentCredentialCacheExpectedState) (now : PlainNumber) (e : AgentCredentialCacheEntry) :
      openAgentCredentialCacheEntry S _ expected now protector = .ok e ↔ _ :=
    openAgentCredentialCacheEntry_eq_ok hinverse hscope hvalid hprotect
  have hrefl := MatchesState.refl S hvalid
  constructor
  · intro hrecovers
    obtain ⟨now, hfinite, hbefore⟩ := PlainNumber.exists_before (show input.expiresAt.isFinite = true from hvalid.expires_at)
    obtain ⟨_, hmaterial', json, hjson, hok⟩ := hrecovers.opens now hfinite hbefore
    obtain rfl := Option.some.inj (hmaterial.symm.trans hmaterial')
    have hbytes := ((hopen _ _ _).mp hok).1
    refine ⟨⟨material, hmaterial, by rw [hjson]; rfl⟩, fun m hm hempty => ?_, fun s hs => ?_⟩
    · obtain rfl := Option.some.inj (hmaterial.symm.trans hm)
      exact hbytes (Except.ok.inj (hprotect.symm.trans hempty))
    · by_contra hexact
      -- a state with another string of the same encoding is taken for the one sealed
      rw [Bool.not_eq_true] at hexact
      obtain ⟨t, hne, hutf8, hblank⟩ := JsString.exists_of_not_isExact hexact
      obtain ⟨other, hother, hfields⟩ := AgentCredentialCacheExpectedState.exists_replaced hs hne
      have hmatches : MatchesState S input.toAgentCredentialCacheExpectedState other := by
        refine hfields _ (fun a ha => ⟨hvalid.nonblank ha, rfl⟩) ⟨hblank, by rw [hutf8]⟩
      have hapart : DigestsApart S input.toAgentCredentialCacheExpectedState other :=
        hfields _ (fun a _ _ => rfl) fun _ => hutf8.symm
      obtain ⟨error, herror⟩ := hrecovers.refuses other now hfinite (.inr hother) hapart
      have hopened := (hopen other now _).mpr ⟨hbytes, ⟨json, hjson, rfl⟩, hbefore, hmatches⟩
      exact nomatch hopened.symm.trans herror
  · intro h
    obtain ⟨_, hmaterial', hwritten⟩ := h.written
    obtain rfl := Option.some.inj (hmaterial.symm.trans hmaterial')
    obtain ⟨json, hjson⟩ := Option.isSome_iff_exists.mp hwritten
    have hne : ciphertext ≠ [] := by
      rintro rfl
      exact h.bytes material hmaterial hprotect
    refine ⟨fun now _ hbefore => ⟨material, hmaterial, json, hjson, ?_⟩, fun expected now _ hwrong hapart => ?_⟩
    · exact (hopen _ _ _).mpr ⟨hne, ⟨json, hjson, rfl⟩, hbefore, hrefl⟩
    · cases hresult : openAgentCredentialCacheEntry S _ expected now protector with
      | error error => exact ⟨error, rfl⟩
      | ok e =>
        obtain ⟨-, -, hbefore, hmatches⟩ := (hopen _ _ _).mp hresult
        rcases hwrong with hexpired | hother
        · rw [hbefore] at hexpired
          cases hexpired
        · exact (hother (hmatches.eq hapart h.exact_fields)).elim

end Opening

/-- A protector that protects nothing. -/
def sampleProtector : DpapiProtector := ⟨CURRENT_USER, .ok, .ok⟩

def sampleCacheInput (material : PlainValue) (distinct : material.Distinct) :
    CreateAgentCredentialCacheEntryInput where
  principalId := JsString.lit "p"
  bindingHash := JsString.lit "b"
  policyDigest := JsString.lit "d"
  permissionsHash := JsString.lit "h"
  expiresAt := .int 10
  credentialMaterial := some material
  distinct := by
    rintro _ ⟨⟩
    exact distinct

def sampleSealed (material : PlainValue) (distinct : material.Distinct) : SealedAgentCredentialCache :=
  ⟨JsString.lit "1", CURRENT_USER, .int 5, Base64Url.encodeStandard
    ((sampleCacheInput material distinct).entryWith (.int 5) material).json.stringify.utf8⟩

theorem seal_sample (material : PlainValue) (distinct : material.Distinct) :
    sealAgentCredentialCacheEntry (sampleCacheInput material distinct) (.int 5) sampleProtector =
      .ok (sampleSealed material distinct) := rfl

theorem recovers_iff_sample : Recovers rollingSha256 sampleProtector (sampleCacheInput .null trivial) (.int 5)
    (sampleSealed .null trivial) := by
  refine (recovers_iff (fun _ _ h => ?_) (seal_sample .null trivial)).mpr ⟨⟨.null, rfl, rfl⟩, ?_, by decide⟩
  · obtain rfl := Except.ok.inj h
    rfl
  · rintro _ ⟨⟩ h
    cases h

/-- A cache of `undefined` is sealed and never opens. -/
theorem undefined_not_recovered : ¬ ∀ (S : Sha256Bytes) (protector : DpapiProtector)
    (input : CreateAgentCredentialCacheEntryInput) (sealedAt : PlainNumber) (sealedCache : SealedAgentCredentialCache),
    (∀ plaintext ciphertext, protector.protect plaintext = .ok ciphertext →
      protector.unprotect ciphertext = .ok plaintext) →
    sealAgentCredentialCacheEntry input sealedAt protector = .ok sealedCache →
    Recovers S protector input sealedAt sealedCache := by
  intro h
  have hrecovers := h rollingSha256 sampleProtector (sampleCacheInput .undefined trivial) (.int 5) _
    (fun _ _ h => by rw [← Except.ok.inj h]; rfl) (seal_sample .undefined trivial)
  obtain ⟨_, ⟨⟩, json, hjson, -⟩ := hrecovers.opens (.int 0) rfl (by decide)
  cases hjson

end TskProtocol
