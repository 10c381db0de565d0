import TskProtocol.Principal.Calls

namespace TskProtocol

/-- A scalar is written as it is, whatever the order of properties. -/
structure Writes (v : PayloadValue) (j : Json) : Prop where
  toJson : v.toJson = .ok (some j)
  sorted : j.sorted propertyLe = j
  distinct : j.Distinct

theorem Writes.num (n : Int) : Writes (.num n) (.num n) := ⟨rfl, rfl, trivial⟩

theorem Writes.str (s : JsString) : Writes (.str s) (.str s) := ⟨rfl, rfl, trivial⟩

theorem Writes.optionalStr (s : Option JsString) : Writes (optionalStr s) (optionalJson s) := by
  cases s <;> exact ⟨rfl, rfl, trivial⟩

theorem optionalJson_injective {s t : Option JsString} (h : optionalJson s = optionalJson t) : s = t := by
  cases s <;> cases t <;> simp [optionalJson] at h ⊢
  exact h

theorem itemsToJson_append {front : List PayloadValue} {js : List Json}
    (h : List.Forall₂ Writes front js) (last : PayloadValue) :
    PayloadValue.itemsToJson (front ++ [last]) = last.toJson.map fun j => js ++ [j.getD .null] := by
  induction h with
  | nil =>
    rw [List.nil_append, PayloadValue.itemsToJson]
    cases last.toJson <;> rfl
  | cons hv _ ih =>
    rw [List.cons_append, PayloadValue.itemsToJson, hv.toJson, bind_ok, ih]
    cases last.toJson <;> rfl

theorem sortedItems_append {front : List PayloadValue} {js : List Json}
    (h : List.Forall₂ Writes front js) (last : Json) :
    Json.sortedItems propertyLe (js ++ [last]) = js ++ [last.sorted propertyLe] := by
  induction h with
  | nil => rfl
  | cons hv _ ih => rw [List.cons_append, Json.sortedItems, hv.sorted, ih, List.cons_append]

theorem allDistinct_of_writes {front : List PayloadValue} {js : List Json}
    (h : List.Forall₂ Writes front js) : Json.AllDistinct js := by
  induction h with
  | nil => trivial
  | cons hv _ ih => exact ⟨hv.distinct, ih⟩

/-- The text of an array of scalars and one object. -/
theorem canonicalJson_fields {front : List PayloadValue} {js : List Json} {members : PayloadRecord}
    {text : JsString} (h : List.Forall₂ Writes front js)
    (htext : canonicalJson (.arr (front ++ [.obj members])) = .ok text) :
    ∃ last : Json, canonicalJson (.obj members) = .ok last.stringify ∧
      text = 91 :: (Json.itemsText (js ++ [last]) ++ [93]) := by
  simp only [canonicalJson, PayloadValue.toJson, itemsToJson_append h] at htext
  cases hmembers : PayloadValue.membersToJson members with
  | error e => simp [hmembers, Except.map] at htext
  | ok ms =>
    refine ⟨(Json.obj ms).sorted propertyLe, by rw [canonicalJson, PayloadValue.toJson, hmembers]; rfl, ?_⟩
    simp only [hmembers, bind_ok, pure_eq_ok, Except.map, orThrow, Except.ok.injEq, Option.getD_some,
      Json.sorted, sortedItems_append h] at htext
    rw [← htext, ← List.append_nil (Json.stringify _), Json.stringify_arr]
    rfl

/-- Such texts are equal only when all the scalars are and the objects have the same text. -/
theorem canonicalJson_fields_inj {front front' : List PayloadValue} {js js' : List Json}
    {members members' : PayloadRecord} {text : JsString} (h : List.Forall₂ Writes front js)
    (h' : List.Forall₂ Writes front' js') (hlength : js.length = js'.length)
    (htext : canonicalJson (.arr (front ++ [.obj members])) = .ok text)
    (htext' : canonicalJson (.arr (front' ++ [.obj members'])) = .ok text) :
    js = js' ∧ canonicalJson (.obj members) = canonicalJson (.obj members') := by
  obtain ⟨last, hlast, rfl⟩ := canonicalJson_fields h htext
  obtain ⟨last', hlast', heq⟩ := canonicalJson_fields h' htext'
  obtain ⟨hjs, hends⟩ := Json.itemsText_append_inj (allDistinct_of_writes h) (allDistinct_of_writes h')
    hlength (List.cons_injective heq)
  rw [hlast, hlast', List.append_cancel_right hends]
  exact ⟨hjs, rfl⟩

/-- An event as its hash covers it: the payload counts as canonical JSON, an absent one as `{}`. -/
def PrincipalStreamEntry.covered (event : PrincipalStreamEntry) :
    PrincipalStreamEntry × Except PrincipalError JsString :=
  ({ event with payload := none }, canonicalJson (.obj (event.payload.getD [])))

theorem PrincipalEventType.text_injective {a b : PrincipalEventType} (h : a.text = b.text) : a = b := by
  revert h
  cases a <;> cases b <;> decide

theorem PrincipalStreamEntry.covered_eq {event event' : PrincipalStreamEntry} {text : JsString}
    (h : event.text = .ok text) (h' : event'.text = .ok text) : event.covered = event'.covered := by
  have hwrites (event : PrincipalStreamEntry) : List.Forall₂ Writes event.fields
      [.num event.seq, .str event.prevHash, .str event.principalId, .str event.streamId,
        .str event.provider, optionalJson event.providerSessionId, .str event.agentInstanceId,
        .num event.timestamp, .str event.eventType.text, optionalJson event.policyDigest,
        optionalJson event.proofDigest, .str event.payloadHash] :=
    .cons (.num _) <| .cons (.str _) <| .cons (.str _) <| .cons (.str _) <| .cons (.str _) <|
      .cons (.optionalStr _) <| .cons (.str _) <| .cons (.num _) <| .cons (.str _) <|
      .cons (.optionalStr _) <| .cons (.optionalStr _) <| .cons (.str _) .nil
  obtain ⟨hfields, hpayload⟩ := canonicalJson_fields_inj (hwrites event) (hwrites event') rfl h h'
  simp only [List.cons.injEq, Json.num.injEq, Json.str.injEq, and_true] at hfields
  obtain ⟨hseq, hprev, hprincipal, hstream, hprovider, hsession, hagent, htime, htype, hpolicy, hproof,
    hhash⟩ := hfields
  simp only [covered, hpayload, Prod.mk.injEq, and_true, PrincipalStreamEntry.mk.injEq, true_and]
  exact ⟨hprincipal, hstream, hprovider, optionalJson_injective hsession, hagent, hseq, htime,
    PrincipalEventType.text_injective htype, optionalJson_injective hpolicy, optionalJson_injective hproof,
    hhash, hprev⟩

namespace MemoryPrincipalSessionLedger

variable {S : Sha256} {ledger : MemoryPrincipalSessionLedger}

/-- The texts that the verification of a principal hashes. -/
def hashedTexts (ledger : MemoryPrincipalSessionLedger) (id : JsString) : List JsString :=
  (((ledger.principals.get? id).map (·.streamIds)).getD []).flatMap
      (fun streamId => (ledger.eventsOf streamId).filterMap
        fun event => event.toPrincipalStreamEntry.text.toOption) ++
    (ledger.checkpointsOf id).filterMap fun checkpoint => checkpoint.toPrincipalCheckpointEntry.text.toOption

/-- The hash keeps apart what the two verifications hash. -/
def NoCollision (S : Sha256) (ledger ledger' : MemoryPrincipalSessionLedger) (id : JsString) : Prop :=
  ∀ a ∈ ledger.hashedTexts id, ∀ b ∈ ledger'.hashedTexts id, S.hex a = S.hex b → a = b

/-- The events of a stream, their fields and hashes, but for the derived `bindingHash`. -/
def shown (ledger : MemoryPrincipalSessionLedger) (streamId : JsString) :
    List ((PrincipalStreamEntry × Except PrincipalError JsString) × JsString) :=
  (ledger.eventsOf streamId).map fun event => (event.toPrincipalStreamEntry.covered, event.chainHash)

theorem NoCollision.symm {ledger' : MemoryPrincipalSessionLedger} {id : JsString}
    (h : NoCollision S ledger ledger' id) : NoCollision S ledger' ledger id :=
  fun a ha b hb hab => (h b hb a ha hab.symm).symm

end MemoryPrincipalSessionLedger

section Sample

end Sample

instance (S : Sha256) (ledger ledger' : MemoryPrincipalSessionLedger) (id : JsString) :
    Decidable (ledger.NoCollision S ledger' id) :=
  inferInstanceAs (Decidable (∀ a ∈ ledger.hashedTexts id, ∀ b ∈ ledger'.hashedTexts id, _ → _))

end TskProtocol
