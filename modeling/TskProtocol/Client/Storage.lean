import TskProtocol.Core.HotpCounter
import TskProtocol.Lib.OrderedMap

namespace TskProtocol

inductive ClientStorageError
  | corrupt | core (e : CoreError)
  deriving DecidableEq, Repr

def initialCounterLabel (segmentId : JsString) : JsString :=
  JsString.lit "initial HOTP counter for " ++ segmentId

def assertValidClientHOTPInitialCounters : List ClientSegmentConfig → Except CoreError Unit
  | [] => pure ()
  | segment :: rest => do
    if segment.type = .hotp then
      assertValidHOTPStoredCounter (segment.initialCounter.getD 0) (initialCounterLabel segment.segmentId)
    assertValidClientHOTPInitialCounters rest

def assertValidPayload (payload : TSKProvisionPayload) : Except ClientStorageError Unit :=
  (assertValidClientHOTPInitialCounters payload.clientSegments).mapError .core

def persistedCounterLabel (segmentId : JsString) : JsString :=
  JsString.lit "persisted HOTP counter for " ++ segmentId

def assertValidCounter (segmentId : JsString) (counter : Int) : Except ClientStorageError Unit :=
  (assertValidHOTPStoredCounter counter (persistedCounterLabel segmentId)).mapError .core

def assertValidCounterVector : List (JsString × Int) → Except ClientStorageError Unit
  | [] => pure ()
  | (segmentId, counter) :: rest => do
    assertValidCounter segmentId counter
    assertValidCounterVector rest

/-- `${clientId}:`. -/
def counterPrefix (clientId : JsString) : JsString := clientId ++ JsString.lit ":"

/-- `${clientId}:${segmentId}`. -/
def counterKey (clientId segmentId : JsString) : JsString := counterPrefix clientId ++ segmentId

/-- The counters of a vector under the keys of a client. -/
def counterEntries (clientId : JsString) (counters : OrderedMap JsString Int) : List (JsString × Int) :=
  counters.entries.map fun e => (counterKey clientId e.1, e.2)

/-- The loop that deletes the keys that start with the prefix of a client. -/
def dropCounters (counters : OrderedMap JsString Int) (clientId : JsString) : OrderedMap JsString Int :=
  counters.filter fun key _ => !(counterPrefix clientId).isPrefixOf key

structure MemoryClientStorage where
  store : OrderedMap JsString TSKProvisionPayload := ∅
  counters : OrderedMap JsString Int := ∅

/-- What a property of a record holds: its own value, or what `Object.prototype` has under the name. -/
inductive RecordValue (α : Type)
  | own (a : α)
  | inherited
  deriving DecidableEq, Repr

namespace MemoryClientStorage

def save (storage : MemoryClientStorage) (payload : TSKProvisionPayload) :
    Except ClientStorageError MemoryClientStorage := do
  assertValidPayload payload
  return { storage with store := storage.store.set payload.clientId payload }

def load (storage : MemoryClientStorage) (clientId : JsString) :
    Except ClientStorageError (Option (RecordValue TSKProvisionPayload)) :=
  match storage.store.get? clientId with
  | none => .ok none
  | some payload => do
    assertValidPayload payload
    return some (.own payload)

def delete (storage : MemoryClientStorage) (clientId : JsString) :
    Except ClientStorageError MemoryClientStorage :=
  .ok { store := storage.store.erase clientId, counters := dropCounters storage.counters clientId }

def saveCounter (storage : MemoryClientStorage) (clientId segmentId : JsString) (counter : Int) :
    Except ClientStorageError MemoryClientStorage := do
  assertValidCounter segmentId counter
  return { storage with counters := storage.counters.set (counterKey clientId segmentId) counter }

def saveCounters (storage : MemoryClientStorage) (clientId : JsString) (counters : OrderedMap JsString Int) :
    Except ClientStorageError MemoryClientStorage := do
  assertValidCounterVector counters.entries
  return { storage with counters := storage.counters.insertAll (counterEntries clientId counters) }

def loadCounter (storage : MemoryClientStorage) (clientId segmentId : JsString) :
    Except ClientStorageError (Option Int) :=
  match storage.counters.get? (counterKey clientId segmentId) with
  | none => .ok none
  | some counter => do
    assertValidCounter segmentId counter
    return some counter

end MemoryClientStorage

structure ClientFileData where
  payloads : OrderedMap JsString TSKProvisionPayload := ∅
  counters : OrderedMap JsString Int := ∅

/-- What is found in the file. -/
inductive FileClientStorage
  | missing
  | corrupt
  /-- The original object of payloads alone. -/
  | payloadOnly (payloads : OrderedMap JsString TSKProvisionPayload)
  | versioned (data : ClientFileData)

/-- The names that a record inherits. -/
def INHERITED_NAMES : List JsString :=
  ["__proto__", "constructor", "hasOwnProperty", "isPrototypeOf", "propertyIsEnumerable", "toLocaleString",
    "toString", "valueOf", "__defineGetter__", "__defineSetter__", "__lookupGetter__",
    "__lookupSetter__"].map JsString.lit

/-- `record[key]`. -/
def readProperty {α : Type} (record : OrderedMap JsString α) (key : JsString) : Option (RecordValue α) :=
  match record.get? key with
  | some a => some (.own a)
  | none => if key ∈ INHERITED_NAMES then some .inherited else none

/-- `record[key] = a`; of a new `__proto__` nothing reaches the file. -/
def writeProperty {α : Type} (record : OrderedMap JsString α) (key : JsString) (a : α) : OrderedMap JsString α :=
  if key = JsString.lit "__proto__" ∧ record.has key = false then record else record.set key a

namespace FileClientStorage

/-- A file that holds an invalid payload or counter counts as corrupt. -/
def checked (data : ClientFileData) : Except ClientStorageError ClientFileData := do
  (data.payloads.entries.forM fun e => assertValidPayload e.2).mapError fun _ => .corrupt
  (data.counters.entries.forM fun e => assertValidCounter e.1 e.2).mapError fun _ => .corrupt
  return data

def readData : FileClientStorage → Except ClientStorageError ClientFileData
  | .missing => .ok {}
  | .corrupt => .error .corrupt
  | .payloadOnly payloads => checked { payloads }
  | .versioned data => checked data

/-- `mutate`. -/
def mutate (storage : FileClientStorage) (change : ClientFileData → ClientFileData) :
    Except ClientStorageError FileClientStorage := do
  return .versioned (change (← storage.readData))

def save (storage : FileClientStorage) (payload : TSKProvisionPayload) :
    Except ClientStorageError FileClientStorage := do
  assertValidPayload payload
  storage.mutate fun data => { data with payloads := writeProperty data.payloads payload.clientId payload }

def load (storage : FileClientStorage) (clientId : JsString) :
    Except ClientStorageError (Option (RecordValue TSKProvisionPayload)) := do
  return readProperty (← storage.readData).payloads clientId

def delete (storage : FileClientStorage) (clientId : JsString) :
    Except ClientStorageError FileClientStorage :=
  storage.mutate fun data =>
    { payloads := data.payloads.erase clientId, counters := dropCounters data.counters clientId }

def saveCounter (storage : FileClientStorage) (clientId segmentId : JsString) (counter : Int) :
    Except ClientStorageError FileClientStorage := do
  assertValidCounter segmentId counter
  storage.mutate fun data => { data with counters := data.counters.set (counterKey clientId segmentId) counter }

def saveCounters (storage : FileClientStorage) (clientId : JsString) (counters : OrderedMap JsString Int) :
    Except ClientStorageError FileClientStorage := do
  assertValidCounterVector counters.entries
  storage.mutate fun data => { data with counters := data.counters.insertAll (counterEntries clientId counters) }

def loadCounter (storage : FileClientStorage) (clientId segmentId : JsString) :
    Except ClientStorageError (Option Int) := do
  return (← storage.readData).counters.get? (counterKey clientId segmentId)

end FileClientStorage

/-- The operations of a client storage that counters and deletion go through. -/
structure ClientStorageApi (σ : Type) where
  init : σ
  load : σ → JsString → Except ClientStorageError (Option (RecordValue TSKProvisionPayload))
  delete : σ → JsString → Except ClientStorageError σ
  saveCounter : σ → JsString → JsString → Int → Except ClientStorageError σ
  saveCounters : σ → JsString → OrderedMap JsString Int → Except ClientStorageError σ
  loadCounter : σ → JsString → JsString → Except ClientStorageError (Option Int)

def memoryClientStorage : ClientStorageApi MemoryClientStorage where
  init := {}
  load := MemoryClientStorage.load
  delete := MemoryClientStorage.delete
  saveCounter := MemoryClientStorage.saveCounter
  saveCounters := MemoryClientStorage.saveCounters
  loadCounter := MemoryClientStorage.loadCounter

def fileClientStorage : ClientStorageApi FileClientStorage where
  init := .missing
  load := FileClientStorage.load
  delete := FileClientStorage.delete
  saveCounter := FileClientStorage.saveCounter
  saveCounters := FileClientStorage.saveCounters
  loadCounter := FileClientStorage.loadCounter

/-- Counters of two clients, and of two segments of one client, are kept apart, and what is deleted for the
first client leaves the second as it was. -/
structure ClientStorageApi.Separates {σ : Type} (api : ClientStorageApi σ) (a b : JsString) : Prop where
  saveCounter : ∀ s s' segmentId other counter, (a, segmentId) ≠ (b, other) →
    api.saveCounter s a segmentId counter = .ok s' → api.loadCounter s' b other = api.loadCounter s b other
  saveCounters : ∀ s s' counters other, (∀ e ∈ counters.entries, (a, e.1) ≠ (b, other)) →
    api.saveCounters s a counters = .ok s' → api.loadCounter s' b other = api.loadCounter s b other
  deleteCounters : ∀ s s' other, a ≠ b → api.delete s a = .ok s' →
    api.loadCounter s' b other = api.loadCounter s b other
  deletePayload : ∀ s s', a ≠ b → api.delete s a = .ok s' → api.load s' b = api.load s b

/-- A storage acts on one record of payloads and one of counters. -/
structure ClientStorageApi.Views {σ : Type} (api : ClientStorageApi σ) (view : σ → ClientFileData → Prop) : Prop where
  init : view api.init {}
  load : ∀ s s' data data' clientId, view s data → view s' data' →
    data.payloads.get? clientId = data'.payloads.get? clientId → api.load s clientId = api.load s' clientId
  loadCounter : ∀ s s' data data' clientId segmentId, view s data → view s' data' →
    data.counters.get? (counterKey clientId segmentId) = data'.counters.get? (counterKey clientId segmentId) →
    api.loadCounter s clientId segmentId = api.loadCounter s' clientId segmentId
  loadZero : ∀ s data clientId segmentId, view s data →
    (data.counters.get? (counterKey clientId segmentId) = some 0 →
      api.loadCounter s clientId segmentId = .ok (some 0)) ∧
    (data.counters.get? (counterKey clientId segmentId) = none → api.loadCounter s clientId segmentId = .ok none)
  delete : ∀ s s' clientId, api.delete s clientId = .ok s' → ∃ data, view s data ∧
    view s' { payloads := data.payloads.erase clientId, counters := dropCounters data.counters clientId }
  saveCounter : ∀ s s' clientId segmentId counter, api.saveCounter s clientId segmentId counter = .ok s' →
    ∃ data, view s data ∧
      view s' { data with counters := data.counters.set (counterKey clientId segmentId) counter }
  saveCounters : ∀ s s' clientId counters, api.saveCounters s clientId counters = .ok s' →
    ∃ data, view s data ∧ view s' { data with counters := data.counters.insertAll (counterEntries clientId counters) }
  saves : ∀ clientId segmentId, ∃ s', api.saveCounter api.init clientId segmentId 0 = .ok s'

section Keys

variable {a b segmentId other : JsString}

theorem counterPrefix_prefix_counterKey (a segmentId : JsString) : counterPrefix a <+: counterKey a segmentId :=
  List.prefix_append _ _

/-- A key that begins with the prefix of a client is one of its own, unless one client's id begins with the
other's prefix. -/
theorem eq_of_prefix_counterPrefix (hab : ¬ counterPrefix a <+: b) (hba : ¬ counterPrefix b <+: a)
    (h : counterPrefix a <+: counterKey b segmentId) : a = b := by
  rcases List.prefix_or_prefix_of_prefix h (counterPrefix_prefix_counterKey b segmentId) with hpre | hpre
  · rcases List.prefix_concat_iff.mp hpre with heq | hpre
    · exact List.append_cancel_right heq
    · exact (hab hpre).elim
  · rcases List.prefix_concat_iff.mp hpre with heq | hpre
    · exact (List.append_cancel_right heq).symm
    · exact (hba hpre).elim

theorem counterKey_inj (hab : ¬ counterPrefix a <+: b) (hba : ¬ counterPrefix b <+: a)
    (h : counterKey a segmentId = counterKey b other) : (a, segmentId) = (b, other) := by
  obtain rfl := eq_of_prefix_counterPrefix hab hba (h ▸ counterPrefix_prefix_counterKey a segmentId)
  rw [List.append_cancel_left h]

theorem get?_insertAll_of_not_mem {counters : OrderedMap JsString Int} {entries : List (JsString × Int)}
    {key : JsString} (h : ∀ e ∈ entries, e.1 ≠ key) : (counters.insertAll entries).get? key = counters.get? key := by
  induction entries generalizing counters with
  | nil => rfl
  | cons e entries ih =>
    rw [OrderedMap.insertAll, ih fun e he => h e (List.mem_cons_of_mem _ he),
      OrderedMap.get?_set_ne _ _ (h e List.mem_cons_self)]

theorem get?_dropCounters (counters : OrderedMap JsString Int) (clientId key : JsString)
    (h : ¬ counterPrefix clientId <+: key) : (dropCounters counters clientId).get? key = counters.get? key := by
  have hkept : (!(counterPrefix clientId).isPrefixOf key) = true := by
    rw [Bool.not_eq_true', ← Bool.not_eq_true, List.isPrefixOf_iff_prefix]
    exact h
  apply Option.ext
  intro counter
  rw [dropCounters, OrderedMap.get?_filter]
  exact ⟨And.left, fun hget => ⟨hget, hkept⟩⟩

end Keys

/-- A storage separates two clients exactly when neither id begins with the other and a colon. -/
theorem ClientStorageApi.Views.separates_iff {σ : Type} {api : ClientStorageApi σ} {view : σ → ClientFileData → Prop}
    (h : api.Views view) (a b : JsString) :
    api.Separates a b ↔ ¬ counterPrefix a <+: b ∧ ¬ counterPrefix b <+: a := by
  -- two pairs of distinct clients under one key
  have hshared (segmentId other : JsString) (hne : a ≠ b) (hkey : counterKey a segmentId = counterKey b other) :
      ¬ api.Separates a b := by
    intro hseparates
    obtain ⟨s', hs'⟩ := h.saves a segmentId
    obtain ⟨data, -, hview'⟩ := h.saveCounter _ _ _ _ _ hs'
    have hsame := hseparates.saveCounter _ _ segmentId other 0 (fun heq => hne (congrArg Prod.fst heq)) hs'
    rw [(h.loadZero _ _ b other hview').1 (by rw [← hkey]; exact OrderedMap.get?_set_self _ _ _),
      (h.loadZero _ _ b other h.init).2 rfl] at hsame
    cases hsame
  constructor
  · intro hseparates
    constructor
    · rintro ⟨rest, hrest⟩
      refine hshared (rest ++ JsString.lit ":") [] ?_ ?_ hseparates
      · rintro rfl
        exact absurd (congrArg List.length hrest) (by simp [counterPrefix, JsString.lit])
      · rw [counterKey, counterKey, List.append_nil, ← List.append_assoc, hrest, counterPrefix]
    · rintro ⟨rest, hrest⟩
      refine hshared [] (rest ++ JsString.lit ":") ?_ ?_ hseparates
      · rintro rfl
        exact absurd (congrArg List.length hrest) (by simp [counterPrefix, JsString.lit])
      · rw [counterKey, counterKey, List.append_nil, ← List.append_assoc, hrest, counterPrefix]
  · rintro ⟨hab, hba⟩
    refine ⟨fun s s' segmentId other counter hne hs' => ?_, fun s s' counters other hne hs' => ?_,
      fun s s' other hne hs' => ?_, fun s s' hne hs' => ?_⟩
    · obtain ⟨data, hview, hview'⟩ := h.saveCounter _ _ _ _ _ hs'
      refine h.loadCounter _ _ _ _ _ _ hview' hview (OrderedMap.get?_set_ne _ _ fun hkey => ?_)
      exact hne (counterKey_inj hab hba hkey)
    · obtain ⟨data, hview, hview'⟩ := h.saveCounters _ _ _ _ hs'
      refine h.loadCounter _ _ _ _ _ _ hview' hview (get?_insertAll_of_not_mem fun e he hkey => ?_)
      obtain ⟨counter, hcounter, rfl⟩ := List.mem_map.mp he
      exact hne counter hcounter (counterKey_inj hab hba hkey)
    · obtain ⟨data, hview, hview'⟩ := h.delete _ _ _ hs'
      refine h.loadCounter _ _ _ _ _ _ hview' hview (get?_dropCounters _ _ _ fun hpre => ?_)
      exact hne (eq_of_prefix_counterPrefix hab hba hpre)
    · obtain ⟨data, hview, hview'⟩ := h.delete _ _ _ hs'
      exact h.load _ _ _ _ _ hview' hview (OrderedMap.get?_erase_ne _ hne)

theorem views_memoryClientStorage : memoryClientStorage.Views fun s data =>
    data = { payloads := s.store, counters := s.counters } where
  init := rfl
  load := by
    rintro s s' _ _ clientId rfl rfl h
    simp only [memoryClientStorage, MemoryClientStorage.load] at h ⊢
    rw [h]
  loadCounter := by
    rintro s s' _ _ clientId segmentId rfl rfl h
    simp only [memoryClientStorage, MemoryClientStorage.loadCounter] at h ⊢
    rw [h]
  loadZero := by
    rintro s _ clientId segmentId rfl
    refine ⟨fun h => ?_, fun h => ?_⟩
    · simp only [memoryClientStorage, MemoryClientStorage.loadCounter, h]
      rfl
    · simp only [memoryClientStorage, MemoryClientStorage.loadCounter, h]
  delete := by
    rintro s _ clientId ⟨⟩
    exact ⟨_, rfl, rfl⟩
  saveCounter := by
    intro s s' clientId segmentId counter h
    obtain ⟨_, -, hs'⟩ := bind_eq_ok.mp h
    obtain rfl := Except.ok.inj hs'
    exact ⟨_, rfl, rfl⟩
  saveCounters := by
    intro s s' clientId counters h
    obtain ⟨_, -, hs'⟩ := bind_eq_ok.mp h
    obtain rfl := Except.ok.inj hs'
    exact ⟨_, rfl, rfl⟩
  saves _ _ := ⟨_, rfl⟩

/-- What the file is checked for whenever it is read. -/
structure ClientFileData.Valid (data : ClientFileData) : Prop where
  payloads : ∀ e ∈ data.payloads.entries, assertValidPayload e.2 = .ok ()
  counters : ∀ e ∈ data.counters.entries, isValidHOTPStoredCounter e.2 = true

theorem assertValidCounter_eq_ok {segmentId : JsString} {counter : Int} {u : Unit} :
    assertValidCounter segmentId counter = .ok u ↔ isValidHOTPStoredCounter counter = true := by
  rw [assertValidCounter, mapError_eq_ok, assertValidHOTPStoredCounter]
  split_ifs with h
  · exact ⟨fun _ => h, fun _ => rfl⟩
  · refine ⟨fun hthrow => ?_, fun hvalid => (h hvalid).elim⟩
    cases hthrow

theorem assertValidCounterVector_valid {entries : List (JsString × Int)} {u : Unit}
    (h : assertValidCounterVector entries = .ok u) : ∀ e ∈ entries, isValidHOTPStoredCounter e.2 = true := by
  induction entries with
  | nil => exact fun _ he => (List.not_mem_nil he).elim
  | cons e entries ih =>
    obtain ⟨_, hcounter, hrest⟩ := bind_eq_ok.mp h
    exact List.forall_mem_cons.mpr ⟨assertValidCounter_eq_ok.mp hcounter, ih hrest⟩

/-- One counter that is out of range refuses the vector. -/
example : assertValidCounterVector [(JsString.lit "a", 7)] = .ok () ∧
    assertValidCounterVector [(JsString.lit "a", 7), (JsString.lit "b", -1)] ≠ .ok () := by decide +kernel

theorem checked_eq_ok {data data' : ClientFileData} :
    FileClientStorage.checked data = .ok data' ↔ data' = data ∧ data.Valid := by
  simp only [FileClientStorage.checked, bind_eq_ok, mapError_eq_ok, forM_eq_ok, assertValidCounter_eq_ok,
    exists_const, pure_eq_ok, Except.ok.injEq]
  constructor
  · rintro ⟨_, hpayloads, hcounters, rfl⟩
    exact ⟨rfl, hpayloads, hcounters⟩
  · rintro ⟨rfl, hpayloads, hcounters⟩
    exact ⟨(), hpayloads, hcounters, rfl⟩

theorem readData_valid {s : FileClientStorage} {data : ClientFileData} (h : s.readData = .ok data) : data.Valid := by
  cases s with
  | missing =>
    obtain rfl := Except.ok.inj h
    exact ⟨fun _ he => (List.not_mem_nil he).elim, fun _ he => (List.not_mem_nil he).elim⟩
  | corrupt => cases h
  | payloadOnly payloads =>
    obtain ⟨rfl, hvalid⟩ := checked_eq_ok.mp h
    exact hvalid
  | versioned data =>
    obtain ⟨rfl, hvalid⟩ := checked_eq_ok.mp h
    exact hvalid

/-- A change that leaves the file valid is read back. -/
theorem mutate_eq_ok {s s' : FileClientStorage} {change : ClientFileData → ClientFileData}
    (hchange : ∀ data, data.Valid → (change data).Valid) (h : s.mutate change = .ok s') :
    ∃ data, s.readData = .ok data ∧ s'.readData = .ok (change data) := by
  obtain ⟨data, hdata, hs'⟩ := bind_eq_ok.mp h
  obtain rfl := Except.ok.inj hs'
  exact ⟨data, hdata, checked_eq_ok.mpr ⟨rfl, hchange data (readData_valid hdata)⟩⟩

theorem views_fileClientStorage : fileClientStorage.Views fun s data => s.readData = .ok data where
  init := rfl
  load := by
    intro s s' data data' clientId hdata hdata' h
    simp only [fileClientStorage, FileClientStorage.load, hdata, hdata', bind_ok, readProperty, h]
  loadCounter := by
    intro s s' data data' clientId segmentId hdata hdata' h
    simp only [fileClientStorage, FileClientStorage.loadCounter, hdata, hdata', bind_ok, h]
  loadZero := by
    intro s data clientId segmentId hdata
    refine ⟨fun h => ?_, fun h => ?_⟩ <;>
      simp only [fileClientStorage, FileClientStorage.loadCounter, hdata, bind_ok, h, pure_eq_ok]
  delete := by
    intro s s' clientId h
    refine mutate_eq_ok (fun data hvalid => ⟨fun e he => ?_, fun e he => ?_⟩) h
    · exact hvalid.payloads e ((OrderedMap.dropIn_sublist _ _).subset he)
    · exact hvalid.counters e (List.mem_of_mem_filter he)
  saveCounter := by
    intro s s' clientId segmentId counter h
    obtain ⟨_, hcounter, h⟩ := bind_eq_ok.mp h
    refine mutate_eq_ok (fun data hvalid => ⟨hvalid.payloads, fun e he => ?_⟩) h
    rcases OrderedMap.mem_entries_set he with rfl | he
    · exact assertValidCounter_eq_ok.mp hcounter
    · exact hvalid.counters e he
  saveCounters := by
    intro s s' clientId counters h
    obtain ⟨_, hcounters, h⟩ := bind_eq_ok.mp h
    refine mutate_eq_ok (fun data hvalid => ⟨hvalid.payloads, fun e he => ?_⟩) h
    rcases OrderedMap.mem_entries_insertAll he with he | he
    · exact hvalid.counters e he
    · obtain ⟨counter, hcounter, rfl⟩ := List.mem_map.mp he
      exact assertValidCounterVector_valid hcounters counter hcounter
  saves _ _ := ⟨_, rfl⟩

/-- Both storages separate two clients exactly when neither id begins with the other and a colon. -/
theorem clientStorages_separate_iff (a b : JsString) :
    (memoryClientStorage.Separates a b ↔ ¬ counterPrefix a <+: b ∧ ¬ counterPrefix b <+: a) ∧
      (fileClientStorage.Separates a b ↔ ¬ counterPrefix a <+: b ∧ ¬ counterPrefix b <+: a) :=
  ⟨views_memoryClientStorage.separates_iff a b, views_fileClientStorage.separates_iff a b⟩

/-- What is saved for one client is found, and deleted, by another. -/
theorem clientStorages_alias :
    ¬ ∀ a b, memoryClientStorage.Separates a b ∧ fileClientStorage.Separates a b := by
  intro h
  have hmemory := (h (JsString.lit "a") (JsString.lit "a:b")).1.saveCounter {} _ (JsString.lit "b:c")
    (JsString.lit "c") 7 (by decide) rfl
  exact absurd hmemory (by decide)

end TskProtocol
