import TskProtocol.Lib.Machine
import TskProtocol.Server.FileStoreLaws

namespace TskProtocol

/-- A call of the `TumblerMapStore` interface. -/
inductive StoreCall
  | mutate (mutation : StoreMutation)
  | get (clientId : JsString)
  | list

inductive StoreAnswer
  | mutated (result : MutationResult)
  | found (map : Option TumblerMap)
  | ids (clientIds : List JsString)
  deriving DecidableEq, Repr

def MemoryTumblerStore.call (store : MemoryTumblerStore) (now : Int) :
    StoreCall → Except StoreError StoreAnswer × MemoryTumblerStore
  | .mutate mutation =>
    let (outcome, stored) := mutation.perform store
    (outcome.map .mutated, stored)
  | .get clientId =>
    let (found, stored) := store.get clientId now
    (.ok (.found found), stored)
  | .list => (.ok (.ids store.list), store)

def FileTumblerStore.mutate (store : FileTumblerStore) (now : Int) :
    StoreMutation → Except FileStoreError MutationResult × FileTumblerStore
  | .set clientId map =>
    let (outcome, stored) := store.set clientId map now
    (outcome.map (fun _ => .done), stored)
  | .delete clientId =>
    let (outcome, stored) := store.delete clientId
    (outcome.map (fun _ => .done), stored)
  | .updateCounters clientId updates =>
    let (outcome, stored) := store.updateCounters clientId updates now
    (outcome.map (fun _ => .done), stored)
  | .consumeCounter clientId segmentId matchedCounter =>
    let (outcome, stored) := store.consumeCounter clientId segmentId matchedCounter now
    (outcome.map .answer, stored)
  | .commitValidation clientId input =>
    let (outcome, stored) := store.commitValidation clientId input now
    (outcome.map .committed, stored)
  | .replaceCredential oldClientId replacement =>
    let (outcome, stored) := store.replaceCredential oldClientId replacement now
    (outcome.map .answer, stored)

def FileTumblerStore.call (store : FileTumblerStore) (now : Int) :
    StoreCall → Except FileStoreError StoreAnswer × FileTumblerStore
  | .mutate mutation =>
    let (outcome, stored) := store.mutate now mutation
    (outcome.map .mutated, stored)
  | .get clientId =>
    let (outcome, stored) := store.get clientId now
    (outcome.map .found, stored)
  | .list =>
    let (outcome, stored) := store.list now
    (outcome.map .ids, stored)

/-- The two stores, side by side. -/
structure StorePair where
  file : FileTumblerStore
  memory : MemoryTumblerStore

def StorePair.start (maxEntries : Nat) (maxAgeMs : Int) : StorePair where
  file := { maxEntries, maxAgeMs }
  memory := { maps := ∅, maxEntries, maxAgeMs }

/-- Both stores get the same calls, at the same readings of the clock. -/
def storePairs : Machine StorePair (StoreCall × Int) where
  step s l := some { file := (s.file.call l.2 l.1).2, memory := (s.memory.call l.2 l.1).2 }

namespace StorePair

/-- A client whose map, if there is one, has not outlived its age. -/
def NotAged (s : StorePair) (now : Int) (clientId : JsString) : Prop :=
  ∀ map, s.file.data.maps.get? clientId = some map → s.file.expired now map = false

/-- The calls on which the stores are meant to agree.  A map is one that both accept under its
own id, no call but `get`, `set` and `delete` is about a map that has outlived its age, and
`updateCounters` is about a map that is there. -/
def Comparable (s : StorePair) (now : Int) : StoreCall → Prop
  | .get clientId | .mutate (.delete clientId) => validClientId clientId = true
  | .list => True
  | .mutate (.set clientId map) =>
    clientId = map.clientId ∧ validateStoredMap clientId map = .ok () ∧ natural now = true
  | .mutate (.updateCounters clientId _) => validClientId clientId = true ∧
    s.NotAged now clientId ∧ s.file.data.maps.has clientId = true
  | .mutate (.consumeCounter clientId _ _) => validClientId clientId = true ∧ s.NotAged now clientId
  | .mutate (.commitValidation clientId input) => validClientId clientId = true ∧
    s.NotAged now clientId ∧ natural input.usedAt = true ∧
      ∀ map, s.file.data.maps.get? clientId = some map → natural (map.currentCount + 1) = true
  | .mutate (.replaceCredential oldClientId replacement) => validClientId oldClientId = true ∧
    s.NotAged now oldClientId ∧ validateStoredMap replacement.clientId replacement = .ok () ∧
      natural now = true

/-- The ids that the file store lists are those of the memory store with a live map. -/
def SameAnswer (s : StorePair) (now : Int) :
    Except FileStoreError StoreAnswer → Except StoreError StoreAnswer → Prop
  | .ok (.ids listed), .ok (.ids known) => ∀ id, id ∈ listed ↔ id ∈ known ∧ s.NotAged now id
  | .ok a, .ok b => a = b
  | .error _, .error _ => True
  | _, _ => False

/-- Both stores hold the same maps. -/
structure SameMaps (s : StorePair) : Prop where
  maps : s.file.data.maps = s.memory.maps
  maxEntries : s.file.maxEntries = s.memory.maxEntries
  maxAgeMs : s.file.maxAgeMs = s.memory.maxAgeMs
  valid : ValidData s.file.data
  bounded : s.file.data.maps.size ≤ s.file.maxEntries

end StorePair

/-- An outcome of a call at both stores. -/
inductive SameOutcome (s : StorePair) {ε α : Type} :
    Except FileStoreError α × FileTumblerStore → Except ε α × MemoryTumblerStore → Prop
  | returns (a : α) (data : FileTumblerData) : ValidData data → data.maps.size ≤ s.file.maxEntries →
      SameOutcome s (.ok a, { s.file with data := data }) (.ok a, { s.memory with maps := data.maps })
  | throws (e : FileStoreError) (e' : ε) :
      SameOutcome s (.error e, s.file) (.error e', s.memory)

/-- The outcome of a call, read as one of the interface. -/
theorem SameOutcome.map {s : StorePair} {ε α β : Type} {x : Except FileStoreError α × FileTumblerStore}
    {y : Except ε α × MemoryTumblerStore} (h : SameOutcome s x y) (f : α → β) :
    SameOutcome s (x.1.map f, x.2) (y.1.map f, y.2) := by
  cases h with
  | returns a data hvalid hbounded => exact .returns (f a) data hvalid hbounded
  | throws e e' => exact .throws e e'

theorem SameOutcome.mapError {s : StorePair} {ε ε' α : Type}
    {x : Except FileStoreError α × FileTumblerStore} {y : Except ε α × MemoryTumblerStore}
    (h : SameOutcome s x y) (g : ε → ε') : SameOutcome s x (y.1.mapError g, y.2) := by
  cases h with
  | returns a data hvalid hbounded => exact .returns a data hvalid hbounded
  | throws e e' => exact .throws e (g e')

variable {s : StorePair} {now : Int} {clientId : JsString} {map : TumblerMap}

theorem accepted_of_validateStoredMap (h : validateStoredMap clientId map = .ok ()) :
    validClientId clientId = true ∧ assertTumblerMapCounterState map = .ok () := by
  simp only [validateStoredMap, bind_eq_ok, require_eq_ok] at h
  obtain ⟨_, ⟨hid, -⟩, _, hstate, -⟩ := h
  refine ⟨hid, ?_⟩
  cases hassert : assertTumblerMapCounterState map with
  | error e =>
    rw [hassert] at hstate
    cases hstate
  | ok => rfl

theorem MemoryTumblerStore.set_of_room (hstate : assertTumblerMapCounterState map = .ok ()) {store : MemoryTumblerStore}
    (hroom : store.maps.has clientId = true ∨ store.maps.size < store.maxEntries) :
    store.set clientId map = (.ok (), { store with maps := store.maps.set clientId map }) := by
  have hfull : ¬ (store.maps.has clientId = false ∧ store.maxEntries ≤ store.maps.size) := by
    rintro ⟨hhas, hfull⟩
    rcases hroom with hhas' | hlt
    · rw [hhas] at hhas'
      cases hhas'
    · omega
  rw [MemoryTumblerStore.set, if_neg hfull, hstate]

theorem requireClientId_ok (hid : validClientId clientId = true) :
    FileTumblerStore.requireClientId clientId = .ok () := require_pos hid

theorem validateLifecycle_of_validateStoredMap (h : validateStoredMap clientId map = .ok ()) :
    map.requestCount.all (fun n => natural n) = true ∧
      map.lastUsedAt.all (fun t => t.all natural) = true := by
  simp only [validateStoredMap, validateLifecycle, bind_eq_ok, require_eq_ok] at h
  obtain ⟨_, -, _, -, _, -, _, -, _, ⟨-, hcount, -⟩, hlast⟩ := h
  exact ⟨hcount, hlast⟩

/-- A map stays valid when its count and its last use stay as they are. -/
theorem validateStoredMap_kept (hvalid : validateStoredMap clientId map = .ok ()) {map' : TumblerMap}
    (hrw : Rewritten map map') (hstate : CounterState map')
    (hcount : map'.requestCount = map.requestCount) (hlast : map'.lastUsedAt = map.lastUsedAt) :
    validateStoredMap clientId map' = .ok () := by
  obtain ⟨hcounts, hlasts⟩ := validateLifecycle_of_validateStoredMap hvalid
  exact validateStoredMap_rewritten hrw hstate (by rwa [hcount]) (by rwa [hlast]) hvalid

/-- Stated for any predicate, since unfolding the bound of `natural` here is out of reach. -/
theorem all_of_succ (P : Int → Bool) {n : Nat} (h : P (n + 1) = true) :
    ((some (n + 1) : Option Nat) : Option Int).all P = true := h

/-- A map stays valid when a use is counted. -/
theorem validateStoredMap_used (hvalid : validateStoredMap clientId map = .ok ()) {map' : TumblerMap} {usedAt : Int}
    (hrw : Rewritten map map') (hstate : CounterState map')
    (hcount : map'.requestCount = map.requestCount ∨ map'.requestCount = some (map.currentCount + 1))
    (hlast : map'.lastUsedAt = map.lastUsedAt ∨ map'.lastUsedAt = some (some usedAt))
    (hcounts : natural (map.currentCount + 1) = true) (husedAt : natural usedAt = true) :
    validateStoredMap clientId map' = .ok () := by
  obtain ⟨hkeptCount, hkeptLast⟩ := validateLifecycle_of_validateStoredMap hvalid
  refine validateStoredMap_rewritten hrw hstate ?_ ?_ hvalid
  · rcases hcount with hkept | hnext
    · rwa [hkept]
    · rw [hnext]
      exact all_of_succ natural hcounts
  · rcases hlast with hkept | hnext
    · rwa [hkept]
    · rw [hnext]
      simpa using husedAt

namespace StorePair.SameMaps

variable (h : s.SameMaps)

include h

theorem transaction_ok {α : Type} {checks : Except FileStoreError Unit} (hchecks : checks = .ok ())
    {operation : FileTumblerData → Except FileStoreError (α × FileTumblerData)} {a : α}
    {data : FileTumblerData} (hoperation : operation s.file.data = .ok (a, data)) :
    s.file.transaction checks operation = (.ok a, { s.file with data := data }) := by
  have hvalid : validateFileData s.file.data = .ok () := validateFileData_eq_ok.mpr h.valid
  simp only [FileTumblerStore.transaction, hchecks, hvalid, hoperation]

theorem transaction_error {α : Type} {checks : Except FileStoreError Unit} (hchecks : checks = .ok ())
    {operation : FileTumblerData → Except FileStoreError (α × FileTumblerData)} {e : FileStoreError}
    (hoperation : operation s.file.data = .error e) :
    s.file.transaction checks operation = (.error e, s.file) := by
  have hvalid : validateFileData s.file.data = .ok () := validateFileData_eq_ok.mpr h.valid
  simp only [FileTumblerStore.transaction, hchecks, hvalid, hoperation]

/-- A call that both stores answer without a change. -/
theorem unchanged {ε α : Type} (a : α) :
    SameOutcome s (.ok a, s.file) ((.ok a : Except ε α), s.memory) := by
  have houtcome : SameOutcome s (.ok a, s.file) ((.ok a : Except ε α), _) :=
    .returns a s.file.data h.valid h.bounded
  rw [h.maps] at houtcome
  exact houtcome

theorem set (hmap : validateStoredMap clientId map = .ok ()) (hnow : natural now = true) :
    SameOutcome s (s.file.set clientId map now) (s.memory.set clientId map) := by
  have hvalid := h.valid.insert hmap hnow
  obtain ⟨hid, hstate⟩ := accepted_of_validateStoredMap hmap
  have hchecks : (do FileTumblerStore.requireClientId clientId
                     (assertTumblerMapCounterState map).mapError FileStoreError.store) = .ok () := by
    simp [FileTumblerStore.requireClientId, require, hid, hstate, Except.mapError]
  by_cases hroom : s.file.data.maps.has clientId = true ∨ s.file.data.maps.size < s.file.maxEntries
  · have hfile : s.file.set clientId map now = (.ok (),
        { s.file with data := (s.file.data.put clientId map).touch clientId now }) :=
      h.transaction_ok hchecks (by
        simp only [require_pos hroom, flush_ok hvalid, bind_ok, pure_eq_ok])
    rw [hfile, MemoryTumblerStore.set_of_room hstate (by rwa [← h.maps, ← h.maxEntries]), ← h.maps]
    refine .returns () _ hvalid ?_
    rw [FileTumblerData.touch, FileTumblerData.put, OrderedMap.size_set]
    split
    · exact h.bounded
    · next hhas =>
      rcases hroom with hhas' | hlt
      · exact absurd hhas' hhas
      · exact hlt
  · have hfile : s.file.set clientId map now = (.error .capacityReached, s.file) :=
      h.transaction_error hchecks (by simp only [require_neg hroom, bind_error])
    have hmemory : s.memory.set clientId map = (.error .capacityReached, s.memory) := by
      rw [MemoryTumblerStore.set, ← h.maps, ← h.maxEntries, if_pos (by simpa using hroom)]
    rw [hfile, hmemory]
    exact .throws _ _

/-- Both stores take the client out. -/
theorem drop {ε α : Type} (a : α) (clientId : JsString) :
    SameOutcome s (.ok a, { s.file with data := s.file.data.drop clientId })
      ((.ok a : Except ε α), { s.memory with maps := s.memory.maps.erase clientId }) := by
  rw [← h.maps]
  exact .returns a _ (h.valid.drop clientId)
    (Nat.le_trans (OrderedMap.size_erase_le _ _) h.bounded)

theorem delete (hid : validClientId clientId = true) :
    SameOutcome s (s.file.delete clientId)
      ((.ok () : Except StoreError Unit), s.memory.delete clientId) := by
  have hfile : s.file.delete clientId =
      (.ok (), { s.file with data := s.file.data.drop clientId }) :=
    h.transaction_ok (requireClientId_ok hid) (by
      simp only [flush_ok (h.valid.drop clientId), bind_ok, pure_eq_ok])
  rw [hfile]
  exact h.drop () clientId

theorem get (hid : validClientId clientId = true) :
    SameOutcome s (s.file.get clientId now)
      ((.ok (s.memory.get clientId now).1 : Except StoreError _), (s.memory.get clientId now).2) := by
  cases hget : s.file.data.maps.get? clientId with
  | none =>
    have hfile : s.file.get clientId now = (.ok none, s.file) :=
      h.transaction_ok (requireClientId_ok hid) (by simp only [hget])
    rw [hfile, MemoryTumblerStore.get, ← h.maps, hget]
    exact h.unchanged none
  | some map =>
    by_cases haged : s.file.expired now map = true
    · have hfile : s.file.get clientId now =
          (.ok none, { s.file with data := s.file.data.drop clientId }) :=
        h.transaction_ok (requireClientId_ok hid) (by
          simp only [hget, if_pos haged, flush_ok (h.valid.drop clientId), bind_ok, pure_eq_ok])
      have haged' : 0 < s.memory.maxAgeMs ∧ now - map.createdAt > s.memory.maxAgeMs := by
        rw [← h.maxAgeMs]
        simpa [FileTumblerStore.expired] using haged
      rw [hfile, MemoryTumblerStore.get, ← h.maps, hget]
      simp only [if_pos haged']
      rw [h.maps]
      exact h.drop none clientId
    · have hfile : s.file.get clientId now = (.ok (some map), s.file) :=
        h.transaction_ok (requireClientId_ok hid) (by simp only [hget, if_neg haged])
      have haged' : ¬ (0 < s.memory.maxAgeMs ∧ now - map.createdAt > s.memory.maxAgeMs) := by
        rw [← h.maxAgeMs]
        simpa [FileTumblerStore.expired] using haged
      rw [hfile, MemoryTumblerStore.get, ← h.maps, hget]
      simp only [if_neg haged']
      exact h.unchanged (some map)

/-- Both stores write over a map that is there. -/
theorem wrote {ε α : Type} (a : α) {map' : TumblerMap}
    (hget : s.file.data.maps.get? clientId = some map) (hmap : validateStoredMap clientId map' = .ok ()) :
    flush (s.file.data.put clientId map') = .ok (s.file.data.put clientId map') ∧
    SameOutcome s (.ok a, { s.file with data := s.file.data.put clientId map' })
      ((.ok a : Except ε α), { s.memory with maps := s.memory.maps.set clientId map' }) := by
  have hhas := OrderedMap.has_iff.mpr ⟨map, hget⟩
  have hvalid := h.valid.put hhas hmap
  refine ⟨flush_ok hvalid, ?_⟩
  rw [← h.maps]
  refine .returns a _ hvalid ?_
  rw [FileTumblerData.put, OrderedMap.size_set, if_pos hhas]
  exact h.bounded

theorem updateCounters (hid : validClientId clientId = true) (haged : s.NotAged now clientId)
    (hhas : s.file.data.maps.has clientId = true) (updates : OrderedMap JsString Int) :
    SameOutcome s (s.file.updateCounters clientId updates now)
      (s.memory.updateCounters clientId updates) := by
  obtain ⟨map, hget⟩ := OrderedMap.has_iff.mp hhas
  have hlive : ¬ s.file.expired now map = true := by simp [haged map hget]
  have hget' : s.memory.maps.get? clientId = some map := by rw [← h.maps, hget]
  have hmap := (h.valid.maps clientId map hget).1
  cases hcheck : MemoryTumblerStore.checkUpdates map.segments updates.entries with
  | error e =>
    have hupdate : MemoryTumblerStore.updateMap updates map = (.error e, map) := by
      simp only [MemoryTumblerStore.updateMap, hcheck]
    have hfile : s.file.updateCounters clientId updates now = (.error (.store e), s.file) :=
      h.transaction_error (requireClientId_ok hid) (by
        simp only [hget, orThrow, bind_ok, require_pos hlive, hupdate, Except.mapError, bind_error])
    rw [hfile]
    simp only [MemoryTumblerStore.updateCounters, hget', hcheck]
    exact .throws _ _
  | ok =>
    obtain ⟨map', hrec, hrw, hstate, hcount, hlast⟩ :=
      reconcileMap_rewritten (h.valid.state hget)
        (forall₂_map fun seg _ => counterWrite_updateSegment (checkUpdates_ok hcheck) seg)
    have hupdate : MemoryTumblerStore.updateMap updates map = (.ok (), map') := by
      simp only [MemoryTumblerStore.updateMap, hcheck, hrec]
    obtain ⟨hflush, hwrote⟩ := h.wrote () hget
      (validateStoredMap_kept hmap hrw hstate hcount hlast)
    have hfile : s.file.updateCounters clientId updates now =
        (.ok (), { s.file with data := s.file.data.put clientId map' }) :=
      h.transaction_ok (requireClientId_ok hid) (by
        simp only [hget, orThrow, bind_ok, require_pos hlive, hupdate, Except.mapError, hflush,
          pure_eq_ok])
    rw [hfile]
    simp only [MemoryTumblerStore.updateCounters, hget', hcheck, hrec]
    exact hwrote

theorem consumeCounter (hid : validClientId clientId = true) (haged : s.NotAged now clientId)
    (segmentId : JsString) (matchedCounter : Int) :
    SameOutcome s (s.file.consumeCounter clientId segmentId matchedCounter now)
      (s.memory.consumeCounter clientId segmentId matchedCounter) := by
  have hchecks := requireClientId_ok hid
  cases hget : s.file.data.maps.get? clientId with
  | none =>
    have hfile : s.file.consumeCounter clientId segmentId matchedCounter now = (.ok false, s.file) :=
      h.transaction_ok hchecks (by simp only [hget])
    rw [hfile]
    simp only [MemoryTumblerStore.consumeCounter, ← h.maps, hget]
    exact h.unchanged false
  | some map =>
  have hlive : ¬ s.file.expired now map = true := by simp [haged map hget]
  have hmap := (h.valid.maps clientId map hget).1
  have hget' : s.memory.maps.get? clientId = some map := by rw [← h.maps, hget]
  cases hfind : map.segments.find? (fun seg => seg.segmentId = segmentId) with
  | none =>
    have hfile : s.file.consumeCounter clientId segmentId matchedCounter now = (.ok false, s.file) :=
      h.transaction_ok hchecks (by simp only [hget, if_neg hlive, hfind])
    rw [hfile]
    simp only [MemoryTumblerStore.consumeCounter, hget', hfind]
    exact h.unchanged false
  | some seg =>
  by_cases htype : seg.type ≠ .hotp
  · have hfile : s.file.consumeCounter clientId segmentId matchedCounter now = (.ok false, s.file) :=
      h.transaction_ok hchecks (by simp only [hget, if_neg hlive, hfind, if_pos htype])
    rw [hfile]
    simp only [MemoryTumblerStore.consumeCounter, hget', hfind, if_pos htype]
    exact h.unchanged false
  by_cases husable : isUsableHOTPDerivationCounter seg.storedCounter = false ∨
      isUsableHOTPDerivationCounter matchedCounter = false
  · -- the file store publishes here even when the map stays as it is
    set map' := if seg.storedCounter = TSK_MAX_HOTP_COUNTER then map.expire else map with hmap'
    have hvalid' : validateStoredMap clientId map' = .ok () := by
      rw [hmap']
      split
      · exact validateStoredMap_kept hmap (.ofStatus map _) ((h.valid.state hget).terminal rfl) rfl rfl
      · exact hmap
    obtain ⟨hflush, hwrote⟩ := h.wrote false hget hvalid'
    have hfile : s.file.consumeCounter clientId segmentId matchedCounter now =
        (.ok false, { s.file with data := s.file.data.put clientId map' }) :=
      h.transaction_ok hchecks (by
        simp only [hget, if_neg hlive, hfind, if_neg htype, if_pos husable, ← hmap', hflush, bind_ok,
          pure_eq_ok])
    have hmemory : s.memory.consumeCounter clientId segmentId matchedCounter =
        (.ok false, { s.memory with maps := s.memory.maps.set clientId map' }) := by
      simp only [MemoryTumblerStore.consumeCounter, hget', hfind, if_neg htype, if_pos husable, hmap']
      split
      · rfl
      · rw [OrderedMap.set_of_get? hget']
    rw [hfile, hmemory]
    exact hwrote
  by_cases hstored : seg.storedCounter > matchedCounter
  · have hfile : s.file.consumeCounter clientId segmentId matchedCounter now = (.ok false, s.file) :=
      h.transaction_ok hchecks (by
        simp only [hget, if_neg hlive, hfind, if_neg htype, if_neg husable, if_pos hstored])
    rw [hfile]
    simp only [MemoryTumblerStore.consumeCounter, hget', hfind, if_neg htype, if_neg husable,
      if_pos hstored]
    exact h.unchanged false
  · have hnext : isValidHOTPStoredCounter (matchedCounter + 1) = true := by
      simp only [not_or, Bool.not_eq_false] at husable
      obtain ⟨h0, hmax⟩ := isUsable_iff.mp husable.2
      exact isValid_iff.mpr ⟨by omega, by omega⟩
    obtain ⟨map', hrec, hrw, hstate, hcount, hlast⟩ := reconcileMap_rewritten (h.valid.state hget)
      (forall₂_setFirstCounter hnext hfind (not_not.mp htype))
    obtain ⟨hflush, hwrote⟩ := h.wrote true hget
      (validateStoredMap_kept hmap hrw hstate hcount hlast)
    have hfile : s.file.consumeCounter clientId segmentId matchedCounter now =
        (.ok true, { s.file with data := s.file.data.put clientId map' }) :=
      h.transaction_ok hchecks (by
        simp only [hget, if_neg hlive, hfind, if_neg htype, if_neg husable, if_neg hstored, hrec,
          Except.mapError, hflush, bind_ok, pure_eq_ok])
    rw [hfile]
    simp only [MemoryTumblerStore.consumeCounter, hget', hfind, if_neg htype, if_neg husable,
      if_neg hstored, hrec]
    exact hwrote

theorem commitValidation (hid : validClientId clientId = true) (haged : s.NotAged now clientId)
    {input : ValidationCommitInput} (husedAt : natural input.usedAt = true)
    (hcounts : ∀ map, s.file.data.maps.get? clientId = some map →
      natural (map.currentCount + 1) = true) :
    SameOutcome s (s.file.commitValidation clientId input now)
      (s.memory.commitValidation clientId input) := by
  have hchecks := requireClientId_ok hid
  cases hget : s.file.data.maps.get? clientId with
  | none =>
    have hfile : s.file.commitValidation clientId input now = (.ok (.fail .keyExpired), s.file) :=
      h.transaction_ok hchecks (by simp only [hget])
    rw [hfile]
    simp only [MemoryTumblerStore.commitValidation, ← h.maps, hget]
    exact h.unchanged _
  | some map =>
  have hlive : ¬ s.file.expired now map = true := by simp [haged map hget]
  have hmap := (h.valid.maps clientId map hget).1
  have hget' : s.memory.maps.get? clientId = some map := by rw [← h.maps, hget]
  obtain ⟨result, hresult, -⟩ := commitValidationToMap_spec map input
  obtain ⟨map', hwritten, hrw, hstate, hcount, hlast⟩ :=
    commitValidationToMap_rewritten input (h.valid.state hget)
  have hcommit : commitValidationToMap map input = (.ok result, map') := Prod.ext hresult hwritten
  obtain ⟨hflush, hwrote⟩ := h.wrote result hget
    (validateStoredMap_used hmap hrw hstate hcount hlast (hcounts map hget) husedAt)
  have hfile : s.file.commitValidation clientId input now =
      (.ok result, { s.file with data := s.file.data.put clientId map' }) :=
    h.transaction_ok hchecks (by
      simp only [hget, if_neg hlive, hcommit, Except.mapError, hflush, bind_ok, pure_eq_ok])
  rw [hfile]
  simp only [MemoryTumblerStore.commitValidation, hget', hcommit]
  exact hwrote

theorem replaceCredential (hid : validClientId clientId = true) (haged : s.NotAged now clientId)
    {replacement : TumblerMap} (hnow : natural now = true)
    (hreplacement : validateStoredMap replacement.clientId replacement = .ok ()) :
    SameOutcome s (s.file.replaceCredential clientId replacement now)
      (s.memory.replaceCredential clientId replacement) := by
  obtain ⟨hid', hstate⟩ := accepted_of_validateStoredMap hreplacement
  have hchecks : (do FileTumblerStore.requireClientId clientId
                     FileTumblerStore.requireClientId replacement.clientId
                     (assertTumblerMapCounterState replacement).mapError FileStoreError.store) =
      .ok () := by
    simp only [requireClientId_ok hid, requireClientId_ok hid', hstate, Except.mapError, bind_ok]
  cases hget : s.file.data.maps.get? clientId with
  | none =>
    have hfile : s.file.replaceCredential clientId replacement now = (.ok false, s.file) :=
      h.transaction_ok hchecks (by simp only [hget])
    rw [hfile]
    simp only [MemoryTumblerStore.replaceCredential, hstate, ← h.maps, hget]
    exact h.unchanged false
  | some current =>
  have hlive : s.file.expired now current = false := haged current hget
  have hget' : s.memory.maps.get? clientId = some current := by rw [← h.maps, hget]
  by_cases hterminal : isTerminal current.status = true
  · have hfile : s.file.replaceCredential clientId replacement now = (.ok false, s.file) :=
      h.transaction_ok hchecks (by simp only [hget, if_pos (Or.inr hterminal)])
    rw [hfile]
    simp only [MemoryTumblerStore.replaceCredential, hstate, hget', if_pos hterminal]
    exact h.unchanged false
  have hopen : ¬ (s.file.expired now current = true ∨ isTerminal current.status = true) := by
    simp [hlive, hterminal]
  have hknown' : s.memory.maps.has replacement.clientId = s.file.data.maps.has replacement.clientId := by
    rw [h.maps]
  by_cases hknown : s.file.data.maps.has replacement.clientId = true
  · have hfile : s.file.replaceCredential clientId replacement now = (.ok false, s.file) :=
      h.transaction_ok hchecks (by simp only [hget, if_neg hopen, if_pos hknown])
    rw [hfile]
    simp only [MemoryTumblerStore.replaceCredential, hstate, hget', if_neg hterminal,
      hknown', hknown, ↓reduceIte]
    exact h.unchanged false
  -- the old map is revoked, and leaves when the store is full
  have hhas := OrderedMap.has_iff.mpr ⟨current, hget⟩
  set revoked := s.file.data.put clientId { current with status := some .revoked } with hrevoked
  set bounded := if s.file.maxEntries ≤ revoked.maps.size then revoked.drop clientId
    else revoked.touch clientId now with hbounded
  have hsize : revoked.maps.size = s.file.data.maps.size := by
    rw [hrevoked, FileTumblerData.put, OrderedMap.size_set, if_pos hhas]
  have hhas' : revoked.maps.has clientId = true :=
    OrderedMap.has_iff.mpr ⟨_, OrderedMap.get?_set_self _ _ _⟩
  have hvalid : ValidData revoked := h.valid.put hhas
    (validateStoredMap_kept (h.valid.maps clientId current hget).1 (.ofStatus current _)
      ((h.valid.state hget).terminal rfl) rfl rfl)
  have hvalid' : ValidData bounded ∧ bounded.maps.size < s.file.maxEntries := by
    rw [hbounded]
    split
    · have herase := OrderedMap.size_erase_of_has hhas'
      have hle := h.bounded
      refine ⟨hvalid.drop clientId, ?_⟩
      simp only [FileTumblerData.drop]
      omega
    · exact ⟨hvalid.touch hhas' hnow, by simp only [FileTumblerData.touch]; omega⟩
  obtain ⟨hvalidBounded, hroom⟩ := hvalid'
  have hpublished := hvalidBounded.insert hreplacement hnow
  have hfile : s.file.replaceCredential clientId replacement now = (.ok true, { s.file with
      data := (bounded.put replacement.clientId replacement).touch replacement.clientId now }) :=
    h.transaction_ok hchecks (by
      simp only [hget, if_neg hopen, if_neg hknown, ← hrevoked, ← hbounded, flush_ok hpublished,
        bind_ok, pure_eq_ok])
  have hmaps : (if s.memory.maxEntries ≤ revoked.maps.size then revoked.maps.erase clientId
      else revoked.maps) = bounded.maps := by
    rw [hbounded, ← h.maxEntries]
    split <;> rfl
  have hmemory : s.memory.replaceCredential clientId replacement =
      (.ok true, { s.memory with maps := bounded.maps.set replacement.clientId replacement }) := by
    have hset : ({ s.memory with maps := bounded.maps } : MemoryTumblerStore).set
        replacement.clientId replacement = (.ok (), { s.memory with
          maps := bounded.maps.set replacement.clientId replacement }) :=
      MemoryTumblerStore.set_of_room hstate (.inr (h.maxEntries ▸ hroom))
    have hput : s.memory.maps.set clientId { current with status := some .revoked } = revoked.maps := by
      rw [← h.maps]
      rfl
    simp only [MemoryTumblerStore.replaceCredential, hstate, hget', if_neg hterminal,
      hknown', if_neg hknown, hput, hmaps, hset]
    rfl
  rw [hfile, hmemory]
  refine .returns true _ hpublished ?_
  rw [FileTumblerData.touch, FileTumblerData.put, OrderedMap.size_set]
  split <;> omega

theorem file_list : s.file.list now = (.ok ((s.file.data.maps.entries.filter
    (fun entry => !s.file.expired now entry.2)).map Prod.fst), s.file) :=
  h.transaction_ok rfl rfl

theorem list_answer : s.SameAnswer now (s.file.call now .list).1 (s.memory.call now .list).1 := by
  simp only [FileTumblerStore.call, MemoryTumblerStore.call, h.file_list, Except.map, SameAnswer]
  intro id
  simp only [MemoryTumblerStore.list, ← h.maps, OrderedMap.mem_keys, OrderedMap.has_iff, NotAged, List.mem_map, List.mem_filter,
    ← OrderedMap.get?_eq_some, Prod.exists, Bool.not_eq_eq_eq_not, Bool.not_true]
  constructor
  · rintro ⟨_, map, ⟨hget, hlive⟩, rfl⟩
    refine ⟨⟨map, hget⟩, fun map' hget' => ?_⟩
    rw [Option.some.inj (hget.symm.trans hget')] at hlive
    exact hlive
  · rintro ⟨⟨map, hget⟩, hlive⟩
    exact ⟨id, map, ⟨hget, hlive map hget⟩, rfl⟩

theorem list_unchanged :
    (s.file.call now .list).2 = s.file ∧ (s.memory.call now .list).2 = s.memory := by
  simp only [FileTumblerStore.call, MemoryTumblerStore.call, h.file_list, and_self]

end StorePair.SameMaps

/-- Only `list` answers with ids. -/
theorem FileTumblerStore.call_ne_ids (store : FileTumblerStore) (now : Int) {call : StoreCall} (hlist : call ≠ .list)
    (listed : List JsString) : (store.call now call).1 ≠ .ok (.ids listed) := by
  have hmap {α : Type} {f : α → StoreAnswer} (hf : ∀ a, f a ≠ .ids listed)
      (x : Except FileStoreError α) : x.map f ≠ .ok (.ids listed) := by
    cases x with
    | error e => intro heq; cases heq
    | ok a => exact fun heq => hf a (Except.ok.inj heq)
  cases call with
  | list => exact absurd rfl hlist
  | get clientId => exact hmap (fun _ heq => by cases heq) _
  | mutate mutation => exact hmap (fun _ heq => by cases heq) _

namespace StorePair

/-- Every comparable call but `list` has the same outcome at both stores. -/
theorem SameMaps.outcome (h : s.SameMaps) {call : StoreCall} (hcall : s.Comparable now call)
    (hlist : call ≠ .list) : SameOutcome s (s.file.call now call) (s.memory.call now call) := by
  cases call with
  | list => exact absurd rfl hlist
  | get clientId => exact (h.get hcall).map StoreAnswer.found
  | mutate mutation =>
    suffices houtcome : SameOutcome s (s.file.mutate now mutation) (mutation.perform s.memory) from
      houtcome.map StoreAnswer.mutated
    cases mutation with
    | set clientId map =>
      obtain ⟨-, hmap, hnow⟩ := hcall
      exact (h.set hmap hnow).map fun _ => MutationResult.done
    | delete clientId => exact (h.delete hcall).map fun _ => MutationResult.done
    | updateCounters clientId updates =>
      obtain ⟨hid, haged, hhas⟩ := hcall
      exact (h.updateCounters hid haged hhas updates).map fun _ => MutationResult.done
    | consumeCounter clientId segmentId matchedCounter =>
      obtain ⟨hid, haged⟩ := hcall
      exact (h.consumeCounter hid haged segmentId matchedCounter).map MutationResult.answer
    | commitValidation clientId input =>
      obtain ⟨hid, haged, husedAt, hcounts⟩ := hcall
      exact ((h.commitValidation hid haged husedAt hcounts).mapError StoreError.core).map
        MutationResult.committed
    | replaceCredential oldClientId replacement =>
      obtain ⟨hid, haged, hreplacement, hnow⟩ := hcall
      exact (h.replaceCredential hid haged hnow hreplacement).map MutationResult.answer

theorem SameMaps.step (h : s.SameMaps) {call : StoreCall} (hcall : s.Comparable now call) :
    SameMaps { file := (s.file.call now call).2, memory := (s.memory.call now call).2 } := by
  by_cases hlist : call = .list
  · have ⟨hfile, hmemory⟩ : (s.file.call now .list).2 = s.file ∧ (s.memory.call now .list).2 = s.memory :=
      h.list_unchanged
    rw [hlist, hfile, hmemory]
    exact h
  · have houtcome := h.outcome hcall hlist
    generalize s.file.call now call = x, s.memory.call now call = y at houtcome
    cases houtcome with
    | returns a data hvalid hbounded =>
      exact ⟨rfl, h.maxEntries, h.maxAgeMs, hvalid, hbounded⟩
    | throws => exact h

theorem SameMaps.answer (h : s.SameMaps) {call : StoreCall} (hcall : s.Comparable now call) :
    s.SameAnswer now (s.file.call now call).1 (s.memory.call now call).1 := by
  by_cases hlist : call = .list
  · rw [hlist]
    exact h.list_answer
  · have hids := s.file.call_ne_ids now hlist
    have houtcome := h.outcome hcall hlist
    generalize s.file.call now call = x, s.memory.call now call = y at houtcome hids
    cases houtcome with
    | returns a data => cases a <;> first | rfl | exact absurd rfl (hids _)
    | throws => trivial

theorem SameMaps.start (maxEntries : Nat) (maxAgeMs : Int) :
    (StorePair.start maxEntries maxAgeMs).SameMaps :=
  ⟨rfl, rfl, rfl, ValidData.empty, Nat.zero_le _⟩

instance (s : StorePair) (now : Int) (clientId : JsString) : Decidable (s.NotAged now clientId) :=
  inferInstanceAs (Decidable (∀ map ∈ s.file.data.maps.get? clientId, s.file.expired now map = false))

instance (s : StorePair) (now : Int) (call : StoreCall) : Decidable (s.Comparable now call) :=
  match call with
  | .get clientId | .mutate (.delete clientId) =>
    inferInstanceAs (Decidable (validClientId clientId = true))
  | .list => inferInstanceAs (Decidable True)
  | .mutate (.set clientId map) => inferInstanceAs (Decidable
      (clientId = map.clientId ∧ validateStoredMap clientId map = .ok () ∧ natural now = true))
  | .mutate (.updateCounters clientId _) => inferInstanceAs (Decidable
      (_ ∧ s.NotAged now clientId ∧ s.file.data.maps.has clientId = true))
  | .mutate (.consumeCounter clientId _ _) => inferInstanceAs (Decidable (_ ∧ s.NotAged now clientId))
  | .mutate (.commitValidation clientId _) => inferInstanceAs (Decidable
      (_ ∧ s.NotAged now clientId ∧ _ ∧
        ∀ map ∈ s.file.data.maps.get? clientId, natural (map.currentCount + 1) = true))
  | .mutate (.replaceCredential oldClientId replacement) => inferInstanceAs (Decidable
      (_ ∧ s.NotAged now oldClientId ∧ validateStoredMap replacement.clientId replacement = .ok () ∧ _))

end StorePair

/-- From two empty stores on, comparable calls leave the same maps and get the same answers. -/
theorem stores_agree {maxEntries : Nat} {maxAgeMs : Int} {ls : List (StoreCall × Int)}
    (hrun : storePairs.Runs (fun s l => s.Comparable l.2 l.1) (.start maxEntries maxAgeMs) ls s) :
    s.file.data.maps = s.memory.maps ∧ ∀ now call, s.Comparable now call →
      s.SameAnswer now (s.file.call now call).1 (s.memory.call now call).1 := by
  have hsame : s.SameMaps := by
    refine hrun.invariant (I := StorePair.SameMaps) ?_ (.start maxEntries maxAgeMs)
    intro s l t hs hcall hstep
    obtain rfl := Option.some.inj hstep
    exact hs.step hcall
  exact ⟨hsame.maps, fun now call hcall => hsame.answer hcall⟩

section Sample

def storedClient : JsString := JsString.lit "tsk_a"

def storedMap : TumblerMap where
  clientId := storedClient
  sharedSecret := List.replicate 64 97
  keyLength := 23
  segments := [⟨JsString.lit "seg", (0, 11), .hotp, none, some 0⟩]
  checksum := (11, 23)
  createdAt := 0
  version := JsString.lit "1"
  label := none
  expiresAt := none
  maxRequests := none
  rotationWarningRequests := none
  hotpRotationWarningCounters := none
  requestCount := none
  lastUsedAt := none
  status := none

/-- A map is stored and used twice. -/
def sampleCalls : List (StoreCall × Int) :=
  [(.mutate (.set storedClient storedMap), 0),
    (.mutate (.consumeCounter storedClient (JsString.lit "seg") 4), 1),
    (.mutate (.commitValidation storedClient ⟨[(JsString.lit "seg", 5)], 2⟩), 2)]

end Sample

/-- The stored map is found until it has outlived its age. -/
theorem stores_agree_sample : ∃ s, storePairs.Runs (fun s l => s.Comparable l.2 l.1)
    (.start 4 1000) sampleCalls s ∧ s.file.data.maps.size = 1 ∧ s.file.data.maps = s.memory.maps ∧
    s.SameAnswer 1001 (s.file.call 1001 (.get storedClient)).1
      (s.memory.call 1001 (.get storedClient)).1 := by
  obtain ⟨s, hrun, hsize⟩ := Machine.Runs.of_observed (M := storePairs)
    (C := fun s l => s.Comparable l.2 l.1) (.start 4 1000) sampleCalls
    (fun s => s.file.data.maps.size) (b := 1) (by decide +kernel)
  obtain ⟨hmaps, hanswers⟩ := stores_agree hrun
  have hid : validClientId storedClient = true := by decide +kernel
  exact ⟨s, hrun, hsize, hmaps, hanswers 1001 (.get storedClient) hid⟩

/-- A client that is not there is an error to the file store alone.  Once a map has outlived its
age the memory store goes on listing it and consuming its counters. -/
theorem updateCounters_missing_diverges :
    let s := StorePair.start 4 1000
    let updates := StoreCall.mutate (.updateCounters storedClient ∅)
    validClientId storedClient = true ∧ validateStoredMap storedClient storedMap = .ok () ∧
    (s.file.call 0 updates).1 = .error .clientMissing ∧
    (s.memory.call 0 updates).1 = .ok (.mutated .done) ∧
    let t := StorePair.mk (s.file.call 0 (.mutate (.set storedClient storedMap))).2
      (s.memory.call 0 (.mutate (.set storedClient storedMap))).2
    let consume := StoreCall.mutate (.consumeCounter storedClient (JsString.lit "seg") 0)
    (t.file.call 2000 .list).1 = .ok (.ids []) ∧
    (t.memory.call 2000 .list).1 = .ok (.ids [storedClient]) ∧
    (t.file.call 2000 consume).1 = .ok (.mutated (.answer false)) ∧
    (t.memory.call 2000 consume).1 = .ok (.mutated (.answer true)) := by
  decide +kernel

end TskProtocol
