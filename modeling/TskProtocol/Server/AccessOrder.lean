import TskProtocol.Server.StoreAgreement

namespace TskProtocol

/-- The memory store with its `accessOrder`, the most recent use at the end. -/
structure LruTumblerStore extends MemoryTumblerStore where
  accessOrder : List JsString

namespace LruTumblerStore

def start (maxEntries : Nat) (maxAgeMs : Int) : LruTumblerStore where
  maps := ∅
  maxEntries := maxEntries
  maxAgeMs := maxAgeMs
  accessOrder := []

def removeLRU (store : LruTumblerStore) (clientId : JsString) : LruTumblerStore :=
  { store with accessOrder := store.accessOrder.erase clientId }

def touchLRU (store : LruTumblerStore) (clientId : JsString) : LruTumblerStore :=
  { store with accessOrder := store.accessOrder.erase clientId ++ [clientId] }

def set (store : LruTumblerStore) (clientId : JsString) (map : TumblerMap) :
    Except StoreError Unit × LruTumblerStore :=
  if store.maps.has clientId = false ∧ store.maxEntries ≤ store.maps.size then
    (.error .capacityReached, store)
  else match assertTumblerMapCounterState map with
    | .error e => (.error e, store)
    | .ok () => (.ok (), touchLRU { store with maps := store.maps.set clientId map } clientId)

def get (store : LruTumblerStore) (clientId : JsString) (now : Int) :
    Option TumblerMap × LruTumblerStore :=
  match store.maps.get? clientId with
  | none => (none, store)
  | some map =>
    if 0 < store.maxAgeMs ∧ now - map.createdAt > store.maxAgeMs then
      (none, removeLRU { store with maps := store.maps.erase clientId } clientId)
    else (some map, store.touchLRU clientId)

def delete (store : LruTumblerStore) (clientId : JsString) : LruTumblerStore :=
  removeLRU { store with maps := store.maps.erase clientId } clientId

/-- `updateCounters`, `consumeCounter` and `commitValidation` work on the stored map alone. -/
def untouched (store : LruTumblerStore) {α : Type}
    (r : Except StoreError α × MemoryTumblerStore) : Except StoreError α × LruTumblerStore :=
  (r.1, { store with toMemoryTumblerStore := r.2 })

def updateCounters (store : LruTumblerStore) (clientId : JsString)
    (updates : OrderedMap JsString Int) : Except StoreError Unit × LruTumblerStore :=
  store.untouched (store.toMemoryTumblerStore.updateCounters clientId updates)

def consumeCounter (store : LruTumblerStore) (clientId segmentId : JsString)
    (matchedCounter : Int) : Except StoreError Bool × LruTumblerStore :=
  store.untouched (store.toMemoryTumblerStore.consumeCounter clientId segmentId matchedCounter)

def commitValidation (store : LruTumblerStore) (clientId : JsString)
    (input : ValidationCommitInput) : Except StoreError ValidationCommitResult × LruTumblerStore :=
  let (outcome, stored) := store.toMemoryTumblerStore.commitValidation clientId input
  store.untouched (outcome.mapError .core, stored)

def replaceCredential (store : LruTumblerStore) (oldClientId : JsString)
    (replacement : TumblerMap) : Except StoreError Bool × LruTumblerStore :=
  match assertTumblerMapCounterState replacement with
  | .error e => (.error e, store)
  | .ok () =>
    match store.maps.get? oldClientId with
    | none => (.ok false, store)
    | some current =>
      if isTerminal current.status then (.ok false, store)
      else if store.maps.has replacement.clientId then (.ok false, store)
      else
        let revoked : LruTumblerStore :=
          { store with maps := store.maps.set oldClientId { current with status := some .revoked } }
        let bounded :=
          if store.maxEntries ≤ revoked.maps.size then revoked.delete oldClientId else revoked
        let (outcome, stored) := bounded.set replacement.clientId replacement
        (outcome.map (fun _ => true), stored)

def mutate (store : LruTumblerStore) :
    StoreMutation → Except StoreError MutationResult × LruTumblerStore
  | .set clientId map =>
    let (outcome, store) := store.set clientId map
    (outcome.map (fun _ => .done), store)
  | .delete clientId => (.ok .done, store.delete clientId)
  | .updateCounters clientId updates =>
    let (outcome, store) := store.updateCounters clientId updates
    (outcome.map (fun _ => .done), store)
  | .consumeCounter clientId segmentId matchedCounter =>
    let (outcome, store) := store.consumeCounter clientId segmentId matchedCounter
    (outcome.map .answer, store)
  | .commitValidation clientId input =>
    let (outcome, store) := store.commitValidation clientId input
    (outcome.map .committed, store)
  | .replaceCredential oldClientId replacement =>
    let (outcome, store) := store.replaceCredential oldClientId replacement
    (outcome.map .answer, store)

def call (store : LruTumblerStore) (now : Int) :
    StoreCall → Except StoreError StoreAnswer × LruTumblerStore
  | .mutate mutation =>
    let (outcome, stored) := store.mutate mutation
    (outcome.map .mutated, stored)
  | .get clientId =>
    let (found, stored) := store.get clientId now
    (.ok (.found found), stored)
  | .list => (.ok (.ids store.list), store)

end LruTumblerStore

/-- Any calls in any order, each with the reading of the clock it finds. -/
def lruStores : Machine LruTumblerStore (StoreCall × Int) where
  step s l := some (s.call l.2 l.1).2

namespace LruTumblerStore

variable {s t : LruTumblerStore} {clientId : JsString} {map : TumblerMap} {now : Int}

theorem set_eq (s : LruTumblerStore) (clientId : JsString) (map : TumblerMap) :
    ((s.set clientId map).1, (s.set clientId map).2.toMemoryTumblerStore) =
      s.toMemoryTumblerStore.set clientId map := by
  simp only [set, MemoryTumblerStore.set]
  split
  · rfl
  · cases assertTumblerMapCounterState map <;> rfl

theorem replaceCredential_eq (s : LruTumblerStore) (oldClientId : JsString) (replacement : TumblerMap) :
    ((s.replaceCredential oldClientId replacement).1,
      (s.replaceCredential oldClientId replacement).2.toMemoryTumblerStore) =
      s.toMemoryTumblerStore.replaceCredential oldClientId replacement := by
  simp only [replaceCredential, MemoryTumblerStore.replaceCredential]
  cases assertTumblerMapCounterState replacement with
  | error e => rfl
  | ok =>
    cases s.maps.get? oldClientId with
    | none => rfl
    | some current =>
      simp only
      split
      · rfl
      split
      · rfl
      · split
        · exact congrArg (fun r => (r.1.map fun _ => true, r.2)) (set_eq _ _ _)
        · exact congrArg (fun r => (r.1.map fun _ => true, r.2)) (set_eq _ _ _)

/-- The access order is bookkeeping: the calls answer as those of the plain memory store do. -/
theorem call_eq (s : LruTumblerStore) (now : Int) (call : StoreCall) :
    ((s.call now call).1, (s.call now call).2.toMemoryTumblerStore) =
      s.toMemoryTumblerStore.call now call := by
  cases call with
  | list => rfl
  | get clientId =>
    simp only [LruTumblerStore.call, MemoryTumblerStore.call, get, MemoryTumblerStore.get]
    cases s.maps.get? clientId with
    | none => rfl
    | some map => simp only; split <;> rfl
  | mutate mutation =>
    simp only [LruTumblerStore.call, MemoryTumblerStore.call, mutate, StoreMutation.perform]
    cases mutation with
    | set clientId map => simp only [← set_eq]
    | delete clientId => rfl
    | updateCounters clientId updates => rfl
    | consumeCounter clientId segmentId matchedCounter => rfl
    | commitValidation clientId input => rfl
    | replaceCredential oldClientId replacement => simp only [← replaceCredential_eq]

/-- The store between two calls. -/
structure Sound (s : LruTumblerStore) : Prop where
  state : ∀ id map, s.maps.get? id = some map → CounterState map
  bounded : s.maps.size ≤ s.maxEntries
  nodup : s.accessOrder.Nodup
  tracked : ∀ id, id ∈ s.accessOrder ↔ s.maps.has id = true

/-- A stored map is rewritten, or nothing is. -/
inductive WroteAtMost (store : MemoryTumblerStore) (clientId : JsString) : MemoryTumblerStore → Prop
  | kept : WroteAtMost store clientId store
  | put {map map' : TumblerMap} : store.maps.get? clientId = some map →
      (CounterState map → CounterState map') →
      WroteAtMost store clientId { store with maps := store.maps.set clientId map' }

section Wrote

variable {store : MemoryTumblerStore}

theorem updateCounters_wrote (clientId : JsString) (updates : OrderedMap JsString Int) :
    WroteAtMost store clientId (store.updateCounters clientId updates).2 := by
  simp only [MemoryTumblerStore.updateCounters]
  split
  · exact .kept
  next map hget =>
  split
  · exact .kept
  next hchecked =>
  apply WroteAtMost.put hget
  intro hstate
  have hwrite : List.Forall₂ CounterWrite map.segments
      (map.segments.map (MemoryTumblerStore.updateSegment updates)) :=
    forall₂_map fun seg _ => counterWrite_updateSegment (checkUpdates_ok hchecked) seg
  obtain ⟨map', hrec, -, hstate', -, -⟩ := reconcileMap_rewritten hstate hwrite
  rw [hrec]
  exact hstate'

theorem consumeCounter_wrote (clientId segmentId : JsString) (matchedCounter : Int) :
    WroteAtMost store clientId (store.consumeCounter clientId segmentId matchedCounter).2 := by
  simp only [MemoryTumblerStore.consumeCounter]
  split
  · exact .kept
  next map hget =>
  split
  · exact .kept
  next seg hfind =>
  split
  · exact .kept
  next ht =>
  split
  · split
    · exact .put hget fun hstate => hstate.terminal rfl
    · exact .kept
  next husable =>
  split
  · exact .kept
  · apply WroteAtMost.put hget
    intro hstate
    simp only [not_or, Bool.not_eq_false] at husable
    obtain ⟨h0, hmax⟩ := isUsable_iff.mp husable.2
    have hnext : isValidHOTPStoredCounter (matchedCounter + 1) = true :=
      isValid_iff.mpr ⟨by omega, by omega⟩
    obtain ⟨map', hrec, -, hstate', -, -⟩ :=
      reconcileMap_rewritten hstate (forall₂_setFirstCounter hnext hfind (not_not.mp ht))
    rw [hrec]
    exact hstate'

theorem commitValidation_wrote (clientId : JsString) (input : ValidationCommitInput) :
    WroteAtMost store clientId (store.commitValidation clientId input).2 := by
  simp only [MemoryTumblerStore.commitValidation]
  split
  · exact .kept
  next map hget =>
  apply WroteAtMost.put hget
  intro hstate
  obtain ⟨map', hwritten, -, hstate', -, -⟩ := commitValidationToMap_rewritten input hstate
  rw [hwritten]
  exact hstate'

end Wrote

theorem WroteAtMost.maxEntries {store stored : MemoryTumblerStore}
    (h : WroteAtMost store clientId stored) : stored.maxEntries = store.maxEntries := by
  cases h <;> rfl

namespace Sound

theorem start (maxEntries : Nat) (maxAgeMs : Int) : (start maxEntries maxAgeMs).Sound :=
  ⟨fun _ _ h => (by cases h), Nat.zero_le _, .nil, fun id => by simp [LruTumblerStore.start, OrderedMap.has]⟩

theorem perm (h : s.Sound) : s.accessOrder.Perm s.maps.keys := by
  apply (List.perm_ext_iff_of_nodup h.nodup s.maps.nodup_keys).mpr
  intro id
  rw [h.tracked, OrderedMap.mem_keys]

theorem touch (h : s.Sound) (hhas : s.maps.has clientId = true) : (s.touchLRU clientId).Sound := by
  refine ⟨h.state, h.bounded, ?_, fun id => ?_⟩
  · simp only [touchLRU, List.nodup_append, List.nodup_singleton, List.mem_singleton, true_and]
    refine ⟨h.nodup.erase clientId, ?_⟩
    rintro id hid _ rfl rfl
    exact h.nodup.not_mem_erase hid
  · simp only [touchLRU, List.mem_append, List.mem_singleton, h.nodup.mem_erase_iff, h.tracked]
    by_cases hid : id = clientId
    · simp [hid, hhas]
    · simp [hid]

/-- A stored map is overwritten in place. -/
theorem put (h : s.Sound) (hhas : s.maps.has clientId = true) (hmap : CounterState map) :
    Sound { s with maps := s.maps.set clientId map } := by
  refine ⟨fun id m hget => ?_, ?_, h.nodup, fun id => ?_⟩
  · rw [OrderedMap.get?_set] at hget
    split at hget
    · exact Option.some.inj hget ▸ hmap
    · exact h.state id m hget
  · simpa [OrderedMap.size_set, hhas] using h.bounded
  · rw [h.tracked]
    simp only [OrderedMap.has, OrderedMap.get?_set]
    split
    · next heq => simpa [← heq, OrderedMap.has] using hhas
    · rfl

theorem drop (h : s.Sound) (clientId : JsString) : (s.delete clientId).Sound := by
  refine ⟨fun id m hget => ?_, Nat.le_trans (s.maps.size_erase_le clientId) h.bounded, h.nodup.erase clientId,
    fun id => ?_⟩
  · simp only [delete, removeLRU, OrderedMap.get?_erase] at hget
    split at hget
    · cases hget
    · exact h.state id m hget
  · simp only [delete, removeLRU, h.nodup.mem_erase_iff, h.tracked, OrderedMap.has,
      OrderedMap.get?_erase]
    by_cases hid : clientId = id
    · simp [hid]
    · simp [hid, Ne.symm hid]

theorem set (h : s.Sound) (clientId : JsString) (map : TumblerMap) : (s.set clientId map).2.Sound := by
  simp only [LruTumblerStore.set]
  split
  · exact h
  next hroom =>
  cases hassert : assertTumblerMapCounterState map with
  | error e => exact h
  | ok =>
    have hmap := assertTumblerMapCounterState_ok_iff.mp hassert
    by_cases hhas : s.maps.has clientId = true
    · exact (h.put hhas hmap).touch (by simp [OrderedMap.has])
    · have hnew : clientId ∉ s.accessOrder := fun hmem => hhas ((h.tracked clientId).mp hmem)
      refine ⟨fun id m hget => ?_, ?_, ?_, fun id => ?_⟩
      · simp only [touchLRU, OrderedMap.get?_set] at hget
        split at hget
        · exact Option.some.inj hget ▸ hmap
        · exact h.state id m hget
      · simp only [touchLRU, OrderedMap.size_set, if_neg hhas]
        have hcount : ¬ s.maxEntries ≤ s.maps.size := fun hfull => hroom ⟨by simpa using hhas, hfull⟩
        exact Nat.succ_le_of_lt (Nat.lt_of_not_le hcount)
      · simp only [touchLRU, List.erase_of_not_mem hnew]
        exact h.nodup.append (List.nodup_singleton _) (by simpa using hnew)
      · simp only [touchLRU, List.erase_of_not_mem hnew, List.mem_append, List.mem_singleton,
          h.tracked, OrderedMap.has, OrderedMap.get?_set]
        by_cases hid : clientId = id
        · simp [hid]
        · simp [hid, Ne.symm hid]

theorem get (h : s.Sound) (clientId : JsString) (now : Int) : (s.get clientId now).2.Sound := by
  simp only [LruTumblerStore.get]
  split
  · exact h
  · next map hget =>
    split
    · exact h.drop clientId
    · exact h.touch (OrderedMap.has_iff.mpr ⟨map, hget⟩)

theorem untouched {α : Type} {r : Except StoreError α × MemoryTumblerStore} (h : s.Sound)
    (hwrote : WroteAtMost s.toMemoryTumblerStore clientId r.2) : (s.untouched r).2.Sound := by
  obtain ⟨outcome, stored⟩ := r
  cases hwrote with
  | kept => exact h
  | put hget hstate =>
    exact h.put (OrderedMap.has_iff.mpr ⟨_, hget⟩) (hstate (h.state clientId _ hget))

theorem replaceCredential (h : s.Sound) (oldClientId : JsString) (replacement : TumblerMap) :
    (s.replaceCredential oldClientId replacement).2.Sound := by
  simp only [LruTumblerStore.replaceCredential]
  split
  · exact h
  split
  · exact h
  next current hget =>
  split
  · exact h
  split
  · exact h
  · have hrevoked := h.put (OrderedMap.has_iff.mpr ⟨current, hget⟩)
      ((h.state oldClientId current hget).revoked)
    simp only
    split
    · exact (hrevoked.drop oldClientId).set replacement.clientId replacement
    · exact hrevoked.set replacement.clientId replacement

theorem call (h : s.Sound) (now : Int) (call : StoreCall) : (s.call now call).2.Sound := by
  cases call with
  | list => exact h
  | get clientId => exact h.get clientId now
  | mutate mutation =>
    cases mutation with
    | set clientId map => exact h.set clientId map
    | delete clientId => exact h.drop clientId
    | updateCounters clientId updates => exact h.untouched (updateCounters_wrote clientId updates)
    | consumeCounter clientId segmentId matchedCounter =>
      exact h.untouched (consumeCounter_wrote clientId segmentId matchedCounter)
    | commitValidation clientId input => exact h.untouched (commitValidation_wrote clientId input)
    | replaceCredential oldClientId replacement => exact h.replaceCredential oldClientId replacement

theorem of_runs {maxEntries : Nat} {maxAgeMs : Int} {calls : List (StoreCall × Int)}
    (hrun : lruStores.Reaches (.start maxEntries maxAgeMs) calls s) : s.Sound := by
  apply hrun.invariant _ (start maxEntries maxAgeMs)
  intro s l t hs _ hstep
  obtain rfl := Option.some.inj hstep
  exact hs.call l.2 l.1

end Sound

/-- A commit that is not accepted. -/
theorem commitValidation_refused (clientId : JsString) (input : ValidationCommitInput)
    (h : ∀ res, (s.commitValidation clientId input).1 = .ok res → res.ok = false) :
    (s.commitValidation clientId input).2 = s ∨ ∃ map, s.maps.get? clientId = some map ∧
      (s.commitValidation clientId input).2 =
        { s with maps := s.maps.set clientId map.expire } := by
  simp only [LruTumblerStore.commitValidation, MemoryTumblerStore.commitValidation, untouched] at h ⊢
  cases hget : s.maps.get? clientId with
  | none => exact .inl rfl
  | some map =>
    obtain ⟨res, hres, houtcome⟩ := commitValidationToMap_spec map input
    simp only [hget, hres, Except.mapError, Except.ok.injEq] at h ⊢
    have hok := h res rfl
    generalize (commitValidationToMap map input).2 = map' at houtcome ⊢
    cases houtcome with
    | refused => exact .inl (by rw [OrderedMap.set_of_get? hget])
    | expired => exact .inr ⟨map, rfl, rfl⟩
    | accepted haccepted => simp [haccepted] at hok

theorem call_maxEntries (s : LruTumblerStore) (now : Int) (call : StoreCall) :
    (s.call now call).2.maxEntries = s.maxEntries := by
  have hset (s : LruTumblerStore) (clientId : JsString) (map : TumblerMap) :
      (s.set clientId map).2.maxEntries = s.maxEntries := by
    simp only [set]
    split
    · rfl
    · cases assertTumblerMapCounterState map <;> rfl
  cases call with
  | list => rfl
  | get clientId =>
    simp only [LruTumblerStore.call, get]
    split
    · rfl
    · split <;> rfl
  | mutate mutation =>
    simp only [LruTumblerStore.call, mutate]
    cases mutation with
    | set clientId map => exact hset s clientId map
    | delete clientId => rfl
    | updateCounters clientId updates => exact (updateCounters_wrote clientId updates).maxEntries
    | consumeCounter clientId segmentId matchedCounter =>
      exact (consumeCounter_wrote clientId segmentId matchedCounter).maxEntries
    | commitValidation clientId input => exact (commitValidation_wrote clientId input).maxEntries
    | replaceCredential oldClientId replacement =>
      simp only [replaceCredential]
      split
      · rfl
      split
      · rfl
      split
      · rfl
      split
      · rfl
      · simp only [hset]
        split <;> rfl

end LruTumblerStore

/-- Whatever calls were made, the maps are in order, the store is within its capacity, the access
order lists its clients once each, and a refused commit expires a map at most. -/
theorem memoryTumblerStore_sound {maxEntries : Nat} {maxAgeMs : Int} {calls : List (StoreCall × Int)}
    {s : LruTumblerStore} (hrun : lruStores.Reaches (.start maxEntries maxAgeMs) calls s) :
    (∀ id map, s.maps.get? id = some map → assertTumblerMapCounterState map = .ok ()) ∧
    s.maps.size ≤ s.maxEntries ∧ s.maxEntries = maxEntries ∧
    s.accessOrder.Nodup ∧ s.accessOrder.Perm s.maps.keys ∧
    ∀ clientId input, (∀ res, (s.commitValidation clientId input).1 = .ok res → res.ok = false) →
      (s.commitValidation clientId input).2 = s ∨ ∃ map, s.maps.get? clientId = some map ∧
        (s.commitValidation clientId input).2 =
          { s with maps := s.maps.set clientId map.expire } := by
  have h := LruTumblerStore.Sound.of_runs hrun
  refine ⟨fun id map hget => assertTumblerMapCounterState_ok_iff.mpr (h.state id map hget),
    h.bounded, ?_, h.nodup, h.perm, fun clientId input hrefused =>
      LruTumblerStore.commitValidation_refused clientId input hrefused⟩
  apply hrun.invariant (I := fun s => s.maxEntries = maxEntries) _ rfl
  intro s l t hs _ hstep
  obtain rfl := Option.some.inj hstep
  exact (s.call_maxEntries l.2 l.1).trans hs

/-- Two clients, one of them used last; its second commit is a replay. -/
theorem memoryTumblerStore_sound_sample : ∃ s, lruStores.Reaches (.start 2 1000)
    (sampleCalls ++ [(.mutate (.set (JsString.lit "tsk_b") storedMap), 3), (.get storedClient, 4)]) s ∧
    s.accessOrder = [JsString.lit "tsk_b", storedClient] ∧
    s.accessOrder.Perm s.maps.keys ∧ (s.commitValidation storedClient
      ⟨[(JsString.lit "seg", 5)], 5⟩).1 = .ok (.fail .hotpReplayDetected) := by
  obtain ⟨s, hrun, hobserved⟩ := Machine.Runs.of_observed (M := lruStores) (C := fun _ _ => True)
    (.start 2 1000)
    (sampleCalls ++ [(.mutate (.set (JsString.lit "tsk_b") storedMap), 3), (.get storedClient, 4)])
    (fun s => (s.accessOrder, (s.commitValidation storedClient ⟨[(JsString.lit "seg", 5)], 5⟩).1.toOption))
    (b := ([JsString.lit "tsk_b", storedClient], some (.fail .hotpReplayDetected))) (by decide +kernel)
  obtain ⟨-, -, -, -, hperm, -⟩ := memoryTumblerStore_sound hrun
  simp only [Prod.mk.injEq] at hobserved
  refine ⟨s, hrun, hobserved.1, hperm, ?_⟩
  cases hcommit : (s.commitValidation storedClient ⟨[(JsString.lit "seg", 5)], 5⟩).1 with
  | error e => simp [hcommit, Except.toOption] at hobserved
  | ok res => simpa [hcommit, Except.toOption] using hobserved.2

end TskProtocol
