import TskProtocol.Server.Mutation
import TskProtocol.Server.StoreLaws

namespace TskProtocol

/-- The clients a mutation may change. -/
def StoreMutation.touches : StoreMutation → List JsString
  | .set clientId _ => [clientId]
  | .delete clientId => [clientId]
  | .updateCounters clientId _ => [clientId]
  | .consumeCounter clientId _ _ => [clientId]
  | .commitValidation clientId _ => [clientId]
  | .replaceCredential oldClientId replacement => [oldClientId, replacement.clientId]

namespace MemoryTumblerStore

/-- The same store with other maps. -/
def withMaps (store : MemoryTumblerStore) (maps : OrderedMap JsString TumblerMap) :
    MemoryTumblerStore :=
  { store with maps := maps }

@[simp] theorem withMaps_maps (store : MemoryTumblerStore) (maps : OrderedMap JsString TumblerMap) :
    (store.withMaps maps).maps = maps := rfl

/-- `updateCounters` on the map it finds. -/
def updateMap (updates : OrderedMap JsString Int) (map : TumblerMap) :
    Except StoreError Unit × TumblerMap :=
  match checkUpdates map.segments updates.entries with
  | .error e => (.error e, map)
  | .ok () => reconcileMap { map with segments := map.segments.map (updateSegment updates) }

/-- `consumeCounter` on the map it finds, when it answers `true`. -/
def consumeMap (segmentId : JsString) (matchedCounter : Int) (map : TumblerMap) :
    Option TumblerMap :=
  match map.segments.find? (fun seg => seg.segmentId = segmentId) with
  | none => none
  | some seg =>
    if seg.type ≠ .hotp then none
    else if isUsableHOTPDerivationCounter seg.storedCounter = false ∨
        isUsableHOTPDerivationCounter matchedCounter = false then none
    else if seg.storedCounter > matchedCounter then none
    else match reconcileMap
        { map with segments := setFirstCounter segmentId (matchedCounter + 1) map.segments } with
      | (.ok (), written) => some written
      | (.error _, _) => none

variable {store store' : MemoryTumblerStore} {clientId : JsString} {map map' : TumblerMap}

theorem updateCounters_of_updateMap {updates : OrderedMap JsString Int}
    (hget : store.maps.get? clientId = some map) (h : updateMap updates map = (.ok (), map')) :
    store.updateCounters clientId updates =
      (.ok (), store.withMaps (store.maps.set clientId map')) := by
  simp only [updateMap] at h
  split at h
  · cases h
  · next hcheck => simp only [updateCounters, hget, hcheck, h, withMaps]

theorem updateCounters_ok {updates : OrderedMap JsString Int}
    (h : store.updateCounters clientId updates = (.ok (), store')) :
    (store.maps.get? clientId = none ∧ store' = store) ∨
    ∃ map map', store.maps.get? clientId = some map ∧ updateMap updates map = (.ok (), map') ∧
      store' = store.withMaps (store.maps.set clientId map') := by
  simp only [updateCounters] at h
  split at h
  · next hget => exact .inl ⟨hget, (congrArg Prod.snd h).symm⟩
  next map hget =>
  split at h
  · cases h
  next hcheck =>
  obtain ⟨hok, hstore⟩ := Prod.mk.inj h
  exact .inr ⟨map, _, hget, by simp only [updateMap, hcheck]; exact Prod.ext hok rfl, hstore.symm⟩

theorem consumeCounter_of_consumeMap {segmentId : JsString} {matchedCounter : Int}
    (hget : store.maps.get? clientId = some map)
    (h : consumeMap segmentId matchedCounter map = some map') :
    store.consumeCounter clientId segmentId matchedCounter =
      (.ok true, store.withMaps (store.maps.set clientId map')) := by
  simp only [consumeMap] at h
  split at h
  · cases h
  next seg hseg =>
  split at h
  · cases h
  next htype =>
  split at h
  · cases h
  next husable =>
  split at h
  · cases h
  next hfresh =>
  split at h
  · next written hrec =>
    obtain rfl := Option.some.inj h
    simp only [consumeCounter, hget, hseg, if_neg htype, if_neg husable, if_neg hfresh, hrec,
      withMaps]
    rfl
  · cases h

theorem consumeCounter_true {segmentId : JsString} {matchedCounter : Int}
    (h : store.consumeCounter clientId segmentId matchedCounter = (.ok true, store')) :
    ∃ map map', store.maps.get? clientId = some map ∧
      consumeMap segmentId matchedCounter map = some map' ∧
      store' = store.withMaps (store.maps.set clientId map') := by
  simp only [consumeCounter] at h
  split at h
  · cases h
  next map hget =>
  split at h
  · cases h
  next seg hseg =>
  split at h
  · cases h
  next htype =>
  split at h
  · split at h <;> cases h
  next husable =>
  split at h
  · cases h
  next hfresh =>
  obtain ⟨hok, hstore⟩ := Prod.mk.inj h
  rcases hrec : reconcileMap
    { map with segments := setFirstCounter segmentId (matchedCounter + 1) map.segments } with
    ⟨outcome, written⟩
  rw [hrec] at hok hstore
  cases outcome with
  | error e => cases hok
  | ok =>
    refine ⟨map, written, hget, ?_, hstore.symm⟩
    simp only [consumeMap, hseg, if_neg htype, if_neg husable, if_neg hfresh, hrec]

theorem set_ok (h : store.set clientId map = (.ok (), store')) :
    store' = store.withMaps (store.maps.set clientId map) := by
  simp only [set] at h
  split at h
  · cases h
  split at h
  · cases h
  · exact (congrArg Prod.snd h).symm

/-- With room left, a replacement keeps the old credential, revoked, next to the new one. -/
theorem replaceCredential_true {replacement : TumblerMap}
    (hroom : store.maps.size < store.maxEntries)
    (h : store.replaceCredential clientId replacement = (.ok true, store')) :
    ∃ current, store.maps.get? clientId = some current ∧ isTerminal current.status = false ∧
      store.maps.has replacement.clientId = false ∧
      store' = store.withMaps ((store.maps.set clientId
        { current with status := some .revoked }).set replacement.clientId replacement) := by
  simp only [replaceCredential] at h
  split at h
  · cases h
  split at h
  · cases h
  next current hget =>
  split at h
  · cases h
  next hlive =>
  split at h
  · cases h
  next hhas =>
  have hsize : (store.maps.set clientId { current with status := some .revoked }).size =
      store.maps.size := by
    rw [OrderedMap.size_set, if_pos (OrderedMap.has_iff.mpr ⟨current, hget⟩)]
  rw [if_neg (by omega)] at h
  obtain ⟨hok, hstore⟩ := Prod.mk.inj h
  refine ⟨current, hget, by simpa using hlive, by simpa using hhas, ?_⟩
  rcases hset : set { store with
      maps := store.maps.set clientId { current with status := some .revoked } }
      replacement.clientId replacement with ⟨outcome, stored⟩
  rw [hset] at hok hstore
  cases outcome with
  | error e => cases hok
  | ok =>
    obtain rfl := hstore
    rw [set_ok hset]
    rfl

theorem get?_set_of_ne {x : JsString} (hx : clientId ≠ x) :
    (store.set clientId map).2.maps.get? x = store.maps.get? x := by
  simp only [set]
  split
  · rfl
  split
  · rfl
  · exact OrderedMap.get?_set_ne _ _ hx

end MemoryTumblerStore

open MemoryTumblerStore in
/-- A mutation leaves every other client alone. -/
theorem StoreMutation.get?_perform {mutation : StoreMutation} {store : MemoryTumblerStore}
    {x : JsString} (hx : x ∉ mutation.touches) :
    (mutation.perform store).2.maps.get? x = store.maps.get? x := by
  cases mutation with
  | set clientId map => exact get?_set_of_ne (Ne.symm (by simpa [touches] using hx))
  | delete clientId =>
    exact OrderedMap.get?_erase_ne _ (Ne.symm (by simpa [touches] using hx))
  | updateCounters clientId updates =>
    have hne : clientId ≠ x := Ne.symm (by simpa [touches] using hx)
    simp only [perform, MemoryTumblerStore.updateCounters]
    split
    · rfl
    split
    · rfl
    · exact OrderedMap.get?_set_ne _ _ hne
  | consumeCounter clientId segmentId matchedCounter =>
    have hne : clientId ≠ x := Ne.symm (by simpa [touches] using hx)
    simp only [perform, MemoryTumblerStore.consumeCounter]
    split
    · rfl
    split
    · rfl
    split
    · rfl
    split
    · split
      · exact OrderedMap.get?_set_ne _ _ hne
      · rfl
    split
    · rfl
    · exact OrderedMap.get?_set_ne _ _ hne
  | commitValidation clientId input =>
    have hne : clientId ≠ x := Ne.symm (by simpa [touches] using hx)
    simp only [perform, MemoryTumblerStore.commitValidation]
    split
    · rfl
    · exact OrderedMap.get?_set_ne _ _ hne
  | replaceCredential oldClientId replacement =>
    obtain ⟨hold, hnew⟩ : x ≠ oldClientId ∧ x ≠ replacement.clientId := by
      simpa [touches] using hx
    simp only [perform, MemoryTumblerStore.replaceCredential]
    split
    · rfl
    split
    · rfl
    split
    · rfl
    split
    · rfl
    · rw [get?_set_of_ne (Ne.symm hnew)]
      simp only
      split
      · rw [OrderedMap.get?_erase_ne _ (Ne.symm hold), OrderedMap.get?_set_ne _ _ (Ne.symm hold)]
      · exact OrderedMap.get?_set_ne _ _ (Ne.symm hold)

/-- The map with its signing material rewritten: kept by `id`, blanked by a constant. -/
def TumblerMap.mapSecret (g : JsString → JsString) (map : TumblerMap) : TumblerMap :=
  { map with sharedSecret := g map.sharedSecret }

@[simp] theorem TumblerMap.mapSecret_id (map : TumblerMap) : map.mapSecret id = map := rfl

namespace MemoryTumblerStore

variable {g : JsString → JsString} {map map' other : TumblerMap}

theorem reconcile_mapSecret (g : JsString → JsString) (map : TumblerMap) (remaining : Int) :
    (reconcileTumblerMapCounterStatus (map.mapSecret g) remaining).2 =
      (reconcileTumblerMapCounterStatus map remaining).2.mapSecret g := by
  simp only [reconcileTumblerMapCounterStatus, hotpWarningWindow, TumblerMap.mapSecret]
  by_cases hterm : isTerminal map.status = true
  · simp [hterm]
  by_cases hzero : remaining = 0
  · simp [hterm, hzero]
  by_cases hdue : remaining ≤
      map.hotpRotationWarningCounters.getD DEFAULT_HOTP_ROTATION_WARNING_COUNTERS
  · simp [hterm, hzero, hdue]
  · simp [hterm, hzero, hdue]

theorem reconcileMap_mapSecret (g : JsString → JsString) (map : TumblerMap) :
    reconcileMap (map.mapSecret g) = ((reconcileMap map).1, (reconcileMap map).2.mapSecret g) := by
  have hsegments : (map.mapSecret g).segments = map.segments := rfl
  simp only [reconcileMap, hsegments]
  split
  · rfl
  · rfl
  · rw [reconcile_mapSecret]

/-- No store operation reads the signing material. -/
theorem updateMap_mapSecret (g : JsString → JsString) (updates : OrderedMap JsString Int)
    (map : TumblerMap) : updateMap updates (map.mapSecret g) =
      ((updateMap updates map).1, (updateMap updates map).2.mapSecret g) := by
  simp only [updateMap, TumblerMap.mapSecret]
  split
  · rfl
  · exact reconcileMap_mapSecret g { map with segments := map.segments.map (updateSegment updates) }

theorem consumeMap_mapSecret (g : JsString → JsString) (segmentId : JsString) (matchedCounter : Int)
    (map : TumblerMap) : consumeMap segmentId matchedCounter (map.mapSecret g) =
      (consumeMap segmentId matchedCounter map).map (·.mapSecret g) := by
  simp only [consumeMap, TumblerMap.mapSecret]
  split
  · rfl
  split
  · rfl
  split
  · rfl
  split
  · rfl
  have hrec := reconcileMap_mapSecret g
    { map with segments := setFirstCounter segmentId (matchedCounter + 1) map.segments }
  simp only [TumblerMap.mapSecret] at hrec
  rcases hwritten : reconcileMap
    { map with segments := setFirstCounter segmentId (matchedCounter + 1) map.segments } with
    ⟨outcome, written⟩
  rw [hwritten] at hrec
  cases outcome <;> simp [hrec]

/-- The same update on two maps that agree up to signing material. -/
theorem updateMap_congr {updates : OrderedMap JsString Int} {other' : TumblerMap}
    (hsame : map.mapSecret g = other.mapSecret g) (h : updateMap updates map = (.ok (), map'))
    (hother : updateMap updates other = (.ok (), other')) :
    map'.mapSecret g = other'.mapSecret g := by
  have hmap := updateMap_mapSecret g updates map
  rw [hsame, updateMap_mapSecret, hother, h] at hmap
  exact (congrArg Prod.snd hmap).symm

theorem consumeMap_congr {segmentId : JsString} {matchedCounter : Int} {other' : TumblerMap}
    (hsame : map.mapSecret g = other.mapSecret g)
    (h : consumeMap segmentId matchedCounter map = some map')
    (hother : consumeMap segmentId matchedCounter other = some other') :
    map'.mapSecret g = other'.mapSecret g := by
  have hmap := consumeMap_mapSecret g segmentId matchedCounter map
  rw [hsame, consumeMap_mapSecret, hother, h] at hmap
  exact (Option.some.inj hmap).symm

end MemoryTumblerStore

end TskProtocol
