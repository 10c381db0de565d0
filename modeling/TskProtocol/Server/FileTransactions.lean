import TskProtocol.Lib.LockedFile
import TskProtocol.Server.StoreAgreement

namespace TskProtocol

open LockedFile

/-- The file of a `FileTumblerStore`: there are no maps where there is no file. -/
def fileFormat : Format FileTumblerData where
  empty := {}
  valid data := (validateFileData data).toBool

namespace FileTumblerStore

/-- What is checked before the lock is taken. -/
def checks : StoreCall → Except FileStoreError Unit
  | .list => .ok ()
  | .get clientId | .mutate (.delete clientId) | .mutate (.updateCounters clientId _)
  | .mutate (.consumeCounter clientId _ _) | .mutate (.commitValidation clientId _) => requireClientId clientId
  | .mutate (.set clientId map) => do
    requireClientId clientId
    (assertTumblerMapCounterState map).mapError .store
  | .mutate (.replaceCredential oldClientId replacement) => do
    requireClientId oldClientId
    requireClientId replacement.clientId
    (assertTumblerMapCounterState replacement).mapError .store

/-- A map that has been changed is written back, unless the change has thrown. -/
def attemptChange {ε α : Type} (data : FileTumblerData) (clientId : JsString) :
    Except ε α × TumblerMap → LockedFile.Attempt FileTumblerData
  | (.error _, _) => .throws
  | (.ok _, written) => .publishes (data.put clientId written)

/-- Which candidate a call flushes, if any, under the lock. -/
def attempt (store : FileTumblerStore) (now : Int) (data : FileTumblerData) : StoreCall → LockedFile.Attempt FileTumblerData
  | .list => .returns
  | .get clientId =>
    match data.maps.get? clientId with
    | none => .returns
    | some map => if store.expired now map then .publishes (data.drop clientId) else .returns
  | .mutate (.set clientId map) =>
    if data.maps.has clientId ∨ data.maps.size < store.maxEntries then
      .publishes ((data.put clientId map).touch clientId now)
    else .throws
  | .mutate (.delete clientId) => .publishes (data.drop clientId)
  | .mutate (.updateCounters clientId updates) =>
    match data.maps.get? clientId with
    | none => .throws
    | some map =>
      if store.expired now map then .throws
      else attemptChange data clientId (MemoryTumblerStore.updateMap updates map)
  | .mutate (.consumeCounter clientId segmentId matchedCounter) =>
    match data.maps.get? clientId with
    | none => .returns
    | some map =>
      if store.expired now map then .returns
      else match map.segments.find? (fun seg => seg.segmentId = segmentId) with
        | none => .returns
        | some seg =>
          if seg.type ≠ .hotp then .returns
          else if isUsableHOTPDerivationCounter seg.storedCounter = false ∨
              isUsableHOTPDerivationCounter matchedCounter = false then
            .publishes (data.put clientId (if seg.storedCounter = TSK_MAX_HOTP_COUNTER then map.expire else map))
          else if seg.storedCounter > matchedCounter then .returns
          else attemptChange data clientId (MemoryTumblerStore.reconcileMap { map with
            segments := MemoryTumblerStore.setFirstCounter segmentId (matchedCounter + 1) map.segments })
  | .mutate (.commitValidation clientId input) =>
    match data.maps.get? clientId with
    | none => .returns
    | some map =>
      if store.expired now map then .returns
      else attemptChange data clientId (commitValidationToMap map input)
  | .mutate (.replaceCredential oldClientId replacement) =>
    match data.maps.get? oldClientId with
    | none => .returns
    | some current =>
      if store.expired now current ∨ isTerminal current.status then .returns
      else if data.maps.has replacement.clientId then .returns
      else
        let revoked := data.put oldClientId { current with status := some .revoked }
        let bounded := if store.maxEntries ≤ revoked.maps.size then revoked.drop oldClientId
          else revoked.touch oldClientId now
        .publishes ((bounded.put replacement.clientId replacement).touch replacement.clientId now)

/-- A client is deleted whether it is there or not. -/
example (store : FileTumblerStore) (now : Int) (data : FileTumblerData) (clientId : JsString) :
    store.attempt now data (.mutate (.delete clientId)) = .publishes (data.drop clientId) := by
  simp only [attempt]

end FileTumblerStore

/-- A call at one of the stores of a file, in whichever process. -/
structure FileCall where
  maxEntries : Nat
  maxAgeMs : Int
  now : Int
  call : StoreCall

def FileCall.store (c : FileCall) : FileTumblerStore := { maxEntries := c.maxEntries, maxAgeMs := c.maxAgeMs }

namespace FileTumblerStore

variable {store : FileTumblerStore} {now : Int}

/-- An operation that comes out as its attempt says. -/
def Follows {α : Type} (outcome : Except FileStoreError (α × FileTumblerData)) (data : FileTumblerData) :
    LockedFile.Attempt FileTumblerData → Prop
  | .throws => outcome.toOption = none
  | .returns => ∀ published ∈ outcome.toOption, published.2 = data
  | .publishes candidate => ∃ a, outcome = (flush candidate).map fun published => (a, published)

theorem transaction_data {α : Type} {checks : Except FileStoreError Unit}
    {operation : FileTumblerData → Except FileStoreError (α × FileTumblerData)}
    {attempt : FileTumblerData → LockedFile.Attempt FileTumblerData}
    (hfollows : Follows (operation store.data) store.data (attempt store.data)) :
    (store.transaction checks operation).2.data =
      if checks.toBool ∧ fileFormat.valid store.data then Transaction.leaves fileFormat attempt store.data
      else store.data := by
  cases checks with
  | error e => rfl
  | ok u =>
    cases hvalid : validateFileData store.data with
    | error e => simp [transaction, fileFormat, hvalid, Except.toBool]
    | ok u =>
      simp only [transaction, fileFormat, Transaction.leaves, hvalid, Except.toBool, and_self, if_true]
      cases hattempt : attempt store.data with
      | throws =>
        rw [hattempt] at hfollows
        cases houtcome : operation store.data with
        | error e => rfl
        | ok published =>
          rw [houtcome] at hfollows
          cases hfollows
      | returns =>
        rw [hattempt] at hfollows
        cases houtcome : operation store.data with
        | error e => rfl
        | ok published =>
          rw [houtcome] at hfollows
          exact hfollows published rfl
      | publishes candidate =>
        rw [hattempt] at hfollows
        obtain ⟨a, houtcome⟩ := hfollows
        cases hcandidate : validateFileData candidate with
        | error e => simp [houtcome, flush, hcandidate, Except.map]
        | ok u => simp [houtcome, flush, hcandidate, Except.map]

section Follows

variable {α β ε : Type} {data : FileTumblerData}

theorem follows_unchanged (a : α) : Follows (.ok (a, data)) data .returns := by
  intro published h
  obtain rfl := Option.some.inj h
  rfl

theorem follows_flush (a : α) (candidate : FileTumblerData) : Follows (do
    let published ← flush candidate
    return (a, published)) data (.publishes candidate) := ⟨a, rfl⟩

/-- A call that changes one map throws where the change does. -/
theorem follows_change (changed : Except ε α × TumblerMap) (f : ε → FileStoreError) (answer : α → β)
    (clientId : JsString) : Follows (do
      let a ← changed.1.mapError f
      let published ← flush (data.put clientId changed.2)
      return (answer a, published)) data (attemptChange data clientId changed) := by
  obtain ⟨outcome, written⟩ := changed
  cases outcome with
  | error e => rfl
  | ok a => exact follows_flush (answer a) _

end Follows

/-- What an undisturbed call leaves of the document. -/
def left (store : FileTumblerStore) (now : Int) (call : StoreCall) : FileTumblerData :=
  if (checks call).toBool ∧ fileFormat.valid store.data then
    Transaction.leaves fileFormat (store.attempt now · call) store.data
  else store.data

section Methods

variable (store : FileTumblerStore) (now : Int) (clientId : JsString)

theorem list_data : (store.list now).2.data = store.left now .list := by
  apply transaction_data
  simp only [attempt]
  exact follows_unchanged _

theorem get_data : (store.get clientId now).2.data = store.left now (.get clientId) := by
  apply transaction_data
  cases hmap : store.data.maps.get? clientId with
  | none =>
    simp only [attempt, hmap]
    exact follows_unchanged none
  | some map =>
    cases haged : store.expired now map with
    | true =>
      simp only [attempt, hmap, haged, if_true]
      exact follows_flush none _
    | false =>
      simp only [attempt, hmap, haged, Bool.false_eq_true, if_false]
      exact follows_unchanged (some map)

theorem set_data (map : TumblerMap) :
    (store.set clientId map now).2.data = store.left now (.mutate (.set clientId map)) := by
  apply transaction_data
  simp only [attempt]
  split
  · next hroom =>
    rw [require_pos hroom]
    exact follows_flush () _
  · next hroom =>
    rw [require_neg hroom]
    rfl

theorem delete_data : (store.delete clientId).2.data = store.left now (.mutate (.delete clientId)) := by
  apply transaction_data
  simp only [attempt]
  exact follows_flush () _

theorem updateCounters_data (updates : OrderedMap JsString Int) :
    (store.updateCounters clientId updates now).2.data =
      store.left now (.mutate (.updateCounters clientId updates)) := by
  apply transaction_data
  cases hmap : store.data.maps.get? clientId with
  | none =>
    simp only [attempt, hmap]
    rfl
  | some map =>
    cases haged : store.expired now map with
    | true =>
      simp only [attempt, hmap, haged, if_true, orThrow, bind, Except.bind]
      rfl
    | false =>
      simp only [attempt, hmap, haged, Bool.false_eq_true, if_false, orThrow, bind, Except.bind]
      exact follows_change (MemoryTumblerStore.updateMap updates map) FileStoreError.store (fun _ => ()) clientId

theorem consumeCounter_data (segmentId : JsString) (matchedCounter : Int) :
    (store.consumeCounter clientId segmentId matchedCounter now).2.data =
      store.left now (.mutate (.consumeCounter clientId segmentId matchedCounter)) := by
  apply transaction_data
  cases hmap : store.data.maps.get? clientId with
  | none =>
    simp only [attempt, hmap]
    exact follows_unchanged false
  | some map =>
    cases haged : store.expired now map with
    | true =>
      simp only [attempt, hmap, haged, if_true]
      exact follows_unchanged false
    | false =>
      cases hseg : map.segments.find? (fun seg => seg.segmentId = segmentId) with
      | none =>
        simp only [attempt, hmap, haged, hseg, Bool.false_eq_true, if_false]
        exact follows_unchanged false
      | some seg =>
        simp only [attempt, hmap, haged, hseg, Bool.false_eq_true, if_false]
        split
        · exact follows_unchanged false
        split
        · exact follows_flush false _
        split
        · exact follows_unchanged false
        · exact follows_change (MemoryTumblerStore.reconcileMap { map with
              segments := MemoryTumblerStore.setFirstCounter segmentId (matchedCounter + 1) map.segments })
            FileStoreError.store (fun _ => true) clientId

theorem commitValidation_data (input : ValidationCommitInput) :
    (store.commitValidation clientId input now).2.data =
      store.left now (.mutate (.commitValidation clientId input)) := by
  apply transaction_data
  cases hmap : store.data.maps.get? clientId with
  | none =>
    simp only [attempt, hmap]
    exact follows_unchanged _
  | some map =>
    cases haged : store.expired now map with
    | true =>
      simp only [attempt, hmap, haged, if_true]
      exact follows_unchanged _
    | false =>
      simp only [attempt, hmap, haged, Bool.false_eq_true, if_false]
      exact follows_change (commitValidationToMap map input) (fun e => .store (.core e)) id clientId

theorem replaceCredential_data (replacement : TumblerMap) :
    (store.replaceCredential clientId replacement now).2.data =
      store.left now (.mutate (.replaceCredential clientId replacement)) := by
  apply transaction_data
  cases hmap : store.data.maps.get? clientId with
  | none =>
    simp only [attempt, hmap]
    exact follows_unchanged false
  | some current =>
    simp only [attempt, hmap]
    split
    · exact follows_unchanged false
    split
    · exact follows_unchanged false
    · exact follows_flush true _

/-- Every call leaves what its attempt leaves. -/
theorem call_data (call : StoreCall) : (store.call now call).2.data = store.left now call := by
  cases call with
  | list => exact store.list_data now
  | get clientId => exact store.get_data now clientId
  | mutate mutation =>
    cases mutation with
    | set clientId map => exact store.set_data now clientId map
    | delete clientId => exact store.delete_data now clientId
    | updateCounters clientId updates => exact store.updateCounters_data now clientId updates
    | consumeCounter clientId segmentId matchedCounter =>
      exact store.consumeCounter_data now clientId segmentId matchedCounter
    | commitValidation clientId input => exact store.commitValidation_data now clientId input
    | replaceCredential oldClientId replacement => exact store.replaceCredential_data now oldClientId replacement

end Methods

end FileTumblerStore

/-- Every store of one file, on the file system. -/
def fileStores : Machine (World FileTumblerData) (Label FileCall) := machine fileFormat fun c =>
  if (FileTumblerStore.checks c.call).toBool then some (c.store.attempt c.now · c.call) else none

/-- At every point of every transaction, whichever of its file operations fail and wherever it stops, the
file is the whole document from before it or the whole valid candidate that it has published, and what it
has not published has never been there. -/
theorem file_whole {store : Option (File FileTumblerData)} {ls : List (Label FileCall)}
    {w : World FileTumblerData} (hsynced : ∀ file ∈ store, file.synced = true)
    (hrun : fileStores.Reaches { disk := { store := store } } ls w) :
    (∀ t ∈ w.transactions, (t.phase.inside = true → t.Leaves fileFormat w.disk.store) ∧
      (t.phase.finished = true → t.Leaves fileFormat t.after)) ∧
    ∀ l w', fileStores.step w l = some w' → w'.disk.store = w.disk.store ∨
      ∃ t ∈ w.transactions, ∃ candidate, t.Offers fileFormat candidate ∧ w.disk.store = t.before ∧
        w'.disk.store = some ⟨some candidate, true⟩ := by
  have hsound := World.sound_of_runs hrun hsynced
  exact ⟨fun t ht => ⟨hsound.inside t ht, hsound.finished t ht⟩, fun _ _ hstep => hsound.changes hstep⟩

section Sample

/-- A map is stored; the next call stops with its candidate half written. -/
def sampleFileRun : List (Label FileCall) :=
  .begin ⟨4, 1000, 0, .mutate (.set storedClient storedMap)⟩ ::
    List.replicate 14 (.advance 0 .ok) ++
  .begin ⟨4, 1000, 1, .mutate (.delete storedClient)⟩ ::
    List.replicate 7 (.advance 1 .ok) ++ [.advance 1 .crash, .powerLoss]

end Sample

theorem file_whole_sample : ∃ w, fileStores.Reaches { disk := { store := none } } sampleFileRun w ∧
    (w.transactions.map fun t => (t.phase.finished, t.published.isSome)) = [(true, true), (true, false)] ∧
    ∀ t ∈ w.transactions, t.phase.finished = true → t.Leaves fileFormat t.after := by
  obtain ⟨w, hrun, hw⟩ := Machine.Runs.of_observed (M := fileStores) (C := fun _ _ => True)
    { disk := { store := none } } sampleFileRun
    (fun w => w.transactions.map fun t => (t.phase.finished, t.published.isSome))
    (b := [(true, true), (true, false)]) (by decide +kernel)
  exact ⟨w, hrun, hw, fun t ht => ((file_whole (fun _ h => by cases h) hrun).1 t ht).2⟩

end TskProtocol
