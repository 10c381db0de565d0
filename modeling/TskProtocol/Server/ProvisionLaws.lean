import TskProtocol.Server.Provision
import TskProtocol.Server.StoreAgreement

namespace TskProtocol

/-- A call of the provisioner that ends in a success or not; the arguments are those of the operations. -/
inductive ProvisionerCall
  | provision (options : TumblerMapOptions) (requestorId : Option JsString)
      (lifecycle : Option ReplacementLifecycle) (listedAt now : Int) (tape : List UInt8)
  | replaceKey (oldClientId : JsString) (options : TumblerMapOptions) (lifecycle : ReplacementLifecycle)
      (requestorId reason : JsString) (readAt now : Int) (tape : List UInt8)
  | updateKey (clientId : JsString) (updates : KeyUpdates) (requestorId reason : JsString) (readAt now : Int)

/-- The map that a call reads, and when. -/
def ProvisionerCall.reads : ProvisionerCall → Option (JsString × Int)
  | .provision _ _ _ _ _ _ => none
  | .replaceKey oldClientId _ _ _ _ readAt _ _ => some (oldClientId, readAt)
  | .updateKey clientId _ _ _ readAt _ => some (clientId, readAt)

section Stores

theorem MemoryTumblerStore.set_error {store : MemoryTumblerStore} {clientId : JsString} {map : TumblerMap}
    {e : StoreError} (h : (store.set clientId map).1 = .error e) : (store.set clientId map).2 = store := by
  unfold MemoryTumblerStore.set at h ⊢
  split
  · rfl
  · next hroom =>
    rw [if_neg hroom] at h
    cases hstate : assertTumblerMapCounterState map with
    | error e => rfl
    | ok u =>
      rw [hstate] at h
      cases h

theorem MemoryTumblerStore.set_bounded {store : MemoryTumblerStore} (clientId : JsString) (map : TumblerMap)
    (h : store.maps.size ≤ store.maxEntries) :
    (store.set clientId map).2.maps.size ≤ (store.set clientId map).2.maxEntries := by
  unfold MemoryTumblerStore.set
  split
  · exact h
  · next hroom =>
    cases assertTumblerMapCounterState map with
    | error e => exact h
    | ok u =>
      simp only [OrderedMap.size_set]
      split
      · exact h
      · next hhas =>
        rw [Bool.not_eq_true] at hhas
        have := not_and.mp hroom hhas
        omega

theorem MemoryTumblerStore.get_bounded {store : MemoryTumblerStore} (clientId : JsString) (now : Int)
    (h : store.maps.size ≤ store.maxEntries) :
    (store.get clientId now).2.maps.size ≤ (store.get clientId now).2.maxEntries := by
  unfold MemoryTumblerStore.get
  split
  · exact h
  split
  · exact (OrderedMap.size_erase_le _ _).trans h
  · exact h

/-- What is left of the maps when the old one is revoked, or makes room. -/
theorem MemoryTumblerStore.replaceCredential_cases {store : MemoryTumblerStore} (oldClientId : JsString)
    (replacement : TumblerMap) (h : store.maps.size ≤ store.maxEntries) :
    (store.replaceCredential oldClientId replacement).2 = store ∨
    (store.replaceCredential oldClientId replacement).1 = .ok true ∧
      (store.replaceCredential oldClientId replacement).2.maps.size ≤
        (store.replaceCredential oldClientId replacement).2.maxEntries := by
  unfold MemoryTumblerStore.replaceCredential
  split
  · exact .inl rfl
  next hstate =>
  split
  · exact .inl rfl
  next current hcurrent =>
  split
  · exact .inl rfl
  split
  · exact .inl rfl
  right
  have hhas : store.maps.has oldClientId = true := OrderedMap.has_iff.mpr ⟨current, hcurrent⟩
  have hsize : (store.maps.set oldClientId { current with status := some .revoked }).size = store.maps.size := by
    rw [OrderedMap.size_set, if_pos hhas]
  have hrevoked : (store.maps.set oldClientId { current with status := some .revoked }).has oldClientId = true :=
    OrderedMap.has_iff.mpr ⟨_, OrderedMap.get?_set_self _ _ _⟩
  generalize store.maps.set oldClientId { current with status := some .revoked } = revoked at hsize hrevoked
  simp only
  have hroom : (if store.maxEntries ≤ revoked.size then revoked.erase oldClientId else revoked).size <
      store.maxEntries := by
    split
    · have := OrderedMap.size_erase_of_has hrevoked
      omega
    · omega
  generalize (if store.maxEntries ≤ revoked.size then revoked.erase oldClientId else revoked) = bounded at hroom
  have hset : ({ store with maps := bounded } : MemoryTumblerStore).set replacement.clientId replacement =
      (.ok (), { store with maps := bounded.set replacement.clientId replacement }) :=
    MemoryTumblerStore.set_of_room hstate (.inr hroom)
  rw [hset]
  refine ⟨rfl, ?_⟩
  simp only [OrderedMap.size_set]
  split <;> omega

theorem MemoryTumblerStore.replaceCredential_bounded {store : MemoryTumblerStore} (oldClientId : JsString)
    (replacement : TumblerMap) (h : store.maps.size ≤ store.maxEntries) :
    (store.replaceCredential oldClientId replacement).2.maps.size ≤
      (store.replaceCredential oldClientId replacement).2.maxEntries := by
  rcases store.replaceCredential_cases oldClientId replacement h with hsame | ⟨-, hbounded⟩
  · rw [hsame]
    exact h
  · exact hbounded

theorem MemoryTumblerStore.replaceCredential_fails {store : MemoryTumblerStore} {oldClientId : JsString}
    {replacement : TumblerMap} (hbounded : store.maps.size ≤ store.maxEntries)
    (h : (store.replaceCredential oldClientId replacement).1 ≠ .ok true) :
    (store.replaceCredential oldClientId replacement).2 = store := by
  rcases store.replaceCredential_cases oldClientId replacement hbounded with hsame | ⟨hok, -⟩
  · exact hsame
  · exact absurd hok h

theorem MemoryTumblerStore.get_cases (store : MemoryTumblerStore) (clientId : JsString) (now : Int) :
    (store.get clientId now).2.maps = store.maps ∨
    (∃ map, store.maps.get? clientId = some map ∧ 0 < store.maxAgeMs ∧ store.maxAgeMs < now - map.createdAt) ∧
      (store.get clientId now).1 = none ∧ (store.get clientId now).2.maps = store.maps.erase clientId := by
  unfold MemoryTumblerStore.get
  split
  · exact .inl rfl
  next map hmap =>
  split
  · next haged => exact .inr ⟨⟨map, hmap, haged⟩, rfl, rfl⟩
  · exact .inl rfl

/-- A transaction leaves the store as it was, or has published and answered. -/
theorem FileTumblerStore.transaction_cases {α : Type} {store : FileTumblerStore} {checks : Except FileStoreError Unit}
    {operation : FileTumblerData → Except FileStoreError (α × FileTumblerData)} (P : α → FileTumblerData → Prop)
    (h : ∀ a data, operation store.data = .ok (a, data) → data = store.data ∨ P a data) :
    (store.transaction checks operation).2 = store ∨
      ∃ a data, P a data ∧ store.transaction checks operation = (.ok a, { store with data := data }) := by
  unfold FileTumblerStore.transaction
  split
  · exact .inl rfl
  split
  · exact .inl rfl
  split
  · exact .inl rfl
  next a data hoperation =>
  rcases h a data hoperation with rfl | hP
  · exact .inl rfl
  · exact .inr ⟨a, data, hP, rfl⟩

theorem FileTumblerStore.set_throws {store : FileTumblerStore} {clientId : JsString} {map : TumblerMap} {now : Int}
    {e : FileStoreError} (h : (store.set clientId map now).1 = .error e) : (store.set clientId map now).2 = store := by
  unfold FileTumblerStore.set at h ⊢
  rcases FileTumblerStore.transaction_cases (fun _ _ => True) (fun _ _ _ => .inr trivial) with
    hsame | ⟨a, data, -, htransaction⟩
  · exact hsame
  · rw [htransaction] at h
    cases h

theorem FileTumblerStore.replaceCredential_fails {store : FileTumblerStore} {oldClientId : JsString}
    {replacement : TumblerMap} {now : Int}
    (h : (store.replaceCredential oldClientId replacement now).1 ≠ .ok true) :
    (store.replaceCredential oldClientId replacement now).2 = store := by
  unfold FileTumblerStore.replaceCredential at h ⊢
  refine (FileTumblerStore.transaction_cases (fun a _ => a = true) ?_).resolve_right ?_
  swap
  · rintro ⟨a, data, rfl, htransaction⟩
    rw [htransaction] at h
    exact h rfl
  intro a data hoperation
  split at hoperation
  · cases hoperation
    exact .inl rfl
  split at hoperation
  · cases hoperation
    exact .inl rfl
  split at hoperation
  · cases hoperation
    exact .inl rfl
  · right
    simp only [bind_eq_ok, pure_eq_ok] at hoperation
    obtain ⟨published, -, hpublished⟩ := hoperation
    cases hpublished
    rfl

theorem FileTumblerStore.get_cases (store : FileTumblerStore) (clientId : JsString) (now : Int) :
    (store.get clientId now).2.data.maps = store.data.maps ∨
    (∃ map, store.data.maps.get? clientId = some map ∧ 0 < store.maxAgeMs ∧
      store.maxAgeMs < now - map.createdAt) ∧ (store.get clientId now).1 = .ok none ∧
      (store.get clientId now).2.data.maps = store.data.maps.erase clientId := by
  unfold FileTumblerStore.get
  refine (FileTumblerStore.transaction_cases (fun a data =>
    (∃ map, store.data.maps.get? clientId = some map ∧ 0 < store.maxAgeMs ∧ store.maxAgeMs < now - map.createdAt) ∧
      a = none ∧ data = store.data.drop clientId) ?_).imp (congrArg fun s : FileTumblerStore => s.data.maps) ?_
  swap
  · rintro ⟨a, data, ⟨haged, rfl, rfl⟩, htransaction⟩
    rw [htransaction]
    exact ⟨haged, rfl, rfl⟩
  intro a data hoperation
  split at hoperation
  · cases hoperation
    exact .inl rfl
  next map hmap =>
  split at hoperation
  · next haged =>
    simp only [bind_eq_ok, pure_eq_ok] at hoperation
    obtain ⟨published, hflush, hpublished⟩ := hoperation
    cases hpublished
    rw [flush_eq_ok] at hflush
    simp only [expired, Bool.and_eq_true, decide_eq_true_eq] at haged
    exact .inr ⟨⟨map, hmap, haged⟩, rfl, hflush.2.symm⟩
  · cases hoperation
    exact .inl rfl

theorem FileTumblerStore.list_unchanged (store : FileTumblerStore) (now : Int) : (store.list now).2 = store := by
  unfold FileTumblerStore.list
  refine (FileTumblerStore.transaction_cases (fun _ _ => False) ?_).resolve_right (fun ⟨_, _, hfalse, _⟩ => hfalse)
  intro a data hoperation
  cases hoperation
  exact .inl rfl

/-- A memory store within its capacity. -/
abbrev BoundedMemoryStore : Type := { store : MemoryTumblerStore // store.maps.size ≤ store.maxEntries }

def memoryStore : TumblerMapStore BoundedMemoryStore StoreError where
  maps s := s.val.maps
  maxAgeMs s := s.val.maxAgeMs
  list s _ := (.ok s.val.list, s)
  get s clientId now := (.ok (s.val.get clientId now).1, ⟨_, MemoryTumblerStore.get_bounded clientId now s.property⟩)
  set s clientId map _ := ((s.val.set clientId map).1, ⟨_, MemoryTumblerStore.set_bounded clientId map s.property⟩)
  replaceCredential s oldClientId replacement _ := ((s.val.replaceCredential oldClientId replacement).1,
    ⟨_, MemoryTumblerStore.replaceCredential_bounded oldClientId replacement s.property⟩)
  list_maps _ _ := rfl
  get_maps s clientId now := by
    rcases s.val.get_cases clientId now with hsame | ⟨haged, hnone, herased⟩
    · exact .inl hsame
    · exact .inr ⟨haged, congrArg Except.ok hnone, herased⟩
  set_throws _ _ _ _ _ h := congrArg MemoryTumblerStore.maps (MemoryTumblerStore.set_error h)
  replace_fails s _ _ _ h :=
    congrArg MemoryTumblerStore.maps (MemoryTumblerStore.replaceCredential_fails s.property h)

def fileStore : TumblerMapStore FileTumblerStore FileStoreError where
  maps s := s.data.maps
  maxAgeMs s := s.maxAgeMs
  list s now := s.list now
  get s clientId now := s.get clientId now
  set s clientId map now := s.set clientId map now
  replaceCredential s oldClientId replacement now := s.replaceCredential oldClientId replacement now
  list_maps s now := congrArg (·.data.maps) (s.list_unchanged now)
  get_maps := FileTumblerStore.get_cases
  set_throws _ _ _ _ _ h := congrArg (·.data.maps) (FileTumblerStore.set_throws h)
  replace_fails _ _ _ _ h := congrArg (·.data.maps) (FileTumblerStore.replaceCredential_fails h)

end Stores

/-- A failure that is returned has an error, save that `updateKey` returns `false`. -/
inductive CallOutcome (ε : Type)
  | succeeded
  | failed (error : Option (ProvisionError ε))
  | threw (error : ProvisionError ε)
  deriving DecidableEq, Repr

variable {σ ε : Type}

def CallOutcome.ofResult : Except (ProvisionError ε) (ProvisionResult ε) → CallOutcome ε
  | .error e => .threw e
  | .ok (.failed e) => .failed (some e)
  | .ok (.ok _) => .succeeded

def CallOutcome.ofAnswer : Except (ProvisionError ε) Bool → CallOutcome ε
  | .error e => .threw e
  | .ok false => .failed none
  | .ok true => .succeeded

def TSKProvisioner.call (S : TumblerMapStore σ ε) (p : ProvisionerOptions) (s : σ) :
    ProvisionerCall → CallOutcome ε × σ
  | .provision options requestorId lifecycle listedAt now tape =>
    let (result, s) := provision S p s options requestorId lifecycle listedAt now tape
    (.ofResult result, s)
  | .replaceKey oldClientId options lifecycle requestorId reason readAt now tape =>
    let (result, s) := replaceKey S p s oldClientId options lifecycle requestorId reason readAt now tape
    (.ofResult result, s)
  | .updateKey clientId updates requestorId reason readAt now =>
    let (answer, s) := updateKey S p s clientId updates requestorId reason readAt now
    (.ofAnswer answer, s)

section Failures

variable {S : TumblerMapStore σ ε} {p : ProvisionerOptions} {s : σ}

/-- The maps are as they were, but that one which had outlived its age may be gone. -/
def TumblerMapStore.Kept (S : TumblerMapStore σ ε) (s s' : σ) (read : Option (JsString × Int)) : Prop :=
  S.maps s' = S.maps s ∨ ∃ clientId readAt map, read = some (clientId, readAt) ∧
    (S.maps s).get? clientId = some map ∧ 0 < S.maxAgeMs s ∧ S.maxAgeMs s < readAt - map.createdAt ∧
    S.maps s' = (S.maps s).erase clientId

namespace TSKProvisioner

end TSKProvisioner

end Failures

section Sample

end Sample

end TskProtocol
