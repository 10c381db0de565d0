import TskProtocol.Core.Crypto
import TskProtocol.Server.MutationLaws

namespace TskProtocol

inductive FileStoreError
  | clientIdInvalid | corrupt | invalidData (label : String) | capacityReached
  | clientMissing | clientExpired
  | store (e : StoreError)
  deriving DecidableEq, Repr

def natural (n : Int) : Bool := isSafeInteger n && 0 ≤ n

def validClientId (id : JsString) : Bool :=
  0 < id.length && id.length ≤ 128 && id ≠ JsString.lit "__proto__" &&
    id ≠ JsString.lit "constructor" && id ≠ JsString.lit "prototype"

/-- The loop over the segments; `ids` holds those of the earlier rounds, and the last cursor is
returned. -/
def validateSegments (keyLength : Nat) :
    Nat → List JsString → List SegmentConfig → Except FileStoreError Nat
  | cursor, _, [] => .ok cursor
  | cursor, ids, seg :: rest => do
    require (seg.segmentId ≠ [] ∧ seg.segmentId ∉ ids ∧ natural seg.position.1 ∧
      natural seg.position.2 ∧ seg.position.1 = cursor ∧ cursor < seg.position.2 ∧
      seg.position.2 ≤ keyLength) (.invalidData "segment")
    require (seg.type = .hotp → seg.counter.any natural) (.invalidData "counter")
    require (seg.type = .totp → seg.windowSec.any (fun w => natural w && w ≠ 0))
      (.invalidData "window")
    validateSegments keyLength seg.position.2 (seg.segmentId :: ids) rest

/-- The lifecycle fields of a map, each of them optional. -/
def validateLifecycle (map : TumblerMap) : Except FileStoreError Unit := do
  require (map.expiresAt.all natural ∧ map.requestCount.all (fun n => natural n) ∧
    map.maxRequests.all natural ∧ map.rotationWarningRequests.all natural)
    (.invalidData "lifecycle number")
  require (map.lastUsedAt.all (fun t => t.all natural)) (.invalidData "last use")

/-- The checks of one map of the file. -/
def validateStoredMap (id : JsString) (map : TumblerMap) : Except FileStoreError Unit := do
  require (validClientId id ∧ map.clientId = id ∧ map.version = JsString.lit "1" ∧
    map.sharedSecret.length = 64 ∧ map.sharedSecret.all isHexDigit ∧ natural map.createdAt ∧
    natural map.keyLength ∧ 20 ≤ map.keyLength ∧ map.keyLength ≤ 512 ∧ map.segments ≠ [])
    (.invalidData "map")
  (assertTumblerMapCounterState map).mapError .store
  let cursor ← validateSegments map.keyLength 0 [] map.segments
  require (map.checksum.1 = cursor ∧ map.checksum.2 = map.keyLength ∧ cursor < map.keyLength)
    (.invalidData "checksum")
  validateLifecycle map

/-- The contents of the file.  The order in which a record lists its keys is left open. -/
structure FileTumblerData where
  maps : OrderedMap JsString TumblerMap := ∅
  lastAccess : OrderedMap JsString Int := ∅

def validateEntries (lastAccess : OrderedMap JsString Int) :
    List (JsString × TumblerMap) → Except FileStoreError Unit
  | [] => .ok ()
  | (id, map) :: rest => do
    validateStoredMap id map
    require ((lastAccess.get? id).any natural) (.invalidData "access time")
    validateEntries lastAccess rest

def validateFileData (data : FileTumblerData) : Except FileStoreError Unit := do
  validateEntries data.lastAccess data.maps.entries
  require (∀ entry ∈ data.lastAccess.entries, data.maps.has entry.1 = true ∧ natural entry.2 = true)
    (.invalidData "access entry")

namespace FileTumblerData

/-- `candidate.maps[clientId] = map`, with the access time when one is written too. -/
def put (data : FileTumblerData) (clientId : JsString) (map : TumblerMap) : FileTumblerData :=
  { data with maps := data.maps.set clientId map }

def touch (data : FileTumblerData) (clientId : JsString) (now : Int) : FileTumblerData :=
  { data with lastAccess := data.lastAccess.set clientId now }

def drop (data : FileTumblerData) (clientId : JsString) : FileTumblerData where
  maps := data.maps.erase clientId
  lastAccess := data.lastAccess.erase clientId

end FileTumblerData

/-- What is published is validated first. -/
def flush (candidate : FileTumblerData) : Except FileStoreError FileTumblerData := do
  validateFileData candidate
  return candidate

structure FileTumblerStore where
  /-- What the file holds: every operation reads it anew. -/
  data : FileTumblerData := {}
  maxEntries : Nat
  maxAgeMs : Int

namespace FileTumblerStore

def expired (store : FileTumblerStore) (now : Int) (map : TumblerMap) : Bool :=
  0 < store.maxAgeMs && now - map.createdAt > store.maxAgeMs

/-- An operation under the lock of the file, behind the checks that are made before it is taken.
A throw publishes nothing. -/
def transaction {α : Type} (store : FileTumblerStore) (checks : Except FileStoreError Unit)
    (operation : FileTumblerData → Except FileStoreError (α × FileTumblerData)) :
    Except FileStoreError α × FileTumblerStore :=
  match checks with
  | .error e => (.error e, store)
  | .ok () =>
    match validateFileData store.data with
    | .error _ => (.error .corrupt, store)
    | .ok () =>
      match operation store.data with
      | .error e => (.error e, store)
      | .ok (a, data) => (.ok a, { store with data := data })

def requireClientId (id : JsString) : Except FileStoreError Unit :=
  require (validClientId id) .clientIdInvalid

def set (store : FileTumblerStore) (clientId : JsString) (map : TumblerMap) (now : Int) :
    Except FileStoreError Unit × FileTumblerStore :=
  store.transaction (do requireClientId clientId; (assertTumblerMapCounterState map).mapError .store)
    fun data => do
      require (data.maps.has clientId ∨ data.maps.size < store.maxEntries) .capacityReached
      let published ← flush ((data.put clientId map).touch clientId now)
      return ((), published)

/-- The access time is not written back to the file. -/
def get (store : FileTumblerStore) (clientId : JsString) (now : Int) :
    Except FileStoreError (Option TumblerMap) × FileTumblerStore :=
  store.transaction (requireClientId clientId) fun data =>
    match data.maps.get? clientId with
    | none => .ok (none, data)
    | some map =>
      if store.expired now map then do
        let published ← flush (data.drop clientId)
        return (none, published)
      else .ok (some map, data)

def delete (store : FileTumblerStore) (clientId : JsString) :
    Except FileStoreError Unit × FileTumblerStore :=
  store.transaction (requireClientId clientId) fun data => do
    let published ← flush (data.drop clientId)
    return ((), published)

def list (store : FileTumblerStore) (now : Int) :
    Except FileStoreError (List JsString) × FileTumblerStore :=
  store.transaction (.ok ()) fun data => .ok
    ((data.maps.entries.filter (fun entry => !store.expired now entry.2)).map Prod.fst, data)

/-- The counters of the map are checked and written as in the memory store. -/
def updateCounters (store : FileTumblerStore) (clientId : JsString)
    (updates : OrderedMap JsString Int) (now : Int) : Except FileStoreError Unit × FileTumblerStore :=
  store.transaction (requireClientId clientId) fun data => do
    let map ← orThrow (data.maps.get? clientId) .clientMissing
    require (¬ store.expired now map) .clientExpired
    let (outcome, written) := MemoryTumblerStore.updateMap updates map
    outcome.mapError .store
    let published ← flush (data.put clientId written)
    return ((), published)

def consumeCounter (store : FileTumblerStore) (clientId segmentId : JsString) (matchedCounter now : Int) :
    Except FileStoreError Bool × FileTumblerStore :=
  store.transaction (requireClientId clientId) fun data =>
    match data.maps.get? clientId with
    | none => .ok (false, data)
    | some map =>
      if store.expired now map then .ok (false, data)
      else match map.segments.find? (fun seg => seg.segmentId = segmentId) with
        | none => .ok (false, data)
        | some seg =>
          if seg.type ≠ .hotp then .ok (false, data)
          else if isUsableHOTPDerivationCounter seg.storedCounter = false ∨
              isUsableHOTPDerivationCounter matchedCounter = false then do
            let published ← flush (data.put clientId
              (if seg.storedCounter = TSK_MAX_HOTP_COUNTER then map.expire else map))
            return (false, published)
          else if seg.storedCounter > matchedCounter then .ok (false, data)
          else do
            let (outcome, written) := MemoryTumblerStore.reconcileMap { map with
              segments := MemoryTumblerStore.setFirstCounter segmentId (matchedCounter + 1) map.segments }
            outcome.mapError .store
            let published ← flush (data.put clientId written)
            return (true, published)

def commitValidation (store : FileTumblerStore) (clientId : JsString) (input : ValidationCommitInput)
    (now : Int) : Except FileStoreError ValidationCommitResult × FileTumblerStore :=
  store.transaction (requireClientId clientId) fun data =>
    match data.maps.get? clientId with
    | none => .ok (.fail .keyExpired, data)
    | some map =>
      if store.expired now map then .ok (.fail .keyExpired, data)
      else do
        let (outcome, written) := commitValidationToMap map input
        let result ← outcome.mapError (fun e => .store (.core e))
        let published ← flush (data.put clientId written)
        return (result, published)

def replaceCredential (store : FileTumblerStore) (oldClientId : JsString) (replacement : TumblerMap)
    (now : Int) : Except FileStoreError Bool × FileTumblerStore :=
  store.transaction
    (do requireClientId oldClientId
        requireClientId replacement.clientId
        (assertTumblerMapCounterState replacement).mapError .store)
    fun data =>
      match data.maps.get? oldClientId with
      | none => .ok (false, data)
      | some current =>
        if store.expired now current ∨ isTerminal current.status then .ok (false, data)
        else if data.maps.has replacement.clientId then .ok (false, data)
        else do
          let revoked := data.put oldClientId { current with status := some .revoked }
          let bounded := if store.maxEntries ≤ revoked.maps.size then revoked.drop oldClientId
            else revoked.touch oldClientId now
          let published ← flush
            ((bounded.put replacement.clientId replacement).touch replacement.clientId now)
          return (true, published)

end FileTumblerStore

end TskProtocol
