import TskProtocol.Outbox.CanonicalizeLaws
import TskProtocol.Replication.Envelope
import TskProtocol.Server.StoreLaws
import TskProtocol.SourceFence.Signing

namespace TskProtocol

inductive CredentialError
  /-- `ContractValidationError` with its message. -/
  | validation (message : String)
  | unsupportedFields (name : String) (fields : List String)
  | canonicalization
  | contract (e : ContractError)
  | store (e : StoreError)
  | core (e : CoreError)
  /-- `RAISE EXCEPTION` in the database. -/
  | raised (message : String)
  | constraintViolation
  | headVerificationUnavailable
  deriving DecidableEq, Repr

namespace Credential

def MAX_MAP_BYTES : Nat := 256 * 1024

def STATUS_RANK : KeyStatus → Nat
  | .active => 0
  | .expiring => 1
  | .expired => 2
  | .revoked => 2

/-- `id`; the pattern `ID` is that of stream ids. -/
def checkId (value : JsString) (name : String) : Except CredentialError JsString := do
  require (matchesStreamId 128 value) (.validation (name ++ " invalid"))
  return value

/-- `canonicalize` -/
def canonicalText (value : Json) : Except CredentialError JsString := do
  require (value.depth ≤ CANON_MAX_DEPTH ∧ value.nodes ≤ CANON_MAX_NODES) .canonicalization
  orThrow (canonicalize value) .canonicalization

/-- What is cloned is plain data, so that the clone is the value. -/
def cloneJson (value : Json) (name : String) : Except CredentialError Unit := do
  require (value.depth ≤ 32) (.validation (name ++ " exceeds maximum depth"))
  let text ← canonicalText value
  require (text.utf8.length ≤ MAX_MAP_BYTES) (.validation (name ++ " exceeds 262144 bytes"))

def digest (D : Sha256Bytes) (value : Json) : Except CredentialError JsString := do
  let text ← canonicalText value
  return D.hex text.utf8

def safeOptionalInt (value : Option Int) (name : String) (min : Int) :
    Except CredentialError Unit :=
  require (value.all fun n => isSafeInteger n && min ≤ n) (.validation (name ++ " invalid"))

/-- What the loop over the segments carries along. -/
structure SegmentScan where
  ids : List JsString := []
  cursor : Nat := 0
  hotp : Nat := 0

/-- The members that a segment of its type does not have. -/
def extraFields (seg : SegmentConfig) : List String :=
  (if seg.type ≠ .totp ∧ seg.windowSec.isSome then ["windowSec"] else []) ++
    if seg.type ≠ .hotp ∧ seg.counter.isSome then ["counter"] else []

def validateSegment (keyLength : Nat) (scan : SegmentScan) (seg : SegmentConfig) :
    Except CredentialError SegmentScan := do
  require ((extraFields seg).isEmpty) (.unsupportedFields "credential segment" (extraFields seg))
  let segmentId ← checkId seg.segmentId "segmentId"
  require (segmentId ∉ scan.ids) (.validation "credential segment shape invalid")
  require (seg.position.1 = scan.cursor ∧ seg.position.1 < seg.position.2 ∧ seg.position.2 ≤ keyLength)
    (.validation "credential segment positions invalid")
  require (seg.type = .totp → seg.windowSec.any fun w : Nat => isSafeInteger w && 1 ≤ w)
    (.validation "TOTP window invalid")
  require (seg.type = .hotp → seg.counter.any isValidHOTPStoredCounter)
    (.validation "HOTP counter invalid")
  return {
    ids := segmentId :: scan.ids
    cursor := seg.position.2
    hotp := if seg.type = .hotp then scan.hotp + 1 else scan.hotp }

def validateSegments (keyLength : Nat) : SegmentScan → List SegmentConfig →
    Except CredentialError SegmentScan
  | scan, [] => .ok scan
  | scan, seg :: rest => do
    let scan ← validateSegment keyLength scan seg
    validateSegments keyLength scan rest

/-- A public map is one without signing material: there the empty text stands for the member that
is missing. -/
def validateMap (requireSecret : Bool) (map : TumblerMap) : Except CredentialError TumblerMap := do
  let _ ← checkId map.clientId "map.clientId"
  require (map.version = JsString.lit "1" ∧ 20 ≤ map.keyLength ∧ map.keyLength ≤ 512 ∧
    isSafeInteger map.createdAt ∧ 0 ≤ map.createdAt) (.validation "credential map core fields invalid")
  require (requireSecret → matchesHex64 map.sharedSecret)
    (.validation "credential sharedSecret must be canonical 256-bit hex")
  require (¬ requireSecret → map.sharedSecret = [])
    (.validation "public credential map contains sharedSecret")
  require (2 ≤ map.segments.length ∧ map.segments.length ≤ 9) (.validation "credential segments invalid")
  let scan ← validateSegments map.keyLength {} map.segments
  require (map.checksum = (scan.cursor, map.keyLength) ∧ 1 ≤ scan.hotp)
    (.validation "checksum or HOTP coverage invalid")
  safeOptionalInt map.expiresAt "expiresAt" 0
  safeOptionalInt map.maxRequests "maxRequests" 0
  safeOptionalInt map.rotationWarningRequests "rotationWarningRequests" 1
  safeOptionalInt map.hotpRotationWarningCounters "hotpRotationWarningCounters" 1
  safeOptionalInt (map.requestCount.map Int.ofNat) "requestCount" 0
  safeOptionalInt map.lastUsedAt.join "lastUsedAt" 0
  require (map.label.all fun label => label.length ≤ 256) (.validation "credential label invalid")
  (assertTumblerMapCounterState map).mapError .store
  return map

def statusRank (status : Option KeyStatus) : Nat := status.elim 0 STATUS_RANK

/-- `map.lastUsedAt ?? 0` -/
def lastUse (map : TumblerMap) : Int := map.lastUsedAt.join.getD 0

/-- A segment next to the one that had its id: two shapes are the same text when they are the same
frame. -/
def segmentFollows (previous : OrderedMap JsString SegmentConfig) (seg : SegmentConfig) : Bool :=
  (previous.get? seg.segmentId).any fun old =>
    old.frame = seg.frame && !(seg.type = .hotp && seg.storedCounter < old.storedCounter)

def assertMonotonicMap (current next : TumblerMap) : Except CredentialError Unit := do
  require (current.clientId = next.clientId ∧ current.sharedSecret = next.sharedSecret ∧
    current.createdAt = next.createdAt ∧ current.version = next.version)
    (.validation "credential identity or secret pivot requires governed replacement")
  let previous := OrderedMap.ofEntries (current.segments.map fun seg => (seg.segmentId, seg))
  require (previous.size = next.segments.length) (.validation "credential segment layout changed")
  require (next.segments.all (segmentFollows previous))
    (.validation "credential segment layout or counter rolled back")
  require (current.currentCount ≤ next.currentCount ∧ lastUse current ≤ lastUse next)
    (.validation "credential usage state rolled back")
  require (statusRank current.status ≤ statusRank next.status ∧
    (isTerminal current.status = true → next.status = current.status))
    (.validation "terminal credential cannot be reactivated")

/-- `/(?:secret|password|private|credential|token)/i` -/
def namesSecret (key : JsString) : Bool :=
  key.tails.any fun tail => ["secret", "password", "private", "credential", "token"].any fun word =>
    (JsString.lit word).isPrefixOf (tail.map toLowerAscii)

mutual

def containsSecret (key : JsString) : Json → Bool
  | .arr items => namesSecret key || itemsContainSecret items
  | .obj members => namesSecret key || membersContainSecret members
  | _ => namesSecret key

def itemsContainSecret : List Json → Bool
  | [] => false
  | item :: rest => containsSecret [] item || itemsContainSecret rest

def membersContainSecret : List (JsString × Json) → Bool
  | [] => false
  | (key, value) :: rest => containsSecret key value || membersContainSecret rest

end

section Map

variable {map map' current next : TumblerMap} {requireSecret : Bool} {keyLength : Nat}
  {scan scan' : SegmentScan} {seg : SegmentConfig}

theorem checkId_eq_ok {value value' : JsString} {name : String} :
    checkId value name = .ok value' ↔ matchesStreamId 128 value = true ∧ value = value' := by
  simp [checkId, bind_eq_ok]

theorem safeOptionalInt_eq_ok {value : Option Int} {name : String} {min : Int} {u : Unit} :
    safeOptionalInt value name min = .ok u ↔ ∀ n ∈ value, isSafeInteger n = true ∧ min ≤ n := by
  simp only [safeOptionalInt, require_eq_ok, Option.all_eq_true, Bool.and_eq_true, decide_eq_true_eq]
  rfl

/-- What the scan of a segment has found out. -/
structure SegmentFits (keyLength : Nat) (seg : SegmentConfig) : Prop where
  id : matchesStreamId 128 seg.segmentId = true
  position : seg.position.1 < seg.position.2 ∧ seg.position.2 ≤ keyLength
  window : ∀ w ∈ seg.windowSec, seg.type = .totp ∧ isSafeInteger w = true
  counter : ∀ c ∈ seg.counter, seg.type = .hotp ∧ isValidHOTPStoredCounter c = true

theorem extraFields_isEmpty : (extraFields seg).isEmpty = true ↔
    (∀ w ∈ seg.windowSec, seg.type = .totp) ∧ ∀ c ∈ seg.counter, seg.type = .hotp := by
  cases hw : seg.windowSec <;> cases hc : seg.counter <;> by_cases ht : seg.type = .totp <;>
    by_cases hh : seg.type = .hotp <;> simp_all [extraFields]

theorem validateSegment_ok (h : validateSegment keyLength scan seg = .ok scan') :
    SegmentFits keyLength seg ∧ seg.segmentId ∉ scan.ids ∧ scan'.ids = seg.segmentId :: scan.ids ∧
      scan'.cursor ≤ keyLength := by
  simp only [validateSegment, bind_eq_ok, require_eq_ok, checkId_eq_ok, pure_eq_ok, Except.ok.injEq,
    extraFields_isEmpty] at h
  obtain ⟨_, hextra, _, ⟨hid, rfl⟩, _, hfresh, _, hposition, _, hwindow, _, hcounter, rfl⟩ := h
  refine ⟨⟨hid, hposition.2, fun w hw => ⟨hextra.1 w hw, ?_⟩, fun c hc => ⟨hextra.2 c hc, ?_⟩⟩,
    hfresh, rfl, hposition.2.2⟩
  · have hany := hwindow (hextra.1 w hw)
    rw [Option.mem_def.mp hw, Option.any_some, Bool.and_eq_true] at hany
    exact hany.1
  · have hany := hcounter (hextra.2 c hc)
    rwa [Option.mem_def.mp hc, Option.any_some] at hany

theorem validateSegments_ok {segments : List SegmentConfig}
    (h : validateSegments keyLength scan segments = .ok scan') :
    (∀ seg ∈ segments, SegmentFits keyLength seg ∧ seg.segmentId ∉ scan.ids) ∧
      (segments.map (·.segmentId)).Nodup ∧ (segments ≠ [] → scan'.cursor ≤ keyLength) := by
  induction segments generalizing scan with
  | nil => simp
  | cons seg rest ih =>
    simp only [validateSegments, bind_eq_ok] at h
    obtain ⟨next, hseg, hrest⟩ := h
    obtain ⟨hfits, hfresh, hids, hcursor⟩ := validateSegment_ok hseg
    obtain ⟨hall, hnodup, hlast⟩ := ih hrest
    simp only [hids, List.mem_cons, not_or] at hall
    refine ⟨List.forall_mem_cons.mpr ⟨⟨hfits, hfresh⟩, fun s hs => ⟨(hall s hs).1, (hall s hs).2.2⟩⟩,
      ?_, fun _ => ?_⟩
    · rw [List.map_cons, List.nodup_cons]
      refine ⟨fun hmem => ?_, hnodup⟩
      obtain ⟨s, hs, heq⟩ := List.mem_map.mp hmem
      exact (hall s hs).2.1 heq
    · by_cases hnil : rest = []
      · subst hnil
        obtain rfl := Except.ok.inj hrest
        exact hcursor
      · exact hlast hnil

/-- What `validateMap` has found out about a map that it returns. -/
structure ValidMap (requireSecret : Bool) (map : TumblerMap) : Prop where
  clientId : matchesStreamId 128 map.clientId = true
  version : map.version = JsString.lit "1"
  keyLength : map.keyLength ≤ 512
  createdAt : isSafeInteger map.createdAt = true
  secret : requireSecret = true → matchesHex64 map.sharedSecret = true
  secretless : ¬ requireSecret = true → map.sharedSecret = []
  length : map.segments.length ≤ 9
  segments : ∀ seg ∈ map.segments, SegmentFits map.keyLength seg
  nodup : (map.segments.map (·.segmentId)).Nodup
  checksum : map.checksum.1 ≤ 512 ∧ map.checksum.2 ≤ 512
  expiresAt : ∀ n ∈ map.expiresAt, isSafeInteger n = true
  maxRequests : ∀ n ∈ map.maxRequests, isSafeInteger n = true
  rotationWarningRequests : ∀ n ∈ map.rotationWarningRequests, isSafeInteger n = true
  hotpRotationWarningCounters : ∀ n ∈ map.hotpRotationWarningCounters, isSafeInteger n = true
  requestCount : ∀ n ∈ map.requestCount, isSafeInteger n = true
  lastUsedAt : ∀ n ∈ map.lastUsedAt.join, isSafeInteger n = true ∧ 0 ≤ n
  label : ∀ label ∈ map.label, label.length ≤ 256
  counters : CounterState map

theorem validateMap_ok (h : validateMap requireSecret map = .ok map') :
    map' = map ∧ ValidMap requireSecret map := by
  simp only [validateMap, bind_eq_ok, checkId_eq_ok, require_eq_ok, safeOptionalInt_eq_ok,
    mapError_eq_ok, pure_eq_ok, Except.ok.injEq] at h
  obtain ⟨_, ⟨hid, -⟩, _, ⟨hversion, -, hlength, hcreated, -⟩, _, hsecret, _, hsecretless, _, hcount, scan,
    hscan, _, hchecksum, _, hexpires, _, hmax, _, hrotation, _, hhotp, _, hrequests, _, hlast, _, hlabel, _,
    hcounters, rfl⟩ := h
  obtain ⟨hfits, hnodup, hcursor⟩ := validateSegments_ok hscan
  have hnil : map.segments ≠ [] := List.length_pos_iff.mp (by omega)
  refine ⟨rfl, ?_⟩
  exact {
    clientId := hid
    version := hversion
    keyLength := hlength
    createdAt := hcreated
    secret := hsecret
    secretless := hsecretless
    length := hcount.2
    segments := fun seg hseg => (hfits seg hseg).1
    nodup := hnodup
    checksum := by
      rw [hchecksum.1]
      exact ⟨(hcursor hnil).trans hlength, hlength⟩
    expiresAt := fun n hn => (hexpires n hn).1
    maxRequests := fun n hn => (hmax n hn).1
    rotationWarningRequests := fun n hn => (hrotation n hn).1
    hotpRotationWarningCounters := fun n hn => (hhotp n hn).1
    requestCount := fun n hn => (hrequests n (Option.mem_map_of_mem _ hn)).1
    lastUsedAt := hlast
    label := fun label hmem => of_decide_eq_true ((Option.all_eq_true _ _).mp hlabel label hmem)
    counters := assertTumblerMapCounterState_ok_iff.mp hcounters }

end Map

section Monotonic

variable {current next later : TumblerMap} {old seg : SegmentConfig}

/-- The same segment, with a counter that has not gone back. -/
structure SegmentFollows (old seg : SegmentConfig) : Prop where
  frame : old.frame = seg.frame
  counter : seg.type = .hotp → old.storedCounter ≤ seg.storedCounter

/-- The map of a credential at a later time, but for the time of its last use. -/
structure Succeeds (current next : TumblerMap) : Prop where
  clientId : current.clientId = next.clientId
  sharedSecret : current.sharedSecret = next.sharedSecret
  createdAt : current.createdAt = next.createdAt
  version : current.version = next.version
  length : current.segments.length = next.segments.length
  segments : ∀ seg ∈ next.segments, ∃ old ∈ current.segments, SegmentFollows old seg
  count : current.currentCount ≤ next.currentCount
  rank : statusRank current.status ≤ statusRank next.status
  terminal : isTerminal current.status = true → next.status = current.status

theorem type_of_frame (h : old.frame = seg.frame) : old.type = seg.type := by
  have htype := congrArg SegmentConfig.type h
  exact htype

theorem segmentId_of_frame (h : old.frame = seg.frame) : old.segmentId = seg.segmentId := by
  have hid := congrArg SegmentConfig.segmentId h
  exact hid

theorem SegmentFollows.refl (seg : SegmentConfig) : SegmentFollows seg seg := ⟨rfl, fun _ => le_rfl⟩

theorem SegmentFollows.trans {a b c : SegmentConfig} (h : SegmentFollows a b) (k : SegmentFollows b c) :
    SegmentFollows a c where
  frame := h.frame.trans k.frame
  counter ht := (h.counter ((type_of_frame k.frame).trans ht)).trans (k.counter ht)

theorem Succeeds.refl (map : TumblerMap) : Succeeds map map where
  clientId := rfl
  sharedSecret := rfl
  createdAt := rfl
  version := rfl
  length := rfl
  segments seg hseg := ⟨seg, hseg, .refl seg⟩
  count := le_rfl
  rank := le_rfl
  terminal _ := rfl

theorem Succeeds.trans (h : Succeeds current next) (k : Succeeds next later) : Succeeds current later where
  clientId := h.clientId.trans k.clientId
  sharedSecret := h.sharedSecret.trans k.sharedSecret
  createdAt := h.createdAt.trans k.createdAt
  version := h.version.trans k.version
  length := h.length.trans k.length
  segments seg hseg := by
    obtain ⟨mid, hmid, hfollows⟩ := k.segments seg hseg
    obtain ⟨old, hold, hfirst⟩ := h.segments mid hmid
    exact ⟨old, hold, hfirst.trans hfollows⟩
  count := h.count.trans k.count
  rank := h.rank.trans k.rank
  terminal ht := by
    have hnext := h.terminal ht
    exact (k.terminal (hnext ▸ ht)).trans hnext

/-- Segments that have kept their places. -/
theorem Succeeds.of_segments {segments : List SegmentConfig} {count : Option Nat}
    {lastUsedAt : Option (Option Int)} {status : Option KeyStatus}
    (hsegments : List.Forall₂ SegmentFollows current.segments segments)
    (hcount : current.currentCount ≤ count.getD 0)
    (hrank : statusRank current.status ≤ statusRank status)
    (hterminal : isTerminal current.status = true → status = current.status) :
    Succeeds current { current with
      segments := segments
      requestCount := count
      lastUsedAt := lastUsedAt
      status := status } where
  clientId := rfl
  sharedSecret := rfl
  createdAt := rfl
  version := rfl
  length := hsegments.length_eq
  segments seg hseg := by
    obtain ⟨i, hi, rfl⟩ := List.mem_iff_getElem.mp hseg
    have hi' : i < current.segments.length := by rw [hsegments.length_eq]; exact hi
    exact ⟨_, List.getElem_mem hi', (List.forall₂_iff_get.mp hsegments).2 i hi' hi⟩
  count := hcount
  rank := hrank
  terminal := hterminal

theorem entries_previous {segments : List SegmentConfig} (hnodup : (segments.map (·.segmentId)).Nodup) :
    (OrderedMap.ofEntries (segments.map fun seg => (seg.segmentId, seg))).entries =
      segments.map fun seg => (seg.segmentId, seg) := by
  refine OrderedMap.entries_insertAll (m := ∅) ?_
  simpa [EmptyCollection.emptyCollection, Function.comp_def] using hnodup

theorem segmentFollows_iff {segments : List SegmentConfig} (hnodup : (segments.map (·.segmentId)).Nodup) :
    segmentFollows (.ofEntries (segments.map fun seg => (seg.segmentId, seg))) seg = true ↔
      ∃ old ∈ segments, SegmentFollows old seg := by
  simp only [segmentFollows, Option.any_eq_true, OrderedMap.get?_eq_some, entries_previous hnodup, List.mem_map,
    Prod.mk.injEq, Bool.and_eq_true, decide_eq_true_eq, Bool.not_eq_true', Bool.and_eq_false_iff,
    decide_eq_false_iff_not, not_lt]
  constructor
  · rintro ⟨_, ⟨old, hold, -, rfl⟩, hframe, hcounter⟩
    exact ⟨old, hold, hframe, fun ht => hcounter.resolve_left (not_not_intro ht)⟩
  · rintro ⟨old, hold, hframe, hcounter⟩
    exact ⟨old, ⟨old, hold, segmentId_of_frame hframe, rfl⟩, hframe, not_or_of_imp hcounter⟩

/-- The monotone check lets exactly the later maps of a credential pass, if they were not used
earlier. -/
theorem assertMonotonicMap_eq_ok {u : Unit} (hnodup : (current.segments.map (·.segmentId)).Nodup) :
    assertMonotonicMap current next = .ok u ↔ Succeeds current next ∧ lastUse current ≤ lastUse next := by
  have hsize : (OrderedMap.ofEntries (current.segments.map fun seg => (seg.segmentId, seg))).size =
      current.segments.length := by
    rw [OrderedMap.size, entries_previous hnodup, List.length_map]
  simp only [assertMonotonicMap, bind_eq_ok, require_eq_ok, exists_const, List.all_eq_true,
    segmentFollows_iff hnodup, hsize]
  constructor
  · rintro ⟨⟨hid, hsecret, hcreated, hversion⟩, hlength, hsegments, ⟨hcount, hlast⟩, hrank, hterminal⟩
    exact ⟨⟨hid, hsecret, hcreated, hversion, hlength, hsegments, hcount, hrank, hterminal⟩, hlast⟩
  · rintro ⟨h, hlast⟩
    exact ⟨⟨h.clientId, h.sharedSecret, h.createdAt, h.version⟩, h.length, h.segments, ⟨h.count, hlast⟩,
      h.rank, h.terminal⟩

end Monotonic

end Credential

end TskProtocol
