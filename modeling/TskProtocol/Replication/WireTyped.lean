import TskProtocol.Replication.Ingest
import TskProtocol.Replication.WireChecks

namespace TskProtocol

namespace PlainValue

/-- An optional member in memory. -/
def ofOption (value : Option PlainValue) : PlainValue := value.getD .undefined

theorem toJson_ofOption {α : Type} (value : Option α) {f : α → PlainValue} {g : α → Json}
    (h : ∀ a, (f a).toJson = some (g a)) : (ofOption (value.map f)).toJson = value.map g := by
  cases value with
  | none => rfl
  | some a => exact h a

theorem distinct_ofOption {α : Type} (value : Option α) {f : α → PlainValue} (h : ∀ a, (f a).Distinct) :
    (ofOption (value.map f)).Distinct := by
  cases value with
  | none => trivial
  | some a => exact h a

def ofPosition (position : Nat × Nat) : PlainValue :=
  .arr [.num (.int position.1), .num (.int position.2)]

/-- The members of a segment; those that are not set are `undefined`. -/
def ofSegment (seg : SegmentConfig) : PlainValue := .obj [
  (JsString.lit "segmentId", .str seg.segmentId),
  (JsString.lit "position", ofPosition seg.position),
  (JsString.lit "type", ofJson (Json.ofSegmentType seg.type)),
  (JsString.lit "windowSec", ofOption (seg.windowSec.map fun n : Nat => .num (.int n))),
  (JsString.lit "counter", ofOption (seg.counter.map fun n => .num (.int n)))]

def ofSegments : List SegmentConfig → List PlainValue
  | [] => []
  | seg :: rest => ofSegment seg :: ofSegments rest

theorem itemsToJson_ofSegments (segments : List SegmentConfig) :
    itemsToJson (ofSegments segments) = segments.map Json.ofSegment := by
  induction segments with
  | nil => rfl
  | cons seg rest ih =>
    obtain ⟨segmentId, position, type, windowSec, counter⟩ := seg
    rw [ofSegments, itemsToJson, ih, List.map_cons]
    congr 1
    cases windowSec <;> cases counter <;> cases type <;> rfl

theorem allDistinct_ofSegments (segments : List SegmentConfig) : AllDistinct (ofSegments segments) := by
  have hkeys : [JsString.lit "segmentId", JsString.lit "position", JsString.lit "type",
    JsString.lit "windowSec", JsString.lit "counter"].Nodup := by decide
  induction segments with
  | nil => trivial
  | cons seg rest ih =>
    obtain ⟨segmentId, position, type, windowSec, counter⟩ := seg
    refine ⟨⟨hkeys, trivial, ⟨trivial, trivial, trivial⟩, ?_, ?_, ?_, trivial⟩, ih⟩
    · cases type <;> trivial
    · cases windowSec <;> trivial
    · cases counter <;> trivial

end PlainValue

/-- A map in memory. -/
def TumblerMap.plain (map : TumblerMap) : PlainRecord where
  members := [
    (JsString.lit "clientId", .str map.clientId),
    (JsString.lit "sharedSecret", .str map.sharedSecret),
    (JsString.lit "keyLength", .num (.int map.keyLength)),
    (JsString.lit "segments", .arr (PlainValue.ofSegments map.segments)),
    (JsString.lit "checksum", .obj [(JsString.lit "position", PlainValue.ofPosition map.checksum)]),
    (JsString.lit "createdAt", .num (.int map.createdAt)),
    (JsString.lit "version", .str map.version),
    (JsString.lit "label", .ofOption (map.label.map .str)),
    (JsString.lit "expiresAt", .ofOption (map.expiresAt.map fun n => .num (.int n))),
    (JsString.lit "maxRequests", .ofOption (map.maxRequests.map fun n => .num (.int n))),
    (JsString.lit "rotationWarningRequests",
      .ofOption (map.rotationWarningRequests.map fun n => .num (.int n))),
    (JsString.lit "hotpRotationWarningCounters",
      .ofOption (map.hotpRotationWarningCounters.map fun n => .num (.int n))),
    (JsString.lit "requestCount", .ofOption (map.requestCount.map fun n : Nat => .num (.int n))),
    (JsString.lit "lastUsedAt",
      .ofOption (map.lastUsedAt.map fun t => t.elim .null fun n => .num (.int n))),
    (JsString.lit "status", .ofOption (map.status.map fun s => .ofJson (Json.ofKeyStatus s)))]
  distinct := by
    have hkeys : [JsString.lit "clientId", JsString.lit "sharedSecret", JsString.lit "keyLength",
      JsString.lit "segments", JsString.lit "checksum", JsString.lit "createdAt", JsString.lit "version",
      JsString.lit "label", JsString.lit "expiresAt", JsString.lit "maxRequests",
      JsString.lit "rotationWarningRequests", JsString.lit "hotpRotationWarningCounters",
      JsString.lit "requestCount", JsString.lit "lastUsedAt", JsString.lit "status"].Nodup := by decide
    have hchecksum : [JsString.lit "position"].Nodup := by decide
    refine ⟨hkeys, trivial, trivial, trivial, PlainValue.allDistinct_ofSegments _,
      ⟨hchecksum, ⟨trivial, trivial, trivial⟩, trivial⟩, trivial, trivial, ?_, ?_, ?_, ?_, ?_, ?_, ?_, ?_,
      trivial⟩
    · exact PlainValue.distinct_ofOption _ fun _ => trivial
    · exact PlainValue.distinct_ofOption _ fun _ => trivial
    · exact PlainValue.distinct_ofOption _ fun _ => trivial
    · exact PlainValue.distinct_ofOption _ fun _ => trivial
    · exact PlainValue.distinct_ofOption _ fun _ => trivial
    · exact PlainValue.distinct_ofOption _ fun _ => trivial
    · exact PlainValue.distinct_ofOption _ fun t => by cases t <;> trivial
    · exact PlainValue.distinct_ofOption _ fun s => by cases s <;> trivial

theorem TumblerMap.toJson_plain (map : TumblerMap) :
    (PlainValue.obj map.plain.members).toJson = some (Json.ofMap map) := by
  simp only [TumblerMap.plain, PlainValue.toJson, PlainValue.membersToJson,
    PlainValue.itemsToJson_ofSegments]
  rw [PlainValue.toJson_ofOption map.label (g := .str) fun _ => rfl,
    PlainValue.toJson_ofOption map.expiresAt (g := .num) fun _ => rfl,
    PlainValue.toJson_ofOption map.maxRequests (g := .num) fun _ => rfl,
    PlainValue.toJson_ofOption map.rotationWarningRequests (g := .num) fun _ => rfl,
    PlainValue.toJson_ofOption map.hotpRotationWarningCounters (g := .num) fun _ => rfl,
    PlainValue.toJson_ofOption map.requestCount (g := fun n : Nat => .num n) fun _ => rfl,
    PlainValue.toJson_ofOption map.lastUsedAt (g := fun t => t.elim .null .num) fun t => by cases t <;> rfl,
    PlainValue.toJson_ofOption map.status (g := Json.ofKeyStatus) fun s => by cases s <;> rfl]
  simp [Json.ofMap, Json.optional, PlainValue.ofPosition, PlainNumber.toJson, Json.ofPosition,
    PlainValue.itemsToJson, PlainValue.toJson]
  cases map.requestCount <;> rfl

namespace TumblerReplicaMutation

/-- A mutation in memory. -/
def plain : TumblerReplicaMutation → PlainMutation
  | .set clientId map secretSealed => .set clientId map.plain secretSealed
  | .delete clientId => .delete clientId
  | .updateCounters clientId updates => .updateCounters clientId (updates.map fun u => (u.1, .int u.2))
  | .consumeCounter clientId segmentId matchedCounter =>
    .consumeCounter clientId segmentId (.int matchedCounter)

theorem itemsToJson_updates (updates : List (JsString × Int)) :
    PlainValue.itemsToJson ((updates.map fun u => (u.1, PlainNumber.int u.2)).map
      fun u => .arr [.str u.1, .num u.2]) = updates.map fun u => .arr [.str u.1, .num u.2] := by
  induction updates with
  | nil => rfl
  | cons u updates ih =>
    simp only [List.map_cons, PlainValue.itemsToJson, ih]
    rfl

theorem json_plain (mutation : TumblerReplicaMutation) : mutation.plain.json = Json.ofMutation mutation := by
  cases mutation with
  | set clientId map secretSealed =>
    have hmap : Json.obj (PlainValue.membersToJson map.plain.members) = Json.ofMap map :=
      Option.some.inj map.toJson_plain
    simp only [PlainMutation.json, plain, PlainMutation.value, PlainValue.toJson, PlainValue.membersToJson,
      hmap]
    rfl
  | updateCounters clientId updates =>
    simp only [PlainMutation.json, plain, PlainMutation.value, PlainValue.toJson, PlainValue.membersToJson,
      itemsToJson_updates]
    rfl
  | _ => rfl

end TumblerReplicaMutation

/-- The operations that the source makes of its mutations are those that are enqueued in memory. -/
theorem ReplicationCheckpoint.enqueue_plain (D : Sha256) (checkpoint : ReplicationCheckpoint)
    (mutation : TumblerReplicaMutation) :
    (checkpoint.enqueue D mutation.plain).checkpoint = (checkpoint.link D mutation).checkpoint := by
  have hhash : replicationHashOf D (hashInput checkpoint.streamId checkpoint.epoch
      (checkpoint.sequence + 1) checkpoint.headHash mutation.plain.value) =
      computeReplicationHash D checkpoint.streamId checkpoint.epoch (checkpoint.sequence + 1)
        checkpoint.headHash mutation := by
    rw [replicationHashOf, PlainValue.canonical_eq, toJson_hashInput, mutation.json_plain]
    rfl
  rw [ReplicationCheckpoint.enqueue, hhash]
  rfl

/-- And so are their envelopes. -/
theorem ofEnvelope_eq_json (H : HmacSha256) (D : Sha256) (token : ReplicaToken)
    (checkpoint : ReplicationCheckpoint) (mutation : TumblerReplicaMutation) (sentAt : Int) :
    Json.ofEnvelope (signReplicaEnvelope H token (checkpoint.link D mutation) sentAt) =
      (checkpoint.enqueue D mutation.plain).json H token (.int sentAt) := by
  have hunsigned : (checkpoint.enqueue D mutation.plain).unsignedJson (.int sentAt) =
      unsignedEnvelope (checkpoint.link D mutation) sentAt := by
    rw [PlainReplicaOp.unsignedJson, checkpoint.enqueue_plain]
    change [_, _, _, _, _, _, (_, mutation.plain.json)] = _
    rw [mutation.json_plain]
    rfl
  rw [PlainReplicaOp.json, PlainReplicaOp.signature_eq, hunsigned]
  rfl

namespace Json

theorem field_nil (key : String) : (obj []).field key = none := rfl

theorem field_cons (name : JsString) (value : Json) (members : List (JsString × Json)) (key : String) :
    (obj ((name, value) :: members)).field key =
      if name = JsString.lit key then some value else (obj members).field key := by
  by_cases h : name = JsString.lit key <;> simp [field, h]

theorem field_append (members members' : List (JsString × Json)) (key : String) :
    (obj (members ++ members')).field key = ((obj members).field key).or ((obj members').field key) := by
  simp only [field, List.find?_append]
  cases members.find? _ <;> rfl

theorem field_optional (name key : String) (value : Option Json) :
    (obj (optional name value)).field key =
      if JsString.lit name = JsString.lit key then value else none := by
  cases value with
  | none => simp [field, optional]
  | some value => by_cases h : JsString.lit name = JsString.lit key <;> simp [field, optional, h]

section Segment

variable (seg : SegmentConfig)

theorem position?_ofSegment :
    (ofSegment seg).position? = some ((seg.position.1 : Int), (seg.position.2 : Int)) := rfl

theorem segmentType?_ofSegment : (ofSegment seg).segmentType? = some seg.type := by
  obtain ⟨segmentId, position, type, windowSec, counter⟩ := seg
  cases type <;> rfl

theorem numberOrZero_ofSegment : (ofSegment seg).numberOrZero "counter" = some seg.storedCounter := by
  have hfield : (ofSegment seg).field "counter" = seg.counter.map .num := by
    simp +decide [ofSegment, field_cons, field_append, field_optional]
  rw [numberOrZero, hfield, SegmentConfig.storedCounter]
  cases seg.counter <;> rfl

theorem windowSec_ofSegment (passes : Int → Bool) : ((ofSegment seg).numField "windowSec").any passes =
    seg.windowSec.any fun w => passes w := by
  have hfield : (ofSegment seg).field "windowSec" = seg.windowSec.map fun w : Nat => .num w := by
    simp +decide [ofSegment, field_cons, field_append, field_optional]
    cases seg.windowSec <;> rfl
  rw [numField, hfield]
  cases seg.windowSec <;> rfl

end Segment

end Json

/-- The loop body is the same for a segment that has been read. -/
theorem visitBody_ofSegment (scan : MapScan) (keyLength : Nat) (seg : SegmentConfig) :
    scan.visitBody keyLength (Json.ofSegment seg) = scan.visit keyLength seg := by
  have hid : (Json.ofSegment seg).strField "segmentId" = some seg.segmentId := rfl
  simp only [MapScan.visitBody, MapScan.visit, hid, Json.position?_ofSegment, Json.segmentType?_ofSegment,
    Json.numberOrZero_ofSegment, Json.windowSec_ofSegment, Option.bind_eq_bind, Option.bind_some,
    Option.any_some, ne_eq, Int.natCast_inj, Int.ofNat_le, Int.ofNat_lt, Int.toNat_natCast,
    Option.some.injEq]

theorem visitBodies_ofSegment (scan : MapScan) (keyLength : Nat) (segments : List SegmentConfig) :
    scan.visitBodies keyLength (segments.map Json.ofSegment) = scan.visitAll keyLength segments := by
  induction segments generalizing scan with
  | nil => rfl
  | cons seg rest ih =>
    rw [List.map_cons, MapScan.visitBodies, MapScan.visitAll, visitBody_ofSegment]
    congr 1
    funext scan
    exact ih scan

section Map

variable (map : TumblerMap)

theorem numberIfPresent_requestCount (passes : Int → Bool) :
    (Json.ofMap map).numberIfPresent "requestCount" passes =
      map.requestCount.all fun n : Nat => passes n := by
  have hfield : (Json.ofMap map).field "requestCount" = map.requestCount.map fun n : Nat => .num n := by
    simp +decide [Json.ofMap, Json.field_cons, Json.field_append, Json.field_optional]
    cases map.requestCount <;> rfl
  rw [Json.numberIfPresent, hfield]
  cases map.requestCount <;> rfl

/-- An optional number of a map. -/
theorem numberIfPresent_num {key : String} {value : Option Int} (passes : Int → Bool)
    (h : (Json.ofMap map).field key = value.map .num) :
    (Json.ofMap map).numberIfPresent key passes = value.all passes := by
  rw [Json.numberIfPresent, h]
  cases value <;> rfl

theorem field_maxRequests : (Json.ofMap map).field "maxRequests" = map.maxRequests.map .num := by
  simp +decide [Json.ofMap, Json.field_cons, Json.field_append, Json.field_optional]

theorem field_hotpRotationWarningCounters : (Json.ofMap map).field "hotpRotationWarningCounters" =
    map.hotpRotationWarningCounters.map .num := by
  simp +decide [Json.ofMap, Json.field_cons, Json.field_append, Json.field_optional]

theorem field_expiresAt : (Json.ofMap map).field "expiresAt" = map.expiresAt.map .num := by
  simp +decide [Json.ofMap, Json.field_cons, Json.field_append, Json.field_optional]

theorem field_status : (Json.ofMap map).field "status" = map.status.map Json.ofKeyStatus := by
  simp +decide [Json.ofMap, Json.field_cons, Json.field_append, Json.field_optional]

theorem validStatus_ofMap : validStatus (Json.ofMap map) = true := by
  rw [validStatus, field_status]
  cases map.status with
  | none => rfl
  | some status => cases status <;> decide

theorem terminalStatus_ofMap : terminalStatus (Json.ofMap map) = isTerminal map.status := by
  rw [terminalStatus, Json.strField, field_status]
  cases map.status with
  | none => decide
  | some status => cases status <;> decide

/-- The check of a map is the same for a map that has been read. -/
theorem validateMapBody_ofMap (clientId : JsString) (secretSealed : Bool) :
    validateMapBody (Json.ofMap map) clientId secretSealed = validateMap map clientId secretSealed := by
  have hobject : (Json.ofMap map).typeofObject = true := rfl
  have hclientId : (Json.ofMap map).strField "clientId" = some map.clientId := rfl
  have hversion : (Json.ofMap map).strField "version" = some map.version := rfl
  have hcreatedAt : (Json.ofMap map).numField "createdAt" = some map.createdAt := rfl
  have hsecret : (Json.ofMap map).strField "sharedSecret" = some map.sharedSecret := rfl
  have hkeyLength : (Json.ofMap map).numField "keyLength" = some (map.keyLength : Int) := rfl
  have hsegments : ((Json.ofMap map).field "segments").bind Json.asItems =
    some (map.segments.map Json.ofSegment) := rfl
  have hchecksum : ((Json.ofMap map).field "checksum").bind Json.position? =
    some ((map.checksum.1 : Int), (map.checksum.2 : Int)) := rfl
  have hlow : decide ((20 : Int) ≤ map.keyLength) = decide (20 ≤ map.keyLength) := by
    rw [decide_eq_decide]
    omega
  have hhigh : decide ((map.keyLength : Int) ≤ 512) = decide (map.keyLength ≤ 512) := by
    rw [decide_eq_decide]
    omega
  simp only [validateMapBody, hobject, hclientId, hversion, hcreatedAt, hsecret, hkeyLength, hsegments,
    hchecksum, Option.any_some, Option.isSome_some, Option.getD_some, visitBodies_ofSegment,
    numberIfPresent_requestCount, numberIfPresent_num map _ (field_maxRequests map),
    numberIfPresent_num map _ (field_hotpRotationWarningCounters map),
    numberIfPresent_num map _ (field_expiresAt map), validStatus_ofMap, terminalStatus_ofMap,
    List.length_map, hlow, hhigh, Option.some.injEq, Int.natCast_inj, Bool.true_and, Bool.and_true,
    Bool.and_assoc, validateMap]
  cases map.requestCount <;> rfl

end Map

theorem updates_ofMutation (updates : List (JsString × Int)) :
    (updates.map fun u => Json.arr [.str u.1, .num u.2]).all validUpdateEntry =
      updates.all fun u => isValidId u.1 MAX_SEGMENT_ID_LEN && isValidHOTPStoredCounter u.2 := by
  rw [List.all_map]
  rfl

theorem validateMutationBody_ofMutation (mutation : TumblerReplicaMutation) :
    validateMutationBody (some (Json.ofMutation mutation)) =
      (validateMutation mutation).map fun _ => Json.ofMutation mutation := by
  have hobject : (Json.ofMutation mutation).typeofObject = true := by cases mutation <;> rfl
  rw [validateMutationBody, Option.filter_some_pos hobject]
  cases mutation with
  | set clientId map secretSealed =>
    have hop : (Json.ofMutation (.set clientId map secretSealed)).strField "op" =
      some (JsString.lit "set") := rfl
    have hid : (Json.ofMutation (.set clientId map secretSealed)).strField "clientId" = some clientId := rfl
    have hmap : (Json.ofMutation (.set clientId map secretSealed)).field "map" = some (Json.ofMap map) := rfl
    have hsealed : (Json.ofMutation (.set clientId map secretSealed)).field "secretSealed" =
      some (.bool secretSealed) := rfl
    simp only [orThrow, bind_ok, hop, if_true, hid, hmap, hsealed, validateMutation, Option.filter_some]
    by_cases hvalid : isValidId clientId MAX_CLIENT_ID_LEN = true
    · by_cases hvalidMap : validateMap map clientId secretSealed = true
      · simp [hvalid, validateMapBody_ofMap, hvalidMap, require, Except.map, Json.ofMutation]
      · simp [hvalid, validateMapBody_ofMap, hvalidMap, require, Except.map, throw, throwThe, MonadExceptOf.throw]
    · simp [hvalid, Except.map, throw, throwThe, MonadExceptOf.throw]
  | delete clientId =>
    have hop : (Json.ofMutation (.delete clientId)).strField "op" = some (JsString.lit "delete") := rfl
    have hid : (Json.ofMutation (.delete clientId)).strField "clientId" = some clientId := rfl
    simp only [orThrow, bind_ok, hop, hid, validateMutation, Option.filter_some]
    rw [if_neg (by decide), if_pos trivial]
    by_cases hvalid : isValidId clientId MAX_CLIENT_ID_LEN = true
    · simp [hvalid, Except.map, Json.ofMutation]
    · simp [hvalid, Except.map, throw, throwThe, MonadExceptOf.throw]
  | updateCounters clientId updates =>
    have hop : (Json.ofMutation (.updateCounters clientId updates)).strField "op" =
      some (JsString.lit "updateCounters") := rfl
    have hid : (Json.ofMutation (.updateCounters clientId updates)).strField "clientId" = some clientId := rfl
    have hupdates : ((Json.ofMutation (.updateCounters clientId updates)).field "updates").bind Json.asItems =
      some (updates.map fun u => .arr [.str u.1, .num u.2]) := rfl
    simp only [orThrow, bind_ok, hop, hid, hupdates, validateMutation, Option.filter_some,
      updates_ofMutation, List.length_map]
    rw [if_neg (by decide), if_neg (by decide), if_pos trivial]
    by_cases hvalid : isValidId clientId MAX_CLIENT_ID_LEN = true
    · by_cases hlength : updates.length ≤ MAX_SEGMENTS
      · by_cases hall : (updates.all fun u =>
            isValidId u.1 MAX_SEGMENT_ID_LEN && isValidHOTPStoredCounter u.2) = true
        · simp [hvalid, hlength, Nat.not_lt.mpr hlength, hall, Except.map, Json.ofMutation]
        · simp [hvalid, hlength, Nat.not_lt.mpr hlength, hall, Except.map, throw, throwThe,
            MonadExceptOf.throw]
      · simp [hvalid, hlength, Nat.lt_of_not_le hlength, Except.map, throw, throwThe, MonadExceptOf.throw]
    · simp [hvalid, Except.map, throw, throwThe, MonadExceptOf.throw]
  | consumeCounter clientId segmentId matchedCounter =>
    have hop : (Json.ofMutation (.consumeCounter clientId segmentId matchedCounter)).strField "op" =
      some (JsString.lit "consumeCounter") := rfl
    have hid : (Json.ofMutation (.consumeCounter clientId segmentId matchedCounter)).strField "clientId" =
      some clientId := rfl
    have hsegment : (Json.ofMutation (.consumeCounter clientId segmentId matchedCounter)).strField "segmentId" =
      some segmentId := rfl
    have hcounter : (Json.ofMutation (.consumeCounter clientId segmentId matchedCounter)).numField
      "matchedCounter" = some matchedCounter := rfl
    simp only [orThrow, bind_ok, hop, hid, hsegment, hcounter, validateMutation, Option.filter_some]
    rw [if_neg (by decide), if_neg (by decide), if_neg (by decide), if_pos trivial]
    by_cases hvalid : isValidId clientId MAX_CLIENT_ID_LEN = true
    · by_cases hvalidSegment : isValidId segmentId MAX_SEGMENT_ID_LEN = true
      · by_cases hvalidCounter : isValidHOTPStoredCounter matchedCounter = true
        · by_cases husable : matchedCounter < TSK_MAX_HOTP_COUNTER
          · simp [hvalid, hvalidSegment, hvalidCounter, husable, Int.not_le.mpr husable, Except.map,
              Json.ofMutation]
          · simp [hvalid, hvalidSegment, hvalidCounter, husable, Int.not_lt.mp husable, Except.map, throw,
              throwThe, MonadExceptOf.throw]
        · simp [hvalid, hvalidSegment, hvalidCounter, Except.map, throw, throwThe, MonadExceptOf.throw]
      · simp [hvalid, hvalidSegment, Except.map, throw, throwThe, MonadExceptOf.throw]
    · simp [hvalid, Except.map, throw, throwThe, MonadExceptOf.throw]

theorem ofEnvelope_fields (op : TumblerReplicaOp) :
    (Json.ofEnvelope op).strField "streamId" = some op.checkpoint.streamId ∧
    (Json.ofEnvelope op).numField "epoch" = some op.checkpoint.epoch ∧
    (Json.ofEnvelope op).numField "sequence" = some op.checkpoint.sequence ∧
    (Json.ofEnvelope op).numField "sentAt" = some op.sentAt ∧
    (Json.ofEnvelope op).strField "previousHash" = some op.previousHash ∧
    (Json.ofEnvelope op).strField "headHash" = some op.checkpoint.headHash ∧
    (Json.ofEnvelope op).strField "signature" = some op.signature ∧
    (Json.ofEnvelope op).field "mutation" = some (Json.ofMutation op.mutation) :=
  ⟨rfl, rfl, rfl, rfl, rfl, rfl, rfl, rfl⟩

/-- A check of one chain against the same check of the other. -/
theorem require_bind_eq_map {ε α β : Type} {p q : Prop} [Decidable p] [Decidable q] {e : ε}
    {x : Except ε β} {y : Except ε α} {f : α → β} (hp : q ↔ ¬p) (hx : x = y.map f) :
    (require p e >>= fun _ => x) = (if q then throw e else y).map f := by
  by_cases h : p
  · rw [if_neg (by simp [hp, h]), ← hx]
    simp [require, h]
  · rw [if_pos (hp.mpr h)]
    simp [require, h, Except.map, throw, throwThe, MonadExceptOf.throw]

theorem validateBody_ofEnvelope (op : TumblerReplicaOp) :
    validateBody (Json.ofEnvelope op) = (validateTumblerOp op).map fun _ => Json.ofEnvelope op := by
  obtain ⟨hstreamId, hepoch, hsequence, hsentAt, hprevious, hhead, hsignature, hmutation⟩ :=
    ofEnvelope_fields op
  have hobject : (Json.ofEnvelope op).typeofObject = true := rfl
  have hwith : (Json.ofEnvelope op).withMember "mutation" (Json.ofMutation op.mutation) =
      Json.ofEnvelope op := by
    simp +decide [Json.ofEnvelope, unsignedEnvelope, Json.withMember, Json.setMember]
  rw [validateBody, validateTumblerOp, hstreamId, hepoch, hsequence, hsentAt, hprevious, hhead, hsignature,
    hmutation, hobject, validateMutationBody_ofMutation]
  refine require_bind_eq_map Nat.not_le.symm ?_
  rw [show require (true = true) ReceiverError.invalidBody = pure () from rfl, pure_bind]
  refine require_bind_eq_map (by simp) ?_
  refine require_bind_eq_map (by simp [imp_iff_not_or]) ?_
  refine require_bind_eq_map (by simp [imp_iff_not_or]) ?_
  refine require_bind_eq_map (by simp [isSafeNonNegativeInteger, imp_iff_not_or]) ?_
  refine require_bind_eq_map (by simp) ?_
  refine require_bind_eq_map (by simp) ?_
  refine require_bind_eq_map (by simp) ?_
  cases validateMutation op.mutation with
  | error e => rfl
  | ok _ => exact congrArg Except.ok hwith

/-- On the envelopes that the source signs, both models of the receiver's checks give the same answer. -/
theorem checkBody_ofEnvelope (H : HmacSha256) (D : Sha256) (receiver : TumblerReplicaReceiver) (now : Int)
    (op : TumblerReplicaOp) :
    receiver.checkBody H D now (Json.ofEnvelope op) =
      ((receiver.checkEnvelope H D now op).1.map fun _ => Json.ofEnvelope op,
        (receiver.checkEnvelope H D now op).2) := by
  have hsignature : verifyBodySignature H (Json.ofEnvelope op) receiver.token =
      verifyReplicaEnvelopeSignature H op receiver.token := by
    have hwithout : (Json.ofEnvelope op).without "signature" =
        .obj (unsignedEnvelope op.toPendingReplicaOp op.sentAt) := by
      simp +decide [Json.ofEnvelope, unsignedEnvelope, Json.without]
    rw [verifyBodySignature, hwithout, (ofEnvelope_fields op).2.2.2.2.2.2.1,
      verifyReplicaEnvelopeSignature, envelopeSignature]
    exact decide_eq_decide.mpr Option.some_inj
  have hhash : bodyHash D (Json.ofEnvelope op) = computeReplicationHash D op.checkpoint.streamId
    op.checkpoint.epoch op.checkpoint.sequence op.previousHash op.mutation := rfl
  obtain ⟨hstreamId, hepoch, hsequence, hsentAt, hprevious, hhead, -, -⟩ := ofEnvelope_fields op
  rw [TumblerReplicaReceiver.checkBody, TumblerReplicaReceiver.checkEnvelope, validateBody_ofEnvelope]
  cases validateTumblerOp op with
  | error e => rfl
  | ok _ =>
    have hop : (Except.ok () : Except ReceiverError Unit).map (fun _ => Json.ofEnvelope op) =
      .ok (Json.ofEnvelope op) := rfl
    simp only [hop, hsignature, hhash, hstreamId, hepoch, hsequence, hsentAt, hprevious, hhead,
      Option.getD_some, ne_eq, Option.some_inj]
    split_ifs <;> rfl

section Sample

end Sample

end TskProtocol
