import TskProtocol.Replication.ReceiverLaws
import TskProtocol.Server.MutationLaws

namespace TskProtocol

variable {H : HmacSha256} {D : Sha256}

def TumblerReplicaMutation.clientId : TumblerReplicaMutation → JsString
  | .set clientId _ _ => clientId
  | .delete clientId => clientId
  | .updateCounters clientId _ => clientId
  | .consumeCounter clientId _ _ => clientId

/-- The way from a source to a receiver: the source's token, the receiver's unsealer, and for
every sequence when the envelope is sent and when it arrives. -/
structure Delivery where
  token : ReplicaToken
  secretUnsealer : JsString → JsString → Option JsString
  sentAt : Int → Int
  arrival : Int → Int

def TumblerReplicaReceiver.receive (H : HmacSha256) (D : Sha256) (d : Delivery)
    (receiver : TumblerReplicaReceiver) (op : PendingReplicaOp) :
    Except IngestRefusal Unit × TumblerReplicaReceiver :=
  receiver.ingest H D d.secretUnsealer (d.arrival op.checkpoint.sequence)
    (signReplicaEnvelope H d.token op (d.sentAt op.checkpoint.sequence))

/-- The client's map has not reached the store's TTL. -/
def MemoryTumblerStore.Young (store : MemoryTumblerStore) (clientId : JsString) (now : Int) : Prop :=
  ∀ map ∈ store.maps.get? clientId, ¬ (0 < store.maxAgeMs ∧ now - map.createdAt > store.maxAgeMs)

instance (store : MemoryTumblerStore) (clientId : JsString) (now : Int) :
    Decidable (store.Young clientId now) :=
  inferInstanceAs (Decidable (∀ map ∈ store.maps.get? clientId, ¬ _))

theorem MemoryTumblerStore.get_of_young {store : MemoryTumblerStore} {clientId : JsString}
    {now : Int} (h : store.Young clientId now) :
    store.get clientId now = (store.maps.get? clientId, store) := by
  cases hget : store.maps.get? clientId with
  | none => simp only [get, hget]
  | some map => simp only [get, hget, if_neg (h map hget)]

theorem MemoryTumblerStore.young_of_ttl_disabled {store : MemoryTumblerStore}
    (h : store.maxAgeMs ≤ 0) (clientId : JsString) (now : Int) : store.Young clientId now :=
  fun _ _ ⟨hpos, _⟩ => absurd hpos (by omega)

/-- The receiver takes every operation, each answered before the next arrives and none of them
meeting a map that has aged out. -/
inductive Replays (H : HmacSha256) (D : Sha256) (d : Delivery) :
    TumblerReplicaReceiver → List PendingReplicaOp → TumblerReplicaReceiver → Prop
  | nil (receiver : TumblerReplicaReceiver) : Replays H D d receiver [] receiver
  | snoc {receiver receiver' receiver'' : TumblerReplicaReceiver} {ops : List PendingReplicaOp}
      {op : PendingReplicaOp} : Replays H D d receiver ops receiver' →
      receiver'.store.Young op.mutation.clientId (d.arrival op.checkpoint.sequence) →
      receiver'.receive H D d op = (.ok (), receiver'') →
      Replays H D d receiver (ops ++ [op]) receiver''

theorem Replays.nil_inv {receiver receiver' : TumblerReplicaReceiver} {d : Delivery}
    (h : Replays H D d receiver [] receiver') : receiver = receiver' := by
  generalize hl : ([] : List PendingReplicaOp) = l at h
  cases h with
  | nil => rfl
  | snoc => simp at hl

theorem Replays.snoc_inv {receiver receiver'' : TumblerReplicaReceiver} {d : Delivery}
    {ops : List PendingReplicaOp} {op : PendingReplicaOp}
    (h : Replays H D d receiver (ops ++ [op]) receiver'') : ∃ receiver',
      Replays H D d receiver ops receiver' ∧
      receiver'.store.Young op.mutation.clientId (d.arrival op.checkpoint.sequence) ∧
      receiver'.receive H D d op = (.ok (), receiver'') := by
  generalize hl : ops ++ [op] = l at h
  cases h with
  | nil => simp at hl
  | snoc hrest hyoung hreceive =>
    obtain ⟨rfl, rfl⟩ := List.append_inj' hl rfl |>.imp id (List.cons.inj · |>.1)
    exact ⟨_, hrest, hyoung, hreceive⟩

/-- The secret a receiver stores for the one on the wire. -/
def Received (secretUnsealer : JsString → JsString → Option JsString) (unseals : Bool)
    (clientId wire : JsString) (secretSealed : Bool) (secret : JsString) : Prop :=
  if secretSealed && unseals then secretUnsealer clientId wire = some secret else secret = wire

/-- What an operation that the receiver took made of its client. -/
inductive Lands (secretUnsealer : JsString → JsString → Option JsString) (unseals : Bool) :
    TumblerReplicaMutation → Option TumblerMap → Option TumblerMap → Prop
  | set {clientId : JsString} {map : TumblerMap} {secretSealed : Bool} {secret : JsString}
      {old : Option TumblerMap}
      (hsecret : Received secretUnsealer unseals clientId map.sharedSecret secretSealed secret) :
      Lands secretUnsealer unseals (.set clientId map secretSealed) old
        (some { map with sharedSecret := secret })
  | delete {clientId : JsString} {old : Option TumblerMap} :
      Lands secretUnsealer unseals (.delete clientId) old none
  | updateCounters {clientId : JsString} {updates : List (JsString × Int)} {map map' : TumblerMap}
      (h : MemoryTumblerStore.updateMap (.ofEntries updates) map = (.ok (), map')) :
      Lands secretUnsealer unseals (.updateCounters clientId updates) (some map) (some map')
  | consumeCounter {clientId segmentId : JsString} {matchedCounter : Int} {map map' : TumblerMap}
      (h : MemoryTumblerStore.consumeMap segmentId matchedCounter map = some map') :
      Lands secretUnsealer unseals (.consumeCounter clientId segmentId matchedCounter)
        (some map) (some map')

/-- The store after an operation: one client landed, the others and the limits as before. -/
structure Landed (secretUnsealer : JsString → JsString → Option JsString) (unseals : Bool)
    (mutation : TumblerReplicaMutation) (store store' : MemoryTumblerStore) : Prop where
  lands : Lands secretUnsealer unseals mutation (store.maps.get? mutation.clientId)
    (store'.maps.get? mutation.clientId)
  others : ∀ x, x ≠ mutation.clientId → store'.maps.get? x = store.maps.get? x
  maxEntries : store'.maxEntries = store.maxEntries
  maxAgeMs : store'.maxAgeMs = store.maxAgeMs

theorem landed_of_set {secretUnsealer : JsString → JsString → Option JsString} {unseals : Bool}
    (mutation : TumblerReplicaMutation) {store : MemoryTumblerStore} {written : TumblerMap}
    (h : Lands secretUnsealer unseals mutation (store.maps.get? mutation.clientId) (some written)) :
    Landed secretUnsealer unseals mutation store
      (store.withMaps (store.maps.set mutation.clientId written)) where
  lands := by simpa using h
  others x hx := OrderedMap.get?_set_ne _ _ (Ne.symm hx)
  maxEntries := rfl
  maxAgeMs := rfl

section Apply

variable {store store' : MemoryTumblerStore} {now : Int} {mutation : TumblerReplicaMutation}
  {secretUnsealer : JsString → JsString → Option JsString} {unseals : Bool}

theorem applyTumblerOp_set {clientId : JsString} {map : TumblerMap} {secretSealed : Bool}
    (hyoung : store.Young clientId now)
    (h : applyTumblerOp store now (.set clientId map secretSealed) = (.ok (), store')) :
    store' = store.withMaps (store.maps.set clientId map) := by
  have hread : store.get clientId now = (store.maps.get? clientId, store) :=
    MemoryTumblerStore.get_of_young hyoung
  simp only [applyTumblerOp, beginApply, hread, answerApply] at h
  split at h
  · cases h
  · obtain ⟨hok, hstore⟩ := Prod.mk.inj h
    exact MemoryTumblerStore.set_ok (Prod.ext (mapError_eq_ok.mp hok) hstore)

theorem applyTumblerOp_landed (hyoung : store.Young mutation.clientId now)
    (hset : ∀ clientId map secretSealed, mutation = .set clientId map secretSealed →
      Received secretUnsealer unseals clientId map.sharedSecret secretSealed map.sharedSecret)
    (h : applyTumblerOp store now mutation = (.ok (), store')) :
    Landed secretUnsealer unseals mutation store store' := by
  cases mutation with
  | set clientId map secretSealed =>
    rw [applyTumblerOp_set hyoung h]
    exact landed_of_set _ (.set (hset _ _ _ rfl))
  | delete clientId =>
    obtain rfl : store.delete clientId = store' := (congrArg Prod.snd h :)
    refine ⟨?_, fun x hx => OrderedMap.get?_erase_ne _ (Ne.symm hx), rfl, rfl⟩
    simpa [MemoryTumblerStore.delete, TumblerReplicaMutation.clientId] using .delete
  | updateCounters clientId updates =>
    have hread : store.get clientId now = (store.maps.get? clientId, store) :=
      MemoryTumblerStore.get_of_young hyoung
    simp only [applyTumblerOp, beginApply, hread, answerApply] at h
    split at h
    · cases h
    next current hget =>
    split at h
    · cases h
    obtain ⟨hok, hstore⟩ := Prod.mk.inj h
    rcases MemoryTumblerStore.updateCounters_ok (Prod.ext (mapError_eq_ok.mp hok) hstore) with
      ⟨hnone, _⟩ | ⟨map, map', hsome, hupdate, rfl⟩
    · cases hnone.symm.trans hget
    · exact landed_of_set (.updateCounters clientId updates)
        (by rw [TumblerReplicaMutation.clientId, hsome]; exact .updateCounters hupdate)
  | consumeCounter clientId segmentId matchedCounter =>
    simp only [applyTumblerOp, beginApply] at h
    split at h
    · next store'' hconsume =>
      obtain rfl : store'' = store' := (congrArg Prod.snd h :)
      obtain ⟨map, map', hsome, hmap, rfl⟩ := MemoryTumblerStore.consumeCounter_true hconsume
      exact landed_of_set (.consumeCounter clientId segmentId matchedCounter)
        (by rw [TumblerReplicaMutation.clientId, hsome]; exact .consumeCounter hmap)
    · cases h
    · cases h

end Apply

namespace TumblerReplicaReceiver

variable {receiver receiver' : TumblerReplicaReceiver} {now : Int} {op : TumblerReplicaOp}

/-- The last stretch of an ingest, seen as one application of the operation. -/
theorem concludeApply_ok {mutation : TumblerReplicaMutation}
    (h : (receiver.startApply now mutation).2.concludeApply op (receiver.startApply now mutation).1 =
      (.ok (), receiver')) :
    applyTumblerOp receiver.store now mutation = (.ok (), receiver'.store) ∧
      receiver'.checkpoint = op.checkpoint ∧
      receiver'.toReceiverConfig = receiver.toReceiverConfig := by
  simp only [startApply, concludeApply, answer, conclude] at h
  split at h
  · simp [halt] at h
  · next hok =>
    obtain rfl := (congrArg Prod.snd h :)
    exact ⟨Prod.ext hok rfl, rfl, rfl⟩

/-- An ingest that was answered ok took its operation and moved the checkpoint to it. -/
structure Took (H : HmacSha256) (D : Sha256) (secretUnsealer : JsString → JsString → Option JsString)
    (now : Int) (op : TumblerReplicaOp) (receiver receiver' : TumblerReplicaReceiver) : Prop where
  admitted : Admitted H D receiver now op
  landed : Landed secretUnsealer receiver.unseals op.mutation receiver.store receiver'.store
  checkpoint : receiver'.checkpoint = op.checkpoint
  config : receiver'.toReceiverConfig = receiver.toReceiverConfig

theorem took_of_conclude {secretUnsealer : JsString → JsString → Option JsString}
    (hadmitted : Admitted H D receiver now op)
    (hyoung : receiver.store.Young op.mutation.clientId now)
    (hset : ∀ clientId map secretSealed, op.mutation = .set clientId map secretSealed →
      Received secretUnsealer receiver.unseals clientId map.sharedSecret secretSealed
        map.sharedSecret)
    (h : (receiver.startApply now op.mutation).2.concludeApply op
      (receiver.startApply now op.mutation).1 = (.ok (), receiver')) :
    Took H D secretUnsealer now op receiver receiver' := by
  obtain ⟨happly, hcheckpoint, hconfig⟩ := concludeApply_ok h
  exact ⟨hadmitted, applyTumblerOp_landed hyoung hset happly, hcheckpoint, hconfig⟩

theorem ingest_ok {secretUnsealer : JsString → JsString → Option JsString}
    (hyoung : receiver.store.Young op.mutation.clientId now)
    (h : receiver.ingest H D secretUnsealer now op = (.ok (), receiver')) :
    Took H D secretUnsealer now op receiver receiver' := by
  simp only [ingest, beginIngest] at h
  rcases hchecked : receiver.checkEnvelope H D now op with ⟨outcome, receiver₁⟩
  rw [hchecked] at h
  cases outcome with
  | error refusal => cases h
  | ok =>
    have hadmitted : Admitted H D receiver now op := admitted_of_checked (by rw [hchecked])
    obtain rfl : receiver = receiver₁ := by
      have := checkEnvelope_of_admitted hadmitted
      rw [hchecked] at this
      exact (congrArg Prod.snd this :).symm
    cases hmutation : op.mutation with
    | set clientId map secretSealed =>
      rw [hmutation] at h hyoung
      simp only [enter] at h
      split at h
      · next hseal =>
        simp only [finishIngest, unsealed] at h
        split at h
        · cases h
        next stage receiver₂ hunsealed =>
        split at hunsealed
        · cases hunsealed
        next raw hraw =>
        split at hunsealed
        · cases hunsealed
        obtain ⟨hstage, hreceiver⟩ := Prod.mk.inj hunsealed
        obtain rfl := Except.ok.inj hstage
        obtain rfl := hreceiver
        obtain ⟨happly, hcheckpoint, hconfig⟩ := concludeApply_ok h
        refine ⟨hadmitted, ?_, hcheckpoint, hconfig⟩
        rw [applyTumblerOp_set hyoung happly, hmutation]
        exact landed_of_set (.set clientId map secretSealed)
          (.set (by simpa [Received, hseal] using hraw))
      · next hseal =>
        have hreceived : Received secretUnsealer receiver.unseals clientId map.sharedSecret
            secretSealed map.sharedSecret := by simp [Received, hseal]
        simp only [finishIngest] at h
        obtain ⟨happly, hcheckpoint, hconfig⟩ := concludeApply_ok h
        refine ⟨hadmitted, ?_, hcheckpoint, hconfig⟩
        rw [hmutation]
        refine applyTumblerOp_landed hyoung ?_ happly
        rintro _ _ _ ⟨⟩
        exact hreceived
    | delete clientId =>
      rw [hmutation] at h hyoung
      exact took_of_conclude hadmitted (by rwa [hmutation]) (by simp [hmutation])
        (by rwa [hmutation])
    | updateCounters clientId updates =>
      rw [hmutation] at h hyoung
      exact took_of_conclude hadmitted (by rwa [hmutation]) (by simp [hmutation])
        (by rwa [hmutation])
    | consumeCounter clientId segmentId matchedCounter =>
      rw [hmutation] at h hyoung
      exact took_of_conclude hadmitted (by rwa [hmutation]) (by simp [hmutation])
        (by rwa [hmutation])

end TumblerReplicaReceiver

/-- The receiver of a replay keeps its configuration. -/
theorem Replays.config {d : Delivery} {receiver receiver' : TumblerReplicaReceiver}
    {ops : List PendingReplicaOp} (h : Replays H D d receiver ops receiver') :
    receiver'.toReceiverConfig = receiver.toReceiverConfig := by
  induction h with
  | nil => rfl
  | snoc _ hyoung hreceive ih =>
    exact (TumblerReplicaReceiver.ingest_ok hyoung hreceive).config.trans ih

end TskProtocol
