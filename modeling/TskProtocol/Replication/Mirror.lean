import TskProtocol.Replication.Replay
import TskProtocol.Replication.Source

namespace TskProtocol

variable {H : HmacSha256} {D : Sha256}

/-- The clients whose stream a pending mutation still has to bring up to date. -/
def PendingMutation.touches : PendingMutation → List JsString
  | .enqueue mutation => [mutation.clientId]
  | .reread clientIds => clientIds
  | .sealing clientId _ rest => clientId :: rest

/-- Nothing is in flight for the client. -/
def ReplicationState.Untouched (s : ReplicationState) (x : JsString) : Prop :=
  ∀ call ∈ s.pending, x ∉ call.touches

/-- A call may go on without leaving the stream behind: the client that it reads has not aged
out, and the sealer has not thrown. -/
def PendingMutation.Proceeds (call : PendingMutation) (source : ReplicatingTumblerStore) (now : Int)
    (answer : Option JsString) : Prop :=
  match call with
  | .enqueue _ => True
  | .reread clientIds => ∀ x ∈ clientIds, source.primary.Young x now
  | .sealing _ map _ => (ReplicatingTumblerStore.sealMap source.secretPolicy map answer).isSome

/-- Calls on one client do not overlap, and none changes the primary behind the stream's back:
what is not mirrored changed nothing, and a replacement does not displace its predecessor. -/
def Steady (s : ReplicationState) : ReplicationLabel → Prop
  | .call mutation =>
    (∀ x ∈ mutation.touches, s.Untouched x) ∧
    (mutation.mirror (mutation.perform s.primary).1 = none →
      (mutation.perform s.primary).2.maps.entries = s.primary.maps.entries) ∧
    (mutation.isReplacement = true → s.primary.maps.size < s.primary.maxEntries)
  | .resume index now answer => ∀ call ∈ s.pending[index]?, call.Proceeds s.source now answer
  | .pushed _ => True

instance (s : ReplicationState) (x : JsString) : Decidable (s.Untouched x) :=
  inferInstanceAs (Decidable (∀ call ∈ s.pending, x ∉ call.touches))

instance (call : PendingMutation) (source : ReplicatingTumblerStore) (now : Int)
    (answer : Option JsString) : Decidable (call.Proceeds source now answer) :=
  match call with
  | .enqueue _ => inferInstanceAs (Decidable True)
  | .reread clientIds => inferInstanceAs (Decidable (∀ x ∈ clientIds, source.primary.Young x now))
  | .sealing _ map _ =>
    inferInstanceAs (Decidable
      ((ReplicatingTumblerStore.sealMap source.secretPolicy map answer).isSome = true))

instance (s : ReplicationState) (l : ReplicationLabel) : Decidable (Steady s l) :=
  match l with
  | .call mutation => inferInstanceAs (Decidable ((∀ x ∈ mutation.touches, s.Untouched x) ∧
      (mutation.mirror (mutation.perform s.primary).1 = none →
        (mutation.perform s.primary).2.maps.entries = s.primary.maps.entries) ∧
      (mutation.isReplacement = true → s.primary.maps.size < s.primary.maxEntries)))
  | .resume index now answer => inferInstanceAs (Decidable
      (∀ call ∈ s.pending[index]?, call.Proceeds s.source now answer))
  | .pushed _ => inferInstanceAs (Decidable True)

/-- What `g` keeps of a secret survives the sealer, the wire and the unsealer. -/
def KeepsSecret (g : JsString → JsString) (d : Delivery) (unseals : Bool) (s : ReplicationState) :
    ReplicationLabel → Prop
  | .resume index _ answer => ∀ clientId map rest wire secretSealed secret,
      s.pending[index]? = some (.sealing clientId map rest) →
      ReplicatingTumblerStore.sealMap s.source.secretPolicy map answer = some (wire, secretSealed) →
      Received d.secretUnsealer unseals clientId wire.sharedSecret secretSealed secret →
      g secret = g map.sharedSecret
  | _ => True

/-- Equal as far as `g` keeps the secrets. -/
def Agree (g : JsString → JsString) (a b : Option TumblerMap) : Prop :=
  a.map (·.mapSecret g) = b.map (·.mapSecret g)

theorem Agree.none_iff {g : JsString → JsString} {a b : Option TumblerMap} (h : Agree g a b) :
    a = none ↔ b = none := by
  have := congrArg Option.isNone h
  cases a <;> cases b <;> simp_all

section Simulation

variable {g : JsString → JsString} {secretUnsealer : JsString → JsString → Option JsString}
  {unseals : Bool}

/-- What a pending mutation promises about its clients on the primary and the replica. -/
def PendingMutation.Awaits (g : JsString → JsString)
    (secretUnsealer : JsString → JsString → Option JsString) (unseals : Bool)
    (primary replica : MemoryTumblerStore) : PendingMutation → Prop
  | .enqueue mutation => ∀ landed,
      Lands secretUnsealer unseals mutation (replica.maps.get? mutation.clientId) landed →
      Agree g landed (primary.maps.get? mutation.clientId)
  | .reread clientIds => ∀ x ∈ clientIds,
      primary.maps.get? x = none → replica.maps.get? x = none
  | .sealing clientId map rest => primary.maps.get? clientId = some map ∧
      ∀ x ∈ rest, primary.maps.get? x = none → replica.maps.get? x = none

/-- The replica that has taken everything emitted so far agrees with the primary on every client
that is neither in flight nor held. -/
structure Mirrored (g : JsString → JsString)
    (secretUnsealer : JsString → JsString → Option JsString) (unseals : Bool)
    (s : ReplicationState) (replica : MemoryTumblerStore) (held : List JsString) : Prop where
  agree : ∀ x, s.Untouched x → x ∉ held → Agree g (replica.maps.get? x) (s.primary.maps.get? x)
  awaits : ∀ call ∈ s.pending, call.Awaits g secretUnsealer unseals s.primary replica
  apart : ∀ call ∈ s.pending, ∀ x ∈ call.touches, x ∉ held
  disjoint : s.pending.Pairwise (fun a b => List.Disjoint a.touches b.touches)

variable {s t : ReplicationState} {replica replica' : MemoryTumblerStore} {held : List JsString}

theorem Mirrored.hold (h : Mirrored g secretUnsealer unseals s replica []) {xs : List JsString}
    (hxs : ∀ x ∈ xs, s.Untouched x) : Mirrored g secretUnsealer unseals s replica xs where
  agree x hx _ := h.agree x hx (by simp)
  awaits := h.awaits
  apart call hcall x hx hmem := hxs x hmem call hcall hx
  disjoint := h.disjoint

/-- Taking up a pending call holds its clients. -/
theorem Mirrored.take (h : Mirrored g secretUnsealer unseals s replica []) {k : Nat}
    {call : PendingMutation} (hk : s.pending[k]? = some call) :
    Mirrored g secretUnsealer unseals { s with pending := s.pending.eraseIdx k } replica
      call.touches ∧ call.Awaits g secretUnsealer unseals s.primary replica := by
  have hlt : k < s.pending.length := (List.getElem?_eq_some_iff.mp hk).1
  have hget : s.pending[k] = call := (List.getElem?_eq_some_iff.mp hk).2
  have hperm : (call :: s.pending.eraseIdx k).Perm s.pending := by
    rw [← hget]
    exact List.getElem_cons_eraseIdx_perm hlt
  have hpair : (call :: s.pending.eraseIdx k).Pairwise
      (fun a b => List.Disjoint a.touches b.touches) :=
    (hperm.pairwise_iff (fun hab => by intro x hb ha; exact hab ha hb)).mpr h.disjoint
  obtain ⟨hcall, hrest⟩ := List.pairwise_cons.mp hpair
  refine ⟨⟨fun x hx hnot => h.agree x (fun c hc => ?_) (by simp), fun c hc => ?_, fun c hc x hx hmem => ?_,
    hrest⟩, h.awaits call (List.mem_of_getElem? hk)⟩
  · rcases List.mem_cons.mp (hperm.mem_iff.mpr hc) with rfl | hc
    · exact hnot
    · exact hx c hc
  · exact h.awaits c (List.mem_of_mem_eraseIdx hc)
  · exact hcall c hc hmem hx

/-- Promises speak of their own clients only. -/
theorem PendingMutation.Awaits.congr {call : PendingMutation}
    {primary primary' : MemoryTumblerStore}
    (h : call.Awaits g secretUnsealer unseals primary replica)
    (hp : ∀ x ∈ call.touches, primary'.maps.get? x = primary.maps.get? x)
    (hr : ∀ x ∈ call.touches, replica'.maps.get? x = replica.maps.get? x) :
    call.Awaits g secretUnsealer unseals primary' replica' := by
  cases call with
  | enqueue mutation =>
    intro landed hlands
    rw [hr _ (by simp [touches])] at hlands
    rw [hp _ (by simp [touches])]
    exact h landed hlands
  | reread clientIds =>
    intro x hx hnone
    rw [hp x hx] at hnone
    rw [hr x hx]
    exact h x hx hnone
  | sealing clientId map rest =>
    refine ⟨(hp _ (by simp [touches])).trans h.1, fun x hx hnone => ?_⟩
    have hmem : x ∈ (PendingMutation.sealing clientId map rest).touches :=
      List.mem_cons_of_mem _ hx
    rw [hp x hmem] at hnone
    rw [hr x hmem]
    exact h.2 x hx hnone

/-- Both stores may move on the held clients. -/
theorem Mirrored.move (h : Mirrored g secretUnsealer unseals s replica held)
    (hpending : t.pending = s.pending)
    (hp : ∀ x, x ∉ held → t.primary.maps.get? x = s.primary.maps.get? x)
    (hr : ∀ x, x ∉ held → replica'.maps.get? x = replica.maps.get? x) :
    Mirrored g secretUnsealer unseals t replica' held where
  agree x hx hnot := by
    rw [hp x hnot, hr x hnot]
    exact h.agree x (fun call hcall => hx call (hpending ▸ hcall)) hnot
  awaits call hcall :=
    have hcall := hpending ▸ hcall
    (h.awaits call hcall).congr (fun x hx => hp x (h.apart call hcall x hx))
      (fun x hx => hr x (h.apart call hcall x hx))
  apart call hcall := h.apart call (hpending ▸ hcall)
  disjoint := hpending ▸ h.disjoint

/-- A call is parked again, or ends, and lets go of the clients it is done with. -/
theorem Mirrored.release (h : Mirrored g secretUnsealer unseals s replica held)
    {next : Option PendingMutation}
    (hsub : ∀ call, next = some call → ∀ x ∈ call.touches, x ∈ held)
    (hawaits : ∀ call, next = some call →
      call.Awaits g secretUnsealer unseals s.primary replica)
    (hdone : ∀ x ∈ held, (∀ call, next = some call → x ∉ call.touches) →
      Agree g (replica.maps.get? x) (s.primary.maps.get? x)) :
    Mirrored g secretUnsealer unseals (s.suspend next) replica [] := by
  refine ⟨fun x hx _ => ?_, fun call hcall => ?_, by simp, ?_⟩
  · have hold : s.Untouched x := fun call hcall => hx call (List.mem_append_left _ hcall)
    have hnext : ∀ call, next = some call → x ∉ call.touches := fun call hcall =>
      hx call (List.mem_append_right _ (by simp [hcall]))
    by_cases hmem : x ∈ held
    · exact hdone x hmem hnext
    · exact h.agree x hold hmem
  · rcases List.mem_append.mp hcall with hcall | hcall
    · exact h.awaits call hcall
    · exact hawaits call (by simpa using hcall)
  · refine List.pairwise_append.mpr ⟨h.disjoint, by cases next <;> simp, fun a ha b hb x hx hxb => ?_⟩
    exact h.apart a ha x hx (hsub b (by simpa using hb) x hxb)

/-- The clients a mirrored call goes on with are those its mutation touched. -/
theorem StoreMutation.touches_mirror {mutation : StoreMutation}
    {result : Except StoreError MutationResult} {call : PendingMutation}
    (h : mutation.mirror result = some call) : call.touches = mutation.touches := by
  cases mutation <;> simp only [mirror] at h
  case delete => obtain rfl := Option.some.inj h; rfl
  all_goals
    split at h
    · obtain rfl := Option.some.inj h; rfl
    · cases h

theorem commitValidation_none {store : MemoryTumblerStore} {clientId : JsString}
    {input : ValidationCommitInput}
    (h : (store.commitValidation clientId input).2.maps.get? clientId = none) :
    store.maps.get? clientId = none := by
  simp only [MemoryTumblerStore.commitValidation] at h
  split at h
  · assumption
  · simp at h

/-- Once the primary has changed, the promise of the pending call holds. -/
theorem awaits_mirror {mutation : StoreMutation} {primary : MemoryTumblerStore}
    {call : PendingMutation}
    (hagree : ∀ x ∈ mutation.touches, Agree g (replica.maps.get? x) (primary.maps.get? x))
    (hroom : mutation.isReplacement = true → primary.maps.size < primary.maxEntries)
    (h : mutation.mirror (mutation.perform primary).1 = some call) :
    call.Awaits g secretUnsealer unseals (mutation.perform primary).2 replica := by
  cases mutation with
  | set clientId map =>
    simp only [StoreMutation.mirror, StoreMutation.perform] at h ⊢
    rcases hset : primary.set clientId map with ⟨outcome, store⟩
    rw [hset] at h
    cases outcome with
    | error e => cases h
    | ok =>
      obtain rfl := Option.some.inj h
      refine ⟨?_, by simp⟩
      simp [MemoryTumblerStore.set_ok hset]
  | delete clientId =>
    obtain rfl := Option.some.inj h
    intro landed hlands
    cases hlands
    simp [Agree, StoreMutation.perform, MemoryTumblerStore.delete, TumblerReplicaMutation.clientId]
  | updateCounters clientId updates =>
    have hsame := hagree clientId (by simp [StoreMutation.touches])
    simp only [StoreMutation.mirror, StoreMutation.perform] at h ⊢
    rcases hupdate : primary.updateCounters clientId updates with ⟨outcome, store⟩
    rw [hupdate] at h
    cases outcome with
    | error e => cases h
    | ok =>
      obtain rfl := Option.some.inj h
      rintro landed hlands
      rcases MemoryTumblerStore.updateCounters_ok hupdate with
        ⟨hnone, rfl⟩ | ⟨map, map', hsome, hmap, rfl⟩
      · rw [hnone] at hsame
        rw [TumblerReplicaMutation.clientId, hsame.none_iff.mpr rfl] at hlands
        cases hlands
      · rw [hsome] at hsame
        generalize hold : replica.maps.get?
          (TumblerReplicaMutation.updateCounters clientId updates.entries).clientId = old at hlands
        cases hlands with
        | @updateCounters _ _ other other' hother =>
          rw [OrderedMap.ofEntries_entries] at hother
          rw [show replica.maps.get? clientId = some other from hold] at hsame
          have := MemoryTumblerStore.updateMap_congr (Option.some.inj hsame) hother hmap
          simp [Agree, TumblerReplicaMutation.clientId, this]
  | consumeCounter clientId segmentId matchedCounter =>
    have hsame := hagree clientId (by simp [StoreMutation.touches])
    simp only [StoreMutation.mirror, StoreMutation.perform] at h ⊢
    rcases hconsume : primary.consumeCounter clientId segmentId matchedCounter with ⟨outcome, store⟩
    rw [hconsume] at h
    rcases outcome with e | (_ | _)
    · cases h
    · cases h
    · obtain rfl := Option.some.inj h
      rintro landed hlands
      obtain ⟨map, map', hsome, hmap, rfl⟩ := MemoryTumblerStore.consumeCounter_true hconsume
      rw [hsome] at hsame
      generalize hold : replica.maps.get?
        (TumblerReplicaMutation.consumeCounter clientId segmentId matchedCounter).clientId = old
        at hlands
      cases hlands with
      | @consumeCounter _ _ _ other other' hother =>
        rw [show replica.maps.get? clientId = some other from hold] at hsame
        have := MemoryTumblerStore.consumeMap_congr (Option.some.inj hsame) hother hmap
        simp [Agree, TumblerReplicaMutation.clientId, this]
  | commitValidation clientId input =>
    have hsame := hagree clientId (by simp [StoreMutation.touches])
    simp only [StoreMutation.mirror] at h
    split at h
    · obtain rfl := Option.some.inj h
      intro x hx hnone
      obtain rfl := List.mem_singleton.mp hx
      rw [commitValidation_none hnone] at hsame
      exact hsame.none_iff.mpr rfl
    · cases h
  | replaceCredential oldClientId replacement =>
    simp only [StoreMutation.mirror, StoreMutation.perform] at h ⊢
    rcases hreplace : primary.replaceCredential oldClientId replacement with ⟨outcome, store⟩
    rw [hreplace] at h
    rcases outcome with e | (_ | _)
    · cases h
    · cases h
    · obtain rfl := Option.some.inj h
      obtain ⟨current, -, -, -, rfl⟩ :=
        MemoryTumblerStore.replaceCredential_true (hroom rfl) hreplace
      -- Both credentials are stored, so neither promise is put to the test.
      intro x hx hnone
      simp only [MemoryTumblerStore.withMaps_maps, OrderedMap.get?_set] at hnone
      rcases List.mem_cons.mp hx with rfl | hx
      · split at hnone
        · cases hnone
        · simp at hnone
      · obtain rfl := List.mem_singleton.mp hx
        simp at hnone

theorem Mirrored.call {mutation : StoreMutation}
    (h : Mirrored g secretUnsealer unseals s replica []) (hsteady : Steady s (.call mutation)) :
    Mirrored g secretUnsealer unseals (s.call mutation) replica [] := by
  obtain ⟨hfree, hsilent, hroom⟩ := hsteady
  have hheld := (h.hold hfree).move (t := s.setPrimary (mutation.perform s.primary).2) rfl
    (fun x hx => StoreMutation.get?_perform hx) (fun _ _ => rfl)
  have hagree : ∀ x ∈ mutation.touches, Agree g (replica.maps.get? x) (s.primary.maps.get? x) :=
    fun x hx => h.agree x (hfree x hx) (by simp)
  refine hheld.release (fun call hcall x hx => ?_) (fun call hcall => ?_) (fun x hx hdone => ?_)
  · rwa [StoreMutation.touches_mirror hcall] at hx
  · exact awaits_mirror hagree hroom hcall
  · cases hcall : mutation.mirror (mutation.perform s.primary).1 with
    | none =>
      rw [show (s.setPrimary (mutation.perform s.primary).2).primary =
        (mutation.perform s.primary).2 from rfl, OrderedMap.get?_congr (hsilent hcall)]
      exact hagree x hx
    | some call =>
      exact absurd (StoreMutation.touches_mirror hcall ▸ hx) (hdone call hcall)

/-- The promise of the clients that are still to be read. -/
theorem Mirrored.release_rereads {clientId : JsString} {rest : List JsString}
    (h : Mirrored g secretUnsealer unseals s replica (clientId :: rest))
    (hrest : ∀ x ∈ rest, s.primary.maps.get? x = none → replica.maps.get? x = none)
    (hdone : Agree g (replica.maps.get? clientId) (s.primary.maps.get? clientId)) :
    Mirrored g secretUnsealer unseals (s.suspend (ReplicationState.rereads rest)) replica [] := by
  have hshape : ∀ call, ReplicationState.rereads rest = some call → call = .reread rest := by
    intro call hcall
    cases rest with
    | nil => cases hcall
    | cons x rest => exact (Option.some.inj hcall).symm
  refine h.release (fun call hcall x hx => ?_) (fun call hcall => ?_) (fun x hx hfree => ?_)
  · obtain rfl := hshape call hcall
    exact List.mem_cons_of_mem _ hx
  · obtain rfl := hshape call hcall
    exact hrest
  · rcases List.mem_cons.mp hx with rfl | hx
    · exact hdone
    · cases rest with
      | nil => cases hx
      | cons y rest => exact absurd hx (hfree (.reread (y :: rest)) rfl)

end Simulation

variable {g : JsString → JsString} {d : Delivery} {receiver : TumblerReplicaReceiver}
  {s t : ReplicationState}

theorem ReplicationState.suspend_none (s : ReplicationState) : s.suspend none = s := by
  cases s
  simp [suspend]

/-- Whatever replica has taken the emitted operations mirrors the primary. -/
def Mirrors (H : HmacSha256) (D : Sha256) (g : JsString → JsString) (d : Delivery)
    (receiver : TumblerReplicaReceiver) (s : ReplicationState) : Prop :=
  ∀ replica, Replays H D d receiver s.emitted replica →
    Mirrored g d.secretUnsealer receiver.unseals s replica.store []

/-- The last operation of a replay lands on the replica that took those before it. -/
theorem landed_of_replays {mutation : TumblerReplicaMutation} {replica : TumblerReplicaReceiver}
    (h : Replays H D d receiver (s.emit D mutation).emitted replica) : ∃ before,
      Replays H D d receiver s.emitted before ∧
      Landed d.secretUnsealer receiver.unseals mutation before.store replica.store := by
  obtain ⟨before, hbefore, hyoung, hreceive⟩ := h.snoc_inv
  have hunseals : before.unseals = receiver.unseals := congrArg (·.unseals) hbefore.config
  exact ⟨before, hbefore, hunseals ▸ (TumblerReplicaReceiver.ingest_ok hyoung hreceive).landed⟩

theorem primary_emit (s : ReplicationState) (mutation : TumblerReplicaMutation) :
    (s.emit D mutation).primary = s.primary := by
  simp only [ReplicationState.emit, ReplicationState.primary, ReplicatingTumblerStore.enqueueMutation]
  split <;> rfl

theorem primary_pushed (source : ReplicatingTumblerStore) (ok : Bool) :
    (source.pushed ok).primary = source.primary := by
  simp only [ReplicatingTumblerStore.pushed]
  split
  · rfl
  · split <;> rfl

theorem sealMap_wire {policy : SecretPolicy} {map wire : TumblerMap} {answer : Option JsString}
    {secretSealed : Bool}
    (h : ReplicatingTumblerStore.sealMap policy map answer = some (wire, secretSealed)) :
    wire = { map with sharedSecret := wire.sharedSecret } := by
  cases policy with
  | strip =>
    obtain ⟨rfl, -⟩ := Prod.mk.inj (Option.some.inj h)
    rfl
  | sealer =>
    obtain ⟨text, -, heq⟩ := Option.map_eq_some_iff.mp h
    obtain ⟨rfl, -⟩ := Prod.mk.inj heq
    rfl

/-- A sealed map comes out of the unsealer as the map that went into the sealer. -/
theorem Lands.agree_of_seal {policy : SecretPolicy} {clientId : JsString} {map wire : TumblerMap}
    {answer : Option JsString} {secretSealed unseals : Bool} {old landed stored : Option TumblerMap}
    {secretUnsealer : JsString → JsString → Option JsString}
    (h : Lands secretUnsealer unseals (.set clientId wire secretSealed) old landed)
    (hseal : ReplicatingTumblerStore.sealMap policy map answer = some (wire, secretSealed))
    (hstored : stored = some map)
    (hkeeps : ∀ secret, Received secretUnsealer unseals clientId wire.sharedSecret secretSealed
      secret → g secret = g map.sharedSecret) : Agree g landed stored := by
  cases h with
  | @set _ _ _ secret _ hsecret =>
    rw [hstored, Agree, sealMap_wire hseal]
    simp [TumblerMap.mapSecret, hkeeps secret hsecret]

/-- Taking up a call and sending an operation for its client. -/
theorem Mirrored.emitted {k : Nat} {call : PendingMutation} {mutation : TumblerReplicaMutation}
    {replica replica' : MemoryTumblerStore}
    (h : Mirrored g d.secretUnsealer receiver.unseals s replica [])
    (hk : s.pending[k]? = some call) (hmem : mutation.clientId ∈ call.touches)
    (hlanded : Landed d.secretUnsealer receiver.unseals mutation replica replica') :
    Mirrored g d.secretUnsealer receiver.unseals
      (ReplicationState.emit D { s with pending := s.pending.eraseIdx k } mutation) replica'
      call.touches := by
  refine (h.take hk).1.move rfl (fun x _ => by rw [primary_emit]) (fun x hx => ?_)
  exact hlanded.others x (fun heq => hx (heq ▸ hmem))

theorem Mirrors.resume {k : Nat} {now : Int} {answer : Option JsString} {call : PendingMutation}
    (h : Mirrors H D g d receiver s) (hk : s.pending[k]? = some call)
    (hproceeds : call.Proceeds s.source now answer)
    (hkeeps : KeepsSecret g d receiver.unseals s (.resume k now answer)) :
    Mirrors H D g d receiver
      (ReplicationState.resume D { s with pending := s.pending.eraseIdx k } now answer call) := by
  cases call with
  | enqueue mutation =>
    intro replica hreplays
    obtain ⟨before, hbefore, hlanded⟩ := landed_of_replays hreplays
    have hmirror := h before hbefore
    have hdone := (hmirror.take hk).2 _ hlanded.lands
    have hclosed := (hmirror.emitted (D := D) hk (by simp [PendingMutation.touches])
      hlanded).release_rereads (fun _ hx => absurd hx List.not_mem_nil)
        (by rw [primary_emit]; exact hdone)
    rwa [ReplicationState.rereads, ReplicationState.suspend_none] at hclosed
  | reread clientIds =>
    intro replica hreplays
    cases clientIds with
    | nil =>
      obtain ⟨htaken, -⟩ := (h replica hreplays).take hk
      exact htaken
    | cons clientId rest =>
      have hyoung : s.primary.Young clientId now := hproceeds clientId List.mem_cons_self
      have hread : s.primary.get clientId now = (s.primary.maps.get? clientId, s.primary) :=
        MemoryTumblerStore.get_of_young hyoung
      have hemitted : (ReplicationState.resume D { s with pending := s.pending.eraseIdx k } now
          answer (.reread (clientId :: rest))).emitted = s.emitted := by
        simp only [ReplicationState.resume]
        split <;> rfl
      rw [hemitted] at hreplays
      obtain ⟨htaken, hawaits⟩ := (h replica hreplays).take hk
      have hprimary : ReplicationState.primary { s with pending := s.pending.eraseIdx k } =
          s.primary := rfl
      simp only [ReplicationState.resume, hprimary, hread]
      cases hcurrent : s.primary.maps.get? clientId with
      | some current =>
        refine htaken.release (fun call hcall x hx => ?_) (fun call hcall => ?_)
          (fun x hx hfree => ?_)
        · obtain rfl := Option.some.inj hcall
          exact hx
        · obtain rfl := Option.some.inj hcall
          exact ⟨hcurrent, fun x hx => hawaits x (List.mem_cons_of_mem _ hx)⟩
        · exact absurd hx (hfree (.sealing clientId current rest) rfl)
      | none =>
        refine htaken.release_rereads (fun x hx => hawaits x (List.mem_cons_of_mem _ hx)) ?_
        rw [hprimary, hcurrent, hawaits clientId List.mem_cons_self hcurrent]
        rfl
  | sealing clientId map rest =>
    obtain ⟨⟨wire, secretSealed⟩, hseal⟩ := Option.isSome_iff_exists.mp hproceeds
    have hresume : ReplicationState.resume D { s with pending := s.pending.eraseIdx k } now answer
        (.sealing clientId map rest) =
        (ReplicationState.emit D { s with pending := s.pending.eraseIdx k }
          (.set clientId wire secretSealed)).suspend (ReplicationState.rereads rest) := by
      simp only [ReplicationState.resume, hseal]
    rw [hresume]
    intro replica hreplays
    obtain ⟨before, hbefore, hlanded⟩ := landed_of_replays hreplays
    have hmirror := h before hbefore
    obtain ⟨hstored, hrest⟩ := (hmirror.take hk).2
    have hmoved := hmirror.emitted (D := D) hk
      (by simp [PendingMutation.touches, TumblerReplicaMutation.clientId]) hlanded
    refine hmoved.release_rereads (fun x hx hnone => ?_) ?_
    · rw [primary_emit] at hnone
      have hne : x ≠ clientId := fun heq => by
        rw [heq] at hnone
        cases hnone.symm.trans hstored
      rw [hlanded.others x hne]
      exact hrest x hx hnone
    · rw [primary_emit]
      exact hlanded.lands.agree_of_seal hseal hstored
        (fun secret hsecret => hkeeps _ _ _ _ _ secret hk hseal hsecret)

/-- The simulation over a whole run. -/
theorem Mirrors.of_runs {ls : List ReplicationLabel} (h : Mirrors H D g d receiver s)
    (hrun : (replicationMachine D).Runs
      (fun s l => Steady s l ∧ KeepsSecret g d receiver.unseals s l) s ls t) :
    Mirrors H D g d receiver t := by
  refine hrun.invariant (fun s l t hs hC hstep => ?_) h
  cases l with
  | call mutation =>
    obtain rfl := Option.some.inj hstep
    exact fun replica hreplays => (hs replica hreplays).call hC.1
  | resume k now answer =>
    obtain ⟨call, hk, rfl⟩ := Option.map_eq_some_iff.mp hstep
    exact hs.resume hk (hC.1 call hk) hC.2
  | pushed ok =>
    obtain rfl := Option.some.inj hstep
    intro replica hreplays
    exact (hs replica hreplays).move rfl 
      (fun x _ => congrArg (·.maps.get? x) (primary_pushed s.source ok)) (fun _ _ => rfl)

/-- A fresh source over a copy of the replica. -/
theorem Mirrors.start {source : ReplicatingTumblerStore}
    (h : ∀ x, Agree g (receiver.store.maps.get? x) (source.primary.maps.get? x)) :
    Mirrors H D g d receiver (.start source) := by
  intro replica hreplays
  obtain rfl : receiver = replica := hreplays.nil_inv
  exact ⟨fun x _ _ => h x, by simp [ReplicationState.start], by simp [ReplicationState.start],
    .nil⟩

end TskProtocol
