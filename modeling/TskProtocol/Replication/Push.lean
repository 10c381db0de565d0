import TskProtocol.Replication.PromotionCheckpoint

namespace TskProtocol

variable {H : HmacSha256} {D : Sha256} {token : ReplicaToken}

/-- A request that reaches the receiver: when it was signed, the receiver's clock, and what its
unsealer answers. -/
structure Attempt where
  sentAt : Int
  now : Int
  rawSecret : Option JsString
  deriving Repr

structure LinkState where
  source : ReplicationState
  receiver : TumblerReplicaReceiver
  /-- Every operation that the receiver has taken, oldest first. -/
  applied : List PendingReplicaOp

/-- The three ends of a push of the head, between the mutation calls of the source. -/
inductive LinkLabel
  | call (mutation : StoreMutation)
  | resume (index : Nat) (now : Int) (answer : Option JsString)
  | requestLost
  | responseLost (attempt : Attempt)
  | returned (attempt : Attempt)

namespace LinkState

def start (source : ReplicatingTumblerStore) (receiver : TumblerReplicaReceiver) : LinkState where
  source := .start source
  receiver := receiver
  applied := []

def store (s : LinkState) : ReplicatingTumblerStore := s.source.source

def ingest (H : HmacSha256) (D : Sha256) (token : ReplicaToken) (s : LinkState)
    (op : PendingReplicaOp) (attempt : Attempt) : Except IngestRefusal Unit × TumblerReplicaReceiver :=
  s.receiver.ingest H D (fun _ _ => attempt.rawSecret) attempt.now
    (signReplicaEnvelope H token op attempt.sentAt)

def deliver (H : HmacSha256) (D : Sha256) (token : ReplicaToken) (s : LinkState)
    (op : PendingReplicaOp) (attempt : Attempt) : Except IngestRefusal Unit × LinkState :=
  let (response, receiver) := s.ingest H D token op attempt
  (response, { s with
    receiver := receiver
    applied := if response = .ok () then s.applied ++ [op] else s.applied })

def pushed (s : LinkState) (ok : Bool) : LinkState :=
  { s with source := { s.source with source := s.store.pushed ok } }

/-- The source counts a push as acknowledged when the response it gets is ok. -/
def step (H : HmacSha256) (D : Sha256) (token : ReplicaToken) (s : LinkState) :
    LinkLabel → Option LinkState
  | .call mutation => some { s with source := s.source.call mutation }
  | .resume index now answer => (s.source.step D (.resume index now answer)).map
      (fun source => { s with source := source })
  | .requestLost => s.store.queue.head?.map (fun _ => s.pushed false)
  | .responseLost attempt => s.store.queue.head?.map
      (fun op => (s.deliver H D token op attempt).2.pushed false)
  | .returned attempt => s.store.queue.head?.map (fun op =>
      let (response, s) := s.deliver H D token op attempt
      s.pushed (response = .ok ()))

end LinkState

/-- One source pushing to one receiver, each push answered or given up before the next. -/
def linkMachine (H : HmacSha256) (D : Sha256) (token : ReplicaToken) :
    Machine LinkState LinkLabel where
  step := LinkState.step H D token

/-- No response to a push that the receiver has taken is lost. -/
def Heard (H : HmacSha256) (D : Sha256) (token : ReplicaToken) (s : LinkState) : LinkLabel → Prop
  | .responseLost attempt =>
    ∀ op ∈ s.store.queue.head?, (s.ingest H D token op attempt).1 ≠ .ok ()
  | _ => True

instance (s : LinkState) (l : LinkLabel) : Decidable (Heard H D token s l) :=
  match l with
  | .responseLost attempt => inferInstanceAs (Decidable
      (∀ op ∈ s.store.queue.head?, (s.ingest H D token op attempt).1 ≠ .ok ()))
  | .call _ => inferInstanceAs (Decidable True)
  | .resume _ _ _ => inferInstanceAs (Decidable True)
  | .requestLost => inferInstanceAs (Decidable True)
  | .returned _ => inferInstanceAs (Decidable True)

/-- The operations of a stream, each linked to the checkpoint before it. -/
def streamMachine (D : Sha256) : Machine ReplicationCheckpoint PendingReplicaOp where
  step checkpoint op :=
    if op = checkpoint.link D op.mutation then some op.checkpoint else none

theorem streamMachine_step {c c' : ReplicationCheckpoint} {op : PendingReplicaOp} :
    (streamMachine D).step c op = some c' ↔ op = c.link D op.mutation ∧ c' = op.checkpoint := by
  constructor
  · intro h
    simp only [streamMachine] at h
    split at h
    · next hlink => exact ⟨hlink, (Option.some.inj h).symm⟩
    · cases h
  · rintro ⟨hlink, rfl⟩
    exact if_pos hlink

/-- The part of a source that its drain loop works on. -/
def ReplicatingTumblerStore.outbox (store : ReplicatingTumblerStore) :
    List PendingReplicaOp × ReplicationCheckpoint × Bool :=
  (store.queue, store.checkpoint, store.integrityLost)

/-- A call leaves the outbox alone, or queues one operation. -/
theorem outbox_resume (s : ReplicationState) (now : Int) (answer : Option JsString)
    (call : PendingMutation) : (s.resume D now answer call).source.outbox = s.source.outbox ∨
      ∃ mutation, (s.resume D now answer call).source.outbox =
        (s.source.enqueueMutation D mutation).outbox := by
  cases call with
  | enqueue mutation => exact .inr ⟨mutation, rfl⟩
  | reread clientIds =>
    refine .inl ?_
    cases clientIds with
    | nil => rfl
    | cons clientId rest =>
      simp only [ReplicationState.resume]
      split <;> rfl
  | sealing clientId map rest =>
    simp only [ReplicationState.resume]
    split
    · exact .inl rfl
    · exact .inr ⟨_, rfl⟩

namespace LinkState

variable {s t : LinkState} {op : PendingReplicaOp} {attempt : Attempt}

/-- What holds as long as every taken push was heard: the queue is still ahead of the receiver,
and links on to its checkpoint unless operations were dropped. -/
structure Flowing (D : Sha256) (s : LinkState) : Prop where
  increasing : s.store.queue.Pairwise (fun a b => a.checkpoint.sequence < b.checkpoint.sequence)
  ahead : ∀ op ∈ s.store.queue, s.receiver.checkpoint.sequence < op.checkpoint.sequence
  emitted : ∀ op ∈ s.store.queue, op.checkpoint.sequence ≤ s.store.checkpoint.sequence
  behind : s.receiver.checkpoint.sequence ≤ s.store.checkpoint.sequence
  applied : ∀ op ∈ s.applied, op.checkpoint.sequence ≤ s.receiver.checkpoint.sequence
  stream : s.store.integrityLost = false →
    (streamMachine D).Reaches s.receiver.checkpoint s.store.queue s.store.checkpoint

theorem Flowing.start {source : ReplicatingTumblerStore} {receiver : TumblerReplicaReceiver}
    (hqueue : source.queue = []) (hcheckpoint : receiver.checkpoint = source.checkpoint) :
    (LinkState.start source receiver).Flowing D := by
  have hempty : (LinkState.start source receiver).store.queue = [] := hqueue
  have hbehind : (LinkState.start source receiver).receiver.checkpoint =
    (LinkState.start source receiver).store.checkpoint := hcheckpoint
  constructor <;> simp only [hempty, hbehind]
  · exact .nil
  · simp
  · simp
  · exact Int.le_refl _
  · simp [LinkState.start]
  · exact fun _ => .nil _

theorem Flowing.congr (h : s.Flowing D) (houtbox : t.store.outbox = s.store.outbox)
    (hreceiver : t.receiver.checkpoint = s.receiver.checkpoint) (happlied : t.applied = s.applied) :
    t.Flowing D := by
  obtain ⟨hqueue, hrest⟩ := Prod.mk.inj houtbox
  obtain ⟨hcheckpoint, hlost⟩ := Prod.mk.inj hrest
  constructor <;> simp only [hqueue, hcheckpoint, hlost, hreceiver, happlied]
  exacts [h.increasing, h.ahead, h.emitted, h.behind, h.applied, h.stream]

theorem Flowing.enqueue {mutation : TumblerReplicaMutation} (h : s.Flowing D)
    (houtbox : t.store.outbox = (s.store.enqueueMutation D mutation).outbox)
    (hreceiver : t.receiver.checkpoint = s.receiver.checkpoint) (happlied : t.applied = s.applied) :
    t.Flowing D := by
  have hnext : (s.store.checkpoint.link D mutation).checkpoint.sequence =
    s.store.checkpoint.sequence + 1 := rfl
  have hbehind := h.behind
  by_cases hfull : s.store.maxQueue ≤ s.store.queue.length
  · rw [ReplicatingTumblerStore.enqueueMutation, if_pos hfull] at houtbox
    obtain ⟨hqueue, hrest⟩ := Prod.mk.inj houtbox
    obtain ⟨hcheckpoint, hlost⟩ := Prod.mk.inj hrest
    constructor <;> simp only [hqueue, hcheckpoint, hlost, hreceiver, happlied]
    · exact h.increasing
    · exact h.ahead
    · exact fun op hop => by have := h.emitted op hop; omega
    · omega
    · exact h.applied
    · simp
  · rw [ReplicatingTumblerStore.enqueueMutation, if_neg hfull] at houtbox
    obtain ⟨hqueue, hrest⟩ := Prod.mk.inj houtbox
    obtain ⟨hcheckpoint, hlost⟩ := Prod.mk.inj hrest
    constructor <;> simp only [hqueue, hcheckpoint, hlost, hreceiver, happlied]
    · refine List.pairwise_append.mpr ⟨h.increasing, by simp, fun a ha b hb => ?_⟩
      rw [List.mem_singleton.mp hb]
      have := h.emitted a ha
      omega
    · intro op hop
      rcases List.mem_append.mp hop with hop | hop
      · exact h.ahead op hop
      · rw [List.mem_singleton.mp hop]
        omega
    · intro op hop
      rcases List.mem_append.mp hop with hop | hop
      · have := h.emitted op hop
        omega
      · rw [List.mem_singleton.mp hop]
    · omega
    · exact h.applied
    · exact fun hkept => (h.stream hkept).snoc trivial (streamMachine_step.mpr ⟨rfl, rfl⟩)

/-- The head is taken and its acknowledgement arrives. -/
theorem Flowing.acknowledged {rest : List PendingReplicaOp} (h : s.Flowing D)
    (hqueue : s.store.queue = op :: rest) (hrest : t.store.queue = rest)
    (hcheckpoint : t.store.checkpoint = s.store.checkpoint)
    (hlost : t.store.integrityLost = s.store.integrityLost)
    (hreceiver : t.receiver.checkpoint = op.checkpoint) (happlied : t.applied = s.applied ++ [op]) :
    t.Flowing D := by
  have hincreasing := h.increasing
  have hhead := h.ahead
  have hemitted := h.emitted
  rw [hqueue] at hincreasing hhead hemitted
  obtain ⟨hbelow, hincreasing⟩ := List.pairwise_cons.mp hincreasing
  constructor <;> simp only [hrest, hcheckpoint, hlost, hreceiver, happlied]
  · exact hincreasing
  · exact hbelow
  · exact fun later hlater => hemitted later (List.mem_cons_of_mem _ hlater)
  · exact hemitted op List.mem_cons_self
  · intro earlier hearlier
    rcases List.mem_append.mp hearlier with hearlier | hearlier
    · have := h.applied earlier hearlier
      have := hhead op List.mem_cons_self
      omega
    · rw [List.mem_singleton.mp hearlier]
  · intro hkept
    have hstream := h.stream hkept
    rw [hqueue] at hstream
    obtain ⟨c, -, hstep, hstream⟩ := hstream.cons_inv
    obtain ⟨-, rfl⟩ := streamMachine_step.mp hstep
    exact hstream

theorem pushed_false (store : ReplicatingTumblerStore) : store.pushed false = store := by
  simp only [ReplicatingTumblerStore.pushed]
  split <;> rfl

theorem pushed_true {store : ReplicatingTumblerStore} {rest : List PendingReplicaOp}
    (h : store.queue = op :: rest) :
    store.pushed true = { store with queue := rest, draining := rest ≠ [] } := by
  simp only [ReplicatingTumblerStore.pushed, h, if_true]

theorem store_unheard (s : LinkState) (op : PendingReplicaOp) (attempt : Attempt) :
    ((s.deliver H D token op attempt).2.pushed false).store = s.store :=
  show s.store.pushed false = s.store from pushed_false s.store

theorem store_acknowledged (H : HmacSha256) (D : Sha256) (token : ReplicaToken) {s : LinkState}
    {rest : List PendingReplicaOp} (h : s.store.queue = op :: rest) (attempt : Attempt) :
    ((s.deliver H D token op attempt).2.pushed true).store =
      { s.store with queue := rest, draining := rest ≠ [] } :=
  show s.store.pushed true = _ from pushed_true h

theorem step_returned (h : s.store.queue.head? = some op) (attempt : Attempt) :
    ((s.ingest H D token op attempt).1 = .ok () ∧ (linkMachine H D token).step s
      (.returned attempt) = some ((s.deliver H D token op attempt).2.pushed true)) ∨
    ((s.ingest H D token op attempt).1 ≠ .ok () ∧ (linkMachine H D token).step s
      (.returned attempt) = some ((s.deliver H D token op attempt).2.pushed false)) := by
  have hstep : (linkMachine H D token).step s (.returned attempt) =
      some ((s.deliver H D token op attempt).2.pushed
        ((s.deliver H D token op attempt).1 = .ok ())) :=
    Option.map_eq_some_iff.mpr ⟨op, h, rfl⟩
  by_cases hok : (s.deliver H D token op attempt).1 = .ok ()
  · exact .inl ⟨hok, by rw [hstep, decide_eq_true hok]⟩
  · exact .inr ⟨hok, by rw [hstep, decide_eq_false hok]⟩

theorem outbox_step {l : LinkLabel} (hstep : (linkMachine H D token).step s l = some t)
    (hsource : (∃ mutation, l = .call mutation) ∨ ∃ index now answer, l = .resume index now answer) :
    t.receiver = s.receiver ∧ t.applied = s.applied ∧ (t.store.outbox = s.store.outbox ∨
      ∃ mutation, t.store.outbox = (s.store.enqueueMutation D mutation).outbox) := by
  rcases hsource with ⟨mutation, rfl⟩ | ⟨index, now, answer, rfl⟩
  · obtain rfl := Option.some.inj hstep
    exact ⟨rfl, rfl, .inl rfl⟩
  · obtain ⟨source, hsource, rfl⟩ := Option.map_eq_some_iff.mp hstep
    obtain ⟨call, -, rfl⟩ := Option.map_eq_some_iff.mp hsource
    exact ⟨rfl, rfl, outbox_resume _ now answer call⟩

theorem deliver_ok (h : (s.ingest H D token op attempt).1 = .ok ()) :
    (s.deliver H D token op attempt).2.receiver.checkpoint = op.checkpoint ∧
    (s.deliver H D token op attempt).2.applied = s.applied ++ [op] := by
  refine ⟨?_, if_pos h⟩
  have hsettled := s.receiver.ingest_settled (H := H) (D := D)
    attempt.now (fun _ _ => attempt.rawSecret)
    (signReplicaEnvelope H token op attempt.sentAt)
  rw [TumblerReplicaReceiver.Settled, show (s.receiver.ingest ..).1 = .ok () from h] at hsettled
  exact hsettled

theorem deliver_refused (h : (s.ingest H D token op attempt).1 ≠ .ok ()) :
    (s.deliver H D token op attempt).2.receiver.checkpoint = s.receiver.checkpoint ∧
    (s.deliver H D token op attempt).2.applied = s.applied := by
  refine ⟨?_, if_neg h⟩
  have hsettled := s.receiver.ingest_settled (H := H) (D := D)
    attempt.now (fun _ _ => attempt.rawSecret)
    (signReplicaEnvelope H token op attempt.sentAt)
  simp only [TumblerReplicaReceiver.Settled] at hsettled
  split at hsettled
  · next hok => exact absurd hok h
  · exact hsettled

/-- An operation at or below the receiver's checkpoint is never answered ok again. -/
theorem ingest_reached (h : op.checkpoint.sequence ≤ s.receiver.checkpoint.sequence) :
    (s.ingest H D token op attempt).1 ≠ .ok () := by
  intro hok
  have hnext : op.checkpoint.sequence = s.receiver.checkpoint.sequence + 1 :=
    (TumblerReplicaReceiver.admitted_of_ingest hok).sequence
  omega

theorem Flowing.step {l : LinkLabel} (h : s.Flowing D) (hheard : Heard H D token s l)
    (hstep : (linkMachine H D token).step s l = some t) : t.Flowing D := by
  have hsource : (t.receiver = s.receiver ∧ t.applied = s.applied ∧
      (t.store.outbox = s.store.outbox ∨
        ∃ mutation, t.store.outbox = (s.store.enqueueMutation D mutation).outbox)) →
      t.Flowing D := by
    rintro ⟨hreceiver, happlied, houtbox | ⟨mutation, houtbox⟩⟩
    · exact h.congr houtbox (by rw [hreceiver]) happlied
    · exact h.enqueue houtbox (by rw [hreceiver]) happlied
  cases l with
  | call mutation => exact hsource (outbox_step hstep (.inl ⟨mutation, rfl⟩))
  | resume index now answer =>
    exact hsource (outbox_step hstep (.inr ⟨index, now, answer, rfl⟩))
  | requestLost =>
    obtain ⟨op, -, rfl⟩ := Option.map_eq_some_iff.mp hstep
    exact h.congr (congrArg _ (pushed_false _)) rfl rfl
  | responseLost attempt =>
    obtain ⟨op, hop, rfl⟩ := Option.map_eq_some_iff.mp hstep
    obtain ⟨hreceiver, happlied⟩ := deliver_refused (hheard op hop)
    exact h.congr (by rw [store_unheard]) hreceiver happlied
  | returned attempt =>
    obtain ⟨op, hop, -⟩ := Option.map_eq_some_iff.mp hstep
    obtain ⟨rest, hqueue⟩ : ∃ rest, s.store.queue = op :: rest := List.head?_eq_some_iff.mp hop
    rcases step_returned hop attempt with ⟨hok, hstate⟩ | ⟨hrefused, hstate⟩ <;>
      obtain rfl := Option.some.inj (hstate.symm.trans hstep)
    · obtain ⟨hreceiver, happlied⟩ := deliver_ok hok
      have hstore := store_acknowledged H D token hqueue attempt
      exact h.acknowledged hqueue (by rw [hstore]) (by rw [hstore]) (by rw [hstore]) hreceiver
        happlied
    · obtain ⟨hreceiver, happlied⟩ := deliver_refused hrefused
      exact h.congr (by rw [store_unheard]) hreceiver happlied

/-- The receiver has taken the head, and the source does not know. -/
structure Stuck (s : LinkState) (op : PendingReplicaOp) : Prop where
  head : s.store.queue.head? = some op
  applied : op ∈ s.applied
  reached : op.checkpoint.sequence ≤ s.receiver.checkpoint.sequence
  skew : 0 ≤ s.receiver.maxClockSkewMs

/-- One taken push goes unheard. -/
theorem Stuck.of_lost (hhead : s.store.queue.head? = some op)
    (hok : (s.ingest H D token op attempt).1 = .ok ()) :
    ((s.deliver H D token op attempt).2.pushed false).Stuck op where
  head := by rw [store_unheard, hhead]
  applied := by
    rw [show ((s.deliver H D token op attempt).2.pushed false).applied = _ from (deliver_ok hok).2]
    exact List.mem_append_right _ (List.mem_singleton_self op)
  reached := by
    rw [show ((s.deliver H D token op attempt).2.pushed false).receiver.checkpoint = _ from
      (deliver_ok hok).1]
  skew := by
    have hfresh := (TumblerReplicaReceiver.admitted_of_ingest hok).fresh
    have hconfig := s.receiver.ingest_config (H := H) (D := D)
      attempt.now (fun _ _ => attempt.rawSecret)
      (signReplicaEnvelope H token op attempt.sentAt)
    rw [show ((s.deliver H D token op attempt).2.pushed false).receiver.maxClockSkewMs = _ from
      congrArg (·.maxClockSkewMs) hconfig]
    omega

/-- Nothing that can still happen gets the head out of the queue. -/
theorem Stuck.step {l : LinkLabel} (h : s.Stuck op)
    (hstep : (linkMachine H D token).step s l = some t) : t.Stuck op := by
  have hrefused : ∀ attempt, (s.ingest H D token op attempt).1 ≠ .ok () :=
    fun attempt => ingest_reached h.reached
  have hdelivered : ∀ attempt, ((s.deliver H D token op attempt).2.pushed false).Stuck op := by
    intro attempt
    obtain ⟨hreceiver, happlied⟩ := deliver_refused (hrefused attempt)
    have hconfig := s.receiver.ingest_config (H := H) (D := D)
      attempt.now (fun _ _ => attempt.rawSecret)
      (signReplicaEnvelope H token op attempt.sentAt)
    refine ⟨by rw [store_unheard, h.head], ?_, ?_, ?_⟩
    · exact happlied.symm ▸ h.applied
    · exact (congrArg (·.sequence) hreceiver).symm ▸ h.reached
    · exact (congrArg (·.maxClockSkewMs) hconfig).symm ▸ h.skew
  have hsource : (t.receiver = s.receiver ∧ t.applied = s.applied ∧
      (t.store.outbox = s.store.outbox ∨
        ∃ mutation, t.store.outbox = (s.store.enqueueMutation D mutation).outbox)) →
      t.Stuck op := by
    rintro ⟨hreceiver, happlied, houtbox⟩
    refine ⟨?_, happlied ▸ h.applied, hreceiver ▸ h.reached, hreceiver ▸ h.skew⟩
    rcases houtbox with houtbox | ⟨mutation, houtbox⟩
    · rw [(Prod.mk.inj houtbox).1]
      exact h.head
    · rw [(Prod.mk.inj houtbox).1, ReplicatingTumblerStore.enqueueMutation]
      split
      · exact h.head
      · rw [List.head?_append, h.head]
        rfl
  cases l with
  | call mutation => exact hsource (outbox_step hstep (.inl ⟨mutation, rfl⟩))
  | resume index now answer =>
    exact hsource (outbox_step hstep (.inr ⟨index, now, answer, rfl⟩))
  | requestLost =>
    obtain ⟨_, -, rfl⟩ := Option.map_eq_some_iff.mp hstep
    exact ⟨(congrArg (·.queue.head?) (pushed_false _)).trans h.head, h.applied, h.reached, h.skew⟩
  | responseLost attempt =>
    obtain ⟨head, hhead, rfl⟩ := Option.map_eq_some_iff.mp hstep
    obtain rfl := Option.some.inj (hhead.symm.trans h.head)
    exact hdelivered attempt
  | returned attempt =>
    rcases step_returned h.head attempt with ⟨hok, -⟩ | ⟨-, hstate⟩
    · exact absurd hok (hrefused attempt)
    · obtain rfl := Option.some.inj (hstate.symm.trans hstep)
      exact hdelivered attempt

theorem heard_or_stuck {source : ReplicatingTumblerStore} {receiver : TumblerReplicaReceiver}
    {ls : List LinkLabel} (h : (linkMachine H D token).Reaches (.start source receiver) ls s) :
    (linkMachine H D token).Runs (Heard H D token) (.start source receiver) ls s ∨
      ∃ op, s.Stuck op := by
  induction h with
  | nil => exact .inl (.nil _)
  | @snoc s t ls l _ _ hstep ih =>
    rcases ih with hheard | ⟨op, hstuck⟩
    · by_cases hl : Heard H D token s l
      · exact .inl (hheard.snoc hl hstep)
      · cases l with
        | responseLost attempt =>
          obtain ⟨op, hop, rfl⟩ := Option.map_eq_some_iff.mp hstep
          refine .inr ⟨op, .of_lost hop (Classical.byContradiction fun hrefused => hl ?_)⟩
          intro head hhead
          obtain rfl := Option.some.inj (hop.symm.trans hhead)
          exact hrefused
        | call => exact absurd trivial hl
        | resume => exact absurd trivial hl
        | requestLost => exact absurd trivial hl
        | returned => exact absurd trivial hl
    · exact .inr ⟨op, hstuck.step hstep⟩

/-- The receiver is at the source's stream. -/
structure Sited (token : ReplicaToken) (s : LinkState) : Prop where
  token : s.receiver.token = token
  streamId : s.receiver.checkpoint.streamId = s.receiver.streamId
  epoch : s.receiver.checkpoint.epoch = s.receiver.epoch

theorem Sited.deliver (h : s.Sited token) (op : PendingReplicaOp) (attempt : Attempt) :
    (s.deliver H D token op attempt).2.Sited token := by
  have hconfig : (s.deliver H D token op attempt).2.receiver.toReceiverConfig =
      s.receiver.toReceiverConfig := s.receiver.ingest_config attempt.now _ _
  have hstream : (s.deliver H D token op attempt).2.receiver.checkpoint.streamId =
      s.receiver.streamId ∧
      (s.deliver H D token op attempt).2.receiver.checkpoint.epoch = s.receiver.epoch := by
    by_cases hok : (s.ingest H D token op attempt).1 = .ok ()
    · have hadmitted := TumblerReplicaReceiver.admitted_of_ingest hok
      rw [(deliver_ok hok).1]
      exact ⟨hadmitted.streamId, hadmitted.epoch⟩
    · rw [(deliver_refused hok).1]
      exact ⟨h.streamId, h.epoch⟩
  exact ⟨(congrArg (·.token) hconfig).trans h.token,
    hstream.1.trans (congrArg (·.streamId) hconfig).symm,
    hstream.2.trans (congrArg (·.epoch) hconfig).symm⟩

theorem Sited.pushed (h : s.Sited token) (ok : Bool) : (s.pushed ok).Sited token :=
  ⟨h.token, h.streamId, h.epoch⟩

theorem Sited.step {l : LinkLabel} (h : s.Sited token)
    (hstep : (linkMachine H D token).step s l = some t) : t.Sited token := by
  have hkeep : t.receiver = s.receiver → t.Sited token := fun hreceiver => by
    constructor <;> rw [hreceiver]
    exacts [h.token, h.streamId, h.epoch]
  cases l with
  | call mutation => exact hkeep (outbox_step hstep (.inl ⟨mutation, rfl⟩)).1
  | resume index now answer =>
    exact hkeep (outbox_step hstep (.inr ⟨index, now, answer, rfl⟩)).1
  | requestLost =>
    obtain ⟨_, -, rfl⟩ := Option.map_eq_some_iff.mp hstep
    exact hkeep rfl
  | responseLost attempt =>
    obtain ⟨op, -, rfl⟩ := Option.map_eq_some_iff.mp hstep
    exact (h.deliver op attempt).pushed false
  | returned attempt =>
    obtain ⟨op, hop, -⟩ := Option.map_eq_some_iff.mp hstep
    rcases step_returned hop attempt with ⟨-, hstate⟩ | ⟨-, hstate⟩ <;>
      obtain rfl := Option.some.inj (hstate.symm.trans hstep)
    · exact (h.deliver op attempt).pushed true
    · exact (h.deliver op attempt).pushed false

def InSkew (s : LinkState) (attempt : Attempt) : Prop :=
  ((attempt.now - attempt.sentAt).natAbs : Int) ≤ s.receiver.maxClockSkewMs

/-- A push of a head that the receiver has taken is counted as acknowledged. -/
def Acknowledges (H : HmacSha256) (D : Sha256) (token : ReplicaToken) (s : LinkState) : Prop :=
  ∀ op rest, s.store.queue = op :: rest → op ∈ s.applied → ∀ attempt, s.InSkew attempt →
    ∀ t, (linkMachine H D token).step s (.returned attempt) = some t → t.store.queue = rest

/-- The receiver's rules do not refuse the operation. -/
def Accepts (H : HmacSha256) (token : ReplicaToken) (s : LinkState) (op : PendingReplicaOp)
    (attempt : Attempt) : Prop :=
  let envelope := signReplicaEnvelope H token op attempt.sentAt
  let (stage, receiver) := s.receiver.enter attempt.now op.mutation
  validateTumblerOp envelope = .ok () ∧
    (receiver.finishIngest attempt.now (fun _ _ => attempt.rawSecret) envelope stage).1 = .ok ()

/-- A push of a head that the receiver's rules do not refuse is counted as acknowledged. -/
def Advances (H : HmacSha256) (D : Sha256) (token : ReplicaToken) (s : LinkState) : Prop :=
  ∀ op rest, s.store.queue = op :: rest → ∀ attempt, s.InSkew attempt →
    s.Accepts H token op attempt →
    ∀ t, (linkMachine H D token).step s (.returned attempt) = some t → t.store.queue = rest

theorem Flowing.acknowledges (h : s.Flowing D) : s.Acknowledges H D token := by
  intro op rest hqueue happlied
  have hahead := h.ahead op (by rw [hqueue]; exact List.mem_cons_self)
  have hreached := h.applied op happlied
  omega

theorem Flowing.advances (h : s.Flowing D) (hsited : s.Sited token)
    (hkept : s.store.integrityLost = false) : s.Advances H D token := by
  intro op rest hqueue attempt hskew haccepts t hstep
  obtain ⟨hvalid, hfinished⟩ := haccepts
  have hstream := h.stream hkept
  rw [hqueue] at hstream
  obtain ⟨c, -, hlink, -⟩ := hstream.cons_inv
  obtain ⟨hlink, -⟩ := streamMachine_step.mp hlink
  have hadmitted : Admitted H D s.receiver attempt.now
      (signReplicaEnvelope H token op attempt.sentAt) := by
    refine ⟨hvalid, ?_, hskew, ?_, ?_, ?_, ?_, ?_⟩
    · rw [hsited.token]
      exact verify_signReplicaEnvelope H token op attempt.sentAt
    all_goals simp only [signReplicaEnvelope]
    all_goals rw [hlink]
    · exact hsited.streamId
    · exact hsited.epoch
    all_goals rfl
  have hok : (s.ingest H D token op attempt).1 = .ok () := by
    rw [ingest, TumblerReplicaReceiver.ingest_of_admitted hadmitted]
    exact hfinished
  rcases step_returned (s := s) (by rw [hqueue]; rfl) attempt with ⟨-, hstate⟩ | ⟨hrefused, -⟩
  · rw [← Option.some.inj (hstate.symm.trans hstep), store_acknowledged H D token hqueue]
  · exact absurd hok hrefused

theorem Stuck.not_acknowledges (h : s.Stuck op) : ¬ s.Acknowledges H D token := by
  intro hacknowledges
  obtain ⟨rest, hqueue⟩ : ∃ rest, s.store.queue = op :: rest := List.head?_eq_some_iff.mp h.head
  have hskew : s.InSkew ⟨0, 0, none⟩ := by simpa [InSkew] using h.skew
  rcases step_returned h.head ⟨0, 0, none⟩ with ⟨hok, -⟩ | ⟨-, hstate⟩
  · exact ingest_reached h.reached hok
  · have hrest := hacknowledges op rest hqueue h.applied _ hskew _ hstate
    rw [store_unheard, hqueue] at hrest
    simp at hrest

end LinkState

/-- A source and a receiver set up for one stream. -/
structure Paired (token : ReplicaToken) (source : ReplicatingTumblerStore)
    (receiver : TumblerReplicaReceiver) : Prop where
  token : receiver.token = token
  queue : source.queue = []
  checkpoint : receiver.checkpoint = source.checkpoint
  streamId : receiver.streamId = source.checkpoint.streamId
  epoch : receiver.epoch = source.checkpoint.epoch

/-- Pushes of an operation the receiver has taken are acknowledged exactly in the runs that lose
no response to a taken push; in those the head never waits for anything but its delivery. -/
theorem applied_push_acknowledged {source : ReplicatingTumblerStore}
    {receiver : TumblerReplicaReceiver} {s : LinkState} {ls : List LinkLabel}
    (hpaired : Paired token source receiver)
    (hrun : (linkMachine H D token).Reaches (.start source receiver) ls s) :
    (s.Acknowledges H D token ↔
      (linkMachine H D token).Runs (Heard H D token) (.start source receiver) ls s) ∧
    (s.Acknowledges H D token → s.store.integrityLost = false → s.Advances H D token) := by
  have hflowing : (linkMachine H D token).Runs (Heard H D token) (.start source receiver) ls s →
      s.Flowing D := fun hheard =>
    hheard.invariant (fun _ _ _ h hl hstep => h.step hl hstep)
      (.start hpaired.queue hpaired.checkpoint)
  have hsited : s.Sited token := by
    refine hrun.invariant (fun _ _ _ h _ hstep => h.step hstep) ⟨hpaired.token, ?_, ?_⟩
    · exact (congrArg (·.streamId) hpaired.checkpoint).trans hpaired.streamId.symm
    · exact (congrArg (·.epoch) hpaired.checkpoint).trans hpaired.epoch.symm
  have hback : s.Acknowledges H D token →
      (linkMachine H D token).Runs (Heard H D token) (.start source receiver) ls s := by
    intro hacknowledges
    rcases LinkState.heard_or_stuck hrun with hheard | ⟨op, hstuck⟩
    · exact hheard
    · exact absurd hacknowledges hstuck.not_acknowledges
  exact ⟨⟨hback, fun hheard => (hflowing hheard).acknowledges⟩,
    fun hacknowledges hkept => (hflowing (hback hacknowledges)).advances hsited hkept⟩

section Sample

def sampleAttempt : Attempt := ⟨0, 0, some (List.replicate 64 97)⟩

/-- A client is stored and queued; the first push is lost on its way. -/
def sampleQueued : List LinkLabel :=
  [.call (.set (JsString.lit "tsk_a") sampleTwinMap), .resume 0 0 (some (List.replicate 64 97)),
    .requestLost]

theorem sample_paired : Paired sampleToken sampleSource sampleReceiver :=
  ⟨rfl, rfl, rfl, rfl, rfl⟩

def LinkState.observe (s : LinkState) : List PendingReplicaOp × List PendingReplicaOp :=
  (s.store.queue, s.applied)

end Sample

theorem applied_push_acknowledged_sample : ∃ s,
    (linkMachine mirrorHmac mirrorSha256 sampleToken).Runs
      (Heard mirrorHmac mirrorSha256 sampleToken) (.start sampleSource sampleReceiver)
      (sampleQueued ++ [.returned sampleAttempt]) s ∧
    s.observe = ([], [sampleSetOp]) ∧ s.Acknowledges mirrorHmac mirrorSha256 sampleToken := by
  obtain ⟨s, hrun, hobserve⟩ := Machine.Runs.of_observed
    (M := linkMachine mirrorHmac mirrorSha256 sampleToken)
    (C := Heard mirrorHmac mirrorSha256 sampleToken) (.start sampleSource sampleReceiver)
    (sampleQueued ++ [.returned sampleAttempt]) LinkState.observe
    (b := ([], [sampleSetOp])) (by decide +kernel)
  exact ⟨s, hrun, hobserve,
    (applied_push_acknowledged sample_paired (hrun.mono fun _ _ _ => trivial)).1.mpr hrun⟩

/-- The receiver takes the set and its response is lost: the next push comes back, is refused as
a replay, and the set stays at the head of the queue. -/
theorem lost_response_wedges_queue : ∃ s t,
    (linkMachine mirrorHmac mirrorSha256 sampleToken).Reaches (.start sampleSource sampleReceiver)
      (sampleQueued ++ [.responseLost sampleAttempt]) s ∧
    (linkMachine mirrorHmac mirrorSha256 sampleToken).step s (.returned sampleAttempt) = some t ∧
    s.observe = ([sampleSetOp], [sampleSetOp]) ∧ t.observe = ([sampleSetOp], [sampleSetOp]) := by
  obtain ⟨s, hrun, hobserve⟩ := Machine.Runs.of_observed
    (M := linkMachine mirrorHmac mirrorSha256 sampleToken) (C := fun _ _ => True)
    (.start sampleSource sampleReceiver) (sampleQueued ++ [.responseLost sampleAttempt])
    (fun s => (s.observe, ((linkMachine mirrorHmac mirrorSha256 sampleToken).step s
      (.returned sampleAttempt)).map LinkState.observe))
    (b := (([sampleSetOp], [sampleSetOp]), some ([sampleSetOp], [sampleSetOp])))
    (by decide +kernel)
  obtain ⟨hobserve, hnext⟩ := Prod.mk.inj hobserve
  obtain ⟨t, hstep, ht⟩ := Option.map_eq_some_iff.mp hnext
  exact ⟨s, t, hrun, hstep, hobserve, ht⟩

end TskProtocol
