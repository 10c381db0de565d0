import TskProtocol.Outbox.Utf8
import TskProtocol.Server.Promotion

namespace TskProtocol

structure FenceDurabilityPolicy where
  waitReplicas : Nat
  waitTimeoutMs : Nat
  waitReplicas_pos : 1 ≤ waitReplicas
  waitTimeoutMs_pos : 1 ≤ waitTimeoutMs

/-- What becomes of the connection of a durable claim. -/
structure ClaimLink where
  connects : Bool := true
  /-- When the reply to the script is lost: whether the script ran. -/
  lost : Option Bool := none
  /-- The replicas that acknowledge the write, when the reply to `WAIT` comes back. -/
  acked : Option Nat := none
  deriving DecidableEq, Repr

inductive RedisFenceError
  | corrupt | connection | durabilityUncertain
  deriving DecidableEq, Repr

/-- The checks of a record that was parsed. -/
def parseFenceRecord (record : FenceRecord) : Except RedisFenceError FenceRecord := do
  require (record.nodeId ≠ [] ∧ isSafeInteger record.fenceEpoch = true ∧ 1 ≤ record.fenceEpoch ∧
    isSafeInteger record.expiresAt = true ∧ 0 ≤ record.expiresAt ∧ record.commandId ≠ []) .corrupt
  return record

/-- `cjson.decode`, which refuses an escaped lone surrogate. -/
def cjsonDecode (record : FenceRecord) : Except RedisFenceError FenceRecord := do
  require (record.nodeId.hasLoneSurrogate = false ∧ record.commandId.hasLoneSurrogate = false) .corrupt
  return record

/-- The closest multiple of `unit`, the even one of two. -/
def roundToMultiple (unit n : Nat) : Nat :=
  let quotient := n / unit
  let rest := n % unit
  if 2 * rest < unit ∨ 2 * rest = unit ∧ quotient % 2 = 0 then unit * quotient else unit * (quotient + 1)

/-- What `%.14g` writes of an integer. -/
def fourteenDigits (n : Int) : Int :=
  n.sign * roundToMultiple (Nat.pow 10 ((JsString.ofNat n.natAbs).length - 14)) n.natAbs

/-- `cjson.encode`. -/
def cjsonEncode (record : FenceRecord) : FenceRecord :=
  { record with
    fenceEpoch := fourteenDigits record.fenceEpoch
    expiresAt := fourteenDigits record.expiresAt }

/-- `CLAIM_SCRIPT`: whether it claims, and what the key then holds. -/
def claimScript (current : Option FenceRecord) (fenceEpoch : Int) (next : FenceRecord) :
    Except RedisFenceError (Bool × Option FenceRecord) :=
  match current with
  | none => .ok (true, some next)
  | some raw => do
    let record ← cjsonDecode raw
    return if fenceEpoch ≤ record.fenceEpoch then (false, current) else (true, some next)

/-- `RELEASE_SCRIPT`; the arguments arrive in UTF-8. -/
def releaseScript (current : Option FenceRecord) (nodeId : JsString) (fenceEpoch : Int) (commandId : JsString) :
    Except RedisFenceError (Bool × Option FenceRecord) :=
  match current with
  | none => .ok (false, none)
  | some raw => do
    let record ← cjsonDecode raw
    return if record.active = false ∨ record.nodeId.utf8 ≠ nodeId.utf8 ∨ record.fenceEpoch ≠ fenceEpoch ∨
        record.commandId.utf8 ≠ commandId.utf8 then (false, current)
      else (true, some (cjsonEncode { record with active := false }))

structure RedisFencingStore where
  /-- The record that the text under the key stands for. -/
  raw : Option FenceRecord := none
  durability : Option FenceDurabilityPolicy := none

namespace RedisFencingStore

def current (store : RedisFencingStore) : Except RedisFenceError (Option FenceRecord) :=
  match store.raw with
  | none => .ok none
  | some raw => (parseFenceRecord raw).map some

/-- A script that runs, or fails and changes nothing. -/
def eval (store : RedisFencingStore) (result : Except RedisFenceError (Bool × Option FenceRecord)) :
    Except RedisFenceError Bool × RedisFencingStore :=
  match result with
  | .error e => (.error e, store)
  | .ok (reply, raw) => (.ok reply, { store with raw })

/-- The claim over a connection of its own, which then waits for the replicas. -/
def durableClaim (store : RedisFencingStore) (policy : FenceDurabilityPolicy) (link : ClaimLink)
    (result : Except RedisFenceError (Bool × Option FenceRecord)) :
    Except RedisFenceError Bool × RedisFencingStore :=
  if link.connects = false then (.error .connection, store)
  else
    match link.lost with
    | some ran => (.error .durabilityUncertain, if ran then (store.eval result).2 else store)
    | none =>
      match store.eval result with
      | (.error _, next) => (.error .durabilityUncertain, next)
      | (.ok false, next) => (.ok false, next)
      | (.ok true, next) =>
        if link.acked.any fun acked => policy.waitReplicas ≤ acked then (.ok true, next)
        else (.error .durabilityUncertain, next)

def claim (store : RedisFencingStore) (nodeId : JsString) (fenceEpoch expiresAt : Int) (commandId : JsString)
    (link : ClaimLink) : Except RedisFenceError Bool × RedisFencingStore :=
  let next : FenceRecord := ⟨nodeId, fenceEpoch, expiresAt, commandId, true⟩
  match parseFenceRecord next with
  | .error e => (.error e, store)
  | .ok next =>
    let result := claimScript store.raw fenceEpoch next
    match store.durability with
    | none => store.eval result
    | some policy => store.durableClaim policy link result

def release (store : RedisFencingStore) (nodeId : JsString) (fenceEpoch : Int) (commandId : JsString) :
    Except RedisFenceError Bool × RedisFencingStore :=
  store.eval (releaseScript store.raw nodeId fenceEpoch commandId)

end RedisFencingStore

inductive FenceCall
  | claim (nodeId : JsString) (fenceEpoch expiresAt : Int) (commandId : JsString) (link : ClaimLink)
  | release (nodeId : JsString) (fenceEpoch : Int) (commandId : JsString)
  | current
  deriving DecidableEq, Repr

/-- What a call resolves to. -/
inductive FenceReply
  | answer (claimed : Bool)
  | fence (record : Option FenceRecord)
  deriving DecidableEq, Repr

def MemoryFencingStore.call (store : MemoryFencingStore) : FenceCall → FenceReply × MemoryFencingStore
  | .claim nodeId fenceEpoch expiresAt commandId _ =>
    let (claimed, next) := store.claim nodeId fenceEpoch expiresAt commandId
    (.answer claimed, next)
  | .release nodeId fenceEpoch commandId =>
    let (released, next) := store.release nodeId fenceEpoch commandId
    (.answer released, next)
  | .current => (.fence store.current, store)

def RedisFencingStore.call (store : RedisFencingStore) :
    FenceCall → Except RedisFenceError FenceReply × RedisFencingStore
  | .claim nodeId fenceEpoch expiresAt commandId link =>
    let (claimed, next) := store.claim nodeId fenceEpoch expiresAt commandId link
    (claimed.map .answer, next)
  | .release nodeId fenceEpoch commandId =>
    let (released, next) := store.release nodeId fenceEpoch commandId
    (released.map .answer, next)
  | .current => (store.current.map .fence, store)

/-- The two stores answer a call alike and then hold one fence. -/
def SameStep (redis : RedisFencingStore) (memory : MemoryFencingStore) (call : FenceCall) : Prop :=
  (redis.call call).1 = .ok (memory.call call).1 ∧ (redis.call call).2.raw = (memory.call call).2.record

/-- They do so for every call of a sequence. -/
def SameRun (redis : RedisFencingStore) (memory : MemoryFencingStore) : List FenceCall → Prop
  | [] => True
  | call :: rest => SameStep redis memory call ∧ SameRun (redis.call call).2 (memory.call call).2 rest

/-- A fence that can be stored and read back. -/
def FenceRecord.Valid (record : FenceRecord) : Prop := parseFenceRecord record = .ok record

/-- The ids of a fence can be decoded. -/
def FenceRecord.Decodable (record : FenceRecord) : Prop :=
  record.nodeId.hasLoneSurrogate = false ∧ record.commandId.hasLoneSurrogate = false

/-- The connection of a durable claim holds, and enough replicas acknowledge what it writes. -/
def ClaimLink.Holds (link : ClaimLink) (policy : FenceDurabilityPolicy) (writes : Prop) : Prop :=
  link.connects = true ∧ link.lost = none ∧ (writes → link.acked.any (fun acked => policy.waitReplicas ≤ acked) = true)

/-- What a call has to meet under the fence that is held. -/
def FenceCall.Portable (call : FenceCall) (durability : Option FenceDurabilityPolicy) (held : Option FenceRecord) :
    Prop :=
  match call with
  | .claim nodeId fenceEpoch expiresAt commandId link =>
    FenceRecord.Valid ⟨nodeId, fenceEpoch, expiresAt, commandId, true⟩ ∧
      (∀ fence ∈ held, fence.Decodable) ∧
      ∀ policy ∈ durability, link.Holds policy (∀ fence ∈ held, fence.fenceEpoch < fenceEpoch)
  | .release nodeId fenceEpoch commandId => ∀ fence ∈ held, fence.Decodable ∧
      (fence.active = true → fence.fenceEpoch = fenceEpoch → fence.nodeId.utf8 = nodeId.utf8 →
        fence.commandId.utf8 = commandId.utf8 → fence.nodeId = nodeId ∧ fence.commandId = commandId ∧
          fourteenDigits fence.fenceEpoch = fence.fenceEpoch ∧ fourteenDigits fence.expiresAt = fence.expiresAt)
  | .current => True

/-- Every call of a sequence meets it in the state that it is made in. -/
def AllPortable (redis : RedisFencingStore) : List FenceCall → Prop
  | [] => True
  | call :: rest => call.Portable redis.durability redis.raw ∧ AllPortable (redis.call call).2 rest

theorem parseFenceRecord_eq {record r : FenceRecord} (h : parseFenceRecord record = .ok r) : r = record := by
  obtain ⟨_, -, h⟩ := bind_eq_ok.mp h
  exact (Except.ok.inj h).symm

theorem cjsonDecode_decodable {record : FenceRecord} (h : record.Decodable) : cjsonDecode record = .ok record := by
  rw [cjsonDecode, require_pos (show _ ∧ _ from h)]
  rfl

theorem cjsonDecode_undecodable {record : FenceRecord} (h : ¬ record.Decodable) :
    cjsonDecode record = .error .corrupt := by
  rw [cjsonDecode, require_neg (show ¬ (_ ∧ _) from h)]
  rfl

/-- Whether the fence is active does not matter to its checks. -/
theorem FenceRecord.Valid.inactive {record : FenceRecord} (h : record.Valid) :
    FenceRecord.Valid { record with active := false } := by
  obtain ⟨_, hchecks, -⟩ := bind_eq_ok.mp h
  exact bind_eq_ok.mpr ⟨(), hchecks, rfl⟩

theorem cjsonEncode_eq_iff (record : FenceRecord) :
    cjsonEncode record = record ↔
      fourteenDigits record.fenceEpoch = record.fenceEpoch ∧ fourteenDigits record.expiresAt = record.expiresAt := by
  cases record
  simp [cjsonEncode]

/-- The stores hold one fence, and Redis can read it. -/
structure SameFence (redis : RedisFencingStore) (memory : MemoryFencingStore) : Prop where
  same : redis.raw = memory.record
  valid : ∀ fence ∈ redis.raw, fence.Valid

variable {redis : RedisFencingStore} {memory : MemoryFencingStore}

theorem MemoryFencingStore.claim_eq (memory : MemoryFencingStore) (nodeId : JsString) (fenceEpoch expiresAt : Int)
    (commandId : JsString) :
    memory.claim nodeId fenceEpoch expiresAt commandId =
      if ∀ fence ∈ memory.record, fence.fenceEpoch < fenceEpoch then
        (true, ⟨some ⟨nodeId, fenceEpoch, expiresAt, commandId, true⟩⟩)
      else (false, memory) := by
  obtain ⟨_ | fence⟩ := memory
  · rfl
  · by_cases h : fenceEpoch ≤ fence.fenceEpoch
    · simp [MemoryFencingStore.claim, h]
    · simp [MemoryFencingStore.claim, h, Int.not_le.mp h]

/-- The script does what the memory store does, when it can decode the fence. -/
theorem claimScript_decodable (memory : MemoryFencingStore) (nodeId : JsString) (fenceEpoch expiresAt : Int)
    (commandId : JsString) (h : ∀ fence ∈ memory.record, fence.Decodable) :
    claimScript memory.record fenceEpoch ⟨nodeId, fenceEpoch, expiresAt, commandId, true⟩ =
      .ok ((memory.claim nodeId fenceEpoch expiresAt commandId).1,
        (memory.claim nodeId fenceEpoch expiresAt commandId).2.record) := by
  obtain ⟨_ | fence⟩ := memory
  · rfl
  · rw [claimScript, cjsonDecode_decodable (h fence rfl), bind_ok]
    by_cases hepoch : fenceEpoch ≤ fence.fenceEpoch <;> simp [MemoryFencingStore.claim, hepoch]

theorem claimScript_undecodable {fence : FenceRecord} (fenceEpoch : Int) (next : FenceRecord)
    (h : ¬ fence.Decodable) : claimScript (some fence) fenceEpoch next = .error .corrupt := by
  rw [claimScript, cjsonDecode_undecodable h, bind_error]

namespace RedisFencingStore

/-- What a script that fails leaves to answer. -/
theorem durableClaim_error (store : RedisFencingStore) (policy : FenceDurabilityPolicy) (link : ClaimLink)
    (e : RedisFenceError) (b : Bool) : (store.durableClaim policy link (.error e)).1 ≠ .ok b := by
  rw [durableClaim]
  split
  · nofun
  · split <;> nofun

/-- A durable claim answers what its script answers exactly when the connection holds. -/
theorem durableClaim_eq_iff (store : RedisFencingStore) (policy : FenceDurabilityPolicy) (link : ClaimLink)
    (claimed : Bool) (raw : Option FenceRecord) :
    (store.durableClaim policy link (.ok (claimed, raw))).1 = .ok claimed ↔ link.Holds policy (claimed = true) := by
  rw [durableClaim, ClaimLink.Holds]
  by_cases hconnects : link.connects = false
  · simp [hconnects]
  rw [if_neg hconnects]
  cases hlost : link.lost with
  | some ran => simp
  | none =>
    cases claimed with
    | false => simpa [eval] using hconnects
    | true =>
      by_cases hacked : link.acked.any (fun acked => policy.waitReplicas ≤ acked) = true
      · simp [eval, hacked, hconnects]
      · simp [eval, hacked]

theorem durableClaim_raw {store : RedisFencingStore} {policy : FenceDurabilityPolicy} {link : ClaimLink}
    {claimed b : Bool} {raw : Option FenceRecord}
    (h : (store.durableClaim policy link (.ok (claimed, raw))).1 = .ok b) :
    (store.durableClaim policy link (.ok (claimed, raw))).2.raw = raw := by
  rw [durableClaim] at h ⊢
  by_cases hconnects : link.connects = false
  · rw [if_pos hconnects] at h
    cases h
  rw [if_neg hconnects] at h ⊢
  cases hlost : link.lost with
  | some ran =>
    rw [hlost] at h
    cases h
  | none =>
    cases claimed with
    | false => rfl
    | true =>
      simp only [eval]
      split <;> rfl

end RedisFencingStore

theorem sameStep_current (h : SameFence redis memory) : SameStep redis memory .current := by
  refine ⟨?_, h.same⟩
  have hsame := h.same
  obtain ⟨_ | fence, durability⟩ := redis
  · simp only [RedisFencingStore.call, RedisFencingStore.current, MemoryFencingStore.call, MemoryFencingStore.current,
      ← hsame]
    rfl
  · have hvalid : parseFenceRecord fence = .ok fence := h.valid fence rfl
    simp only [RedisFencingStore.call, RedisFencingStore.current, MemoryFencingStore.call, MemoryFencingStore.current,
      ← hsame, hvalid]
    rfl

theorem claimed_iff (memory : MemoryFencingStore) (nodeId : JsString) (fenceEpoch expiresAt : Int)
    (commandId : JsString) :
    (memory.claim nodeId fenceEpoch expiresAt commandId).1 = true ↔
      ∀ fence ∈ memory.record, fence.fenceEpoch < fenceEpoch := by
  rw [memory.claim_eq]
  split
  case isTrue h => exact iff_of_true rfl h
  case isFalse h => exact iff_of_false Bool.false_ne_true h

theorem RedisFencingStore.claim_valid {nodeId : JsString} {fenceEpoch expiresAt : Int} {commandId : JsString}
    (redis : RedisFencingStore) (link : ClaimLink)
    (h : FenceRecord.Valid ⟨nodeId, fenceEpoch, expiresAt, commandId, true⟩) :
    redis.claim nodeId fenceEpoch expiresAt commandId link =
      match redis.durability with
      | none => redis.eval (claimScript redis.raw fenceEpoch ⟨nodeId, fenceEpoch, expiresAt, commandId, true⟩)
      | some policy =>
        redis.durableClaim policy link
          (claimScript redis.raw fenceEpoch ⟨nodeId, fenceEpoch, expiresAt, commandId, true⟩) := by
  simp only [claim, show parseFenceRecord _ = .ok _ from h]

theorem map_answer_eq_ok {x : Except RedisFenceError Bool} {b : Bool} :
    x.map FenceReply.answer = .ok (.answer b) ↔ x = .ok b := by
  simp [map_eq_ok]

theorem sameStep_claim_iff (h : SameFence redis memory) (nodeId : JsString) (fenceEpoch expiresAt : Int)
    (commandId : JsString) (link : ClaimLink) :
    SameStep redis memory (.claim nodeId fenceEpoch expiresAt commandId link) ↔
      FenceCall.Portable (.claim nodeId fenceEpoch expiresAt commandId link) redis.durability redis.raw := by
  simp only [SameStep, FenceCall.Portable, RedisFencingStore.call, MemoryFencingStore.call, map_answer_eq_ok]
  by_cases hvalid : FenceRecord.Valid ⟨nodeId, fenceEpoch, expiresAt, commandId, true⟩
  case neg =>
    refine iff_of_false (fun ⟨hreply, _⟩ => hvalid ?_) (fun hportable => hvalid hportable.1)
    cases hparse : parseFenceRecord ⟨nodeId, fenceEpoch, expiresAt, commandId, true⟩ with
    | error e => simp [RedisFencingStore.claim, hparse] at hreply
    | ok r => rw [FenceRecord.Valid, hparse, parseFenceRecord_eq hparse]
  rw [redis.claim_valid link hvalid]
  by_cases hdecodable : ∀ fence ∈ redis.raw, fence.Decodable
  case neg =>
    refine iff_of_false (fun ⟨hreply, _⟩ => ?_) (fun hportable => hdecodable hportable.2.1)
    obtain ⟨fence, hraw, hfence⟩ := not_forall₂.mp hdecodable
    rw [show redis.raw = some fence from hraw, claimScript_undecodable _ _ hfence] at hreply
    cases hdurability : redis.durability with
    | none =>
      rw [hdurability] at hreply
      cases hreply
    | some policy =>
      rw [hdurability] at hreply
      exact redis.durableClaim_error policy link _ _ hreply
  rw [h.same] at hdecodable ⊢
  rw [claimScript_decodable memory nodeId fenceEpoch expiresAt commandId hdecodable]
  cases hdurability : redis.durability with
  | none => exact iff_of_true ⟨rfl, rfl⟩ ⟨hvalid, hdecodable, nofun⟩
  | some policy =>
    simp only [Option.mem_some_iff, forall_eq', ← claimed_iff memory nodeId fenceEpoch expiresAt commandId]
    rw [← redis.durableClaim_eq_iff policy link _ (memory.claim nodeId fenceEpoch expiresAt commandId).2.record]
    exact ⟨fun ⟨hreply, _⟩ => ⟨hvalid, hdecodable, hreply⟩,
      fun ⟨_, _, hreply⟩ => ⟨hreply, RedisFencingStore.durableClaim_raw hreply⟩⟩

/-- What the script takes for the held fence, by the bytes of its ids. -/
theorem releaseScript_decodable {fence : FenceRecord} (nodeId : JsString) (fenceEpoch : Int) (commandId : JsString)
    (h : fence.Decodable) :
    releaseScript (some fence) nodeId fenceEpoch commandId =
      .ok (if fence.active = false ∨ fence.nodeId.utf8 ≠ nodeId.utf8 ∨ fence.fenceEpoch ≠ fenceEpoch ∨
          fence.commandId.utf8 ≠ commandId.utf8 then (false, some fence)
        else (true, some (cjsonEncode { fence with active := false }))) := by
  rw [releaseScript, cjsonDecode_decodable h, bind_ok]
  rfl

theorem sameStep_release_iff (h : SameFence redis memory) (nodeId : JsString) (fenceEpoch : Int)
    (commandId : JsString) :
    SameStep redis memory (.release nodeId fenceEpoch commandId) ↔
      FenceCall.Portable (.release nodeId fenceEpoch commandId) redis.durability redis.raw := by
  simp only [SameStep, FenceCall.Portable, RedisFencingStore.call, MemoryFencingStore.call, map_answer_eq_ok,
    RedisFencingStore.release, MemoryFencingStore.release, h.same]
  obtain ⟨_ | fence⟩ := memory
  · exact iff_of_true ⟨rfl, rfl⟩ (fun _ hnone => absurd hnone (Option.not_mem_none _))
  simp only [Option.mem_some_iff, forall_eq']
  by_cases hdecodable : fence.Decodable
  case neg =>
    rw [releaseScript, cjsonDecode_undecodable hdecodable]
    refine iff_of_false (fun hreply => ?_) (fun hportable => hdecodable hportable.1)
    cases hreply.1
  rw [releaseScript_decodable nodeId fenceEpoch commandId hdecodable]
  by_cases hbytes : fence.active = false ∨ fence.nodeId.utf8 ≠ nodeId.utf8 ∨ fence.fenceEpoch ≠ fenceEpoch ∨
      fence.commandId.utf8 ≠ commandId.utf8
  · -- Ids of other bytes are other ids, so both stores refuse.
    have hids : fence.active = false ∨ fence.nodeId ≠ nodeId ∨ fence.fenceEpoch ≠ fenceEpoch ∨
        fence.commandId ≠ commandId :=
      hbytes.imp_right (Or.imp (mt (congrArg _)) (Or.imp_right (mt (congrArg _))))
    rw [if_pos hbytes, if_pos hids]
    refine iff_of_true ⟨rfl, rfl⟩ ⟨hdecodable, fun hactive hepoch hnode hcommand => ?_⟩
    simp [hactive, hepoch, hnode, hcommand] at hbytes
  · rw [if_neg hbytes]
    obtain ⟨hactive, hnode, hepoch, hcommand⟩ : fence.active = true ∧ fence.nodeId.utf8 = nodeId.utf8 ∧
        fence.fenceEpoch = fenceEpoch ∧ fence.commandId.utf8 = commandId.utf8 := by
      simpa [not_or] using hbytes
    by_cases hids : fence.nodeId = nodeId ∧ fence.commandId = commandId
    · rw [if_neg (by simp [hactive, hids, hepoch])]
      simp only [RedisFencingStore.eval, Option.some.injEq, cjsonEncode_eq_iff, hdecodable, hactive, hepoch,
        hids, true_and, true_imp_iff]
    · refine iff_of_false (fun hstep => ?_)
        (fun hportable => hids ((hportable.2 hactive hepoch hnode hcommand).imp_right And.left))
      have hreply := hstep.1
      rw [if_pos (by simpa [hactive, hepoch, ← not_and_or] using hids)] at hreply
      cases hreply

theorem sameStep_iff (h : SameFence redis memory) (call : FenceCall) :
    SameStep redis memory call ↔ call.Portable redis.durability redis.raw := by
  cases call with
  | claim nodeId fenceEpoch expiresAt commandId link =>
    exact sameStep_claim_iff h nodeId fenceEpoch expiresAt commandId link
  | release nodeId fenceEpoch commandId => exact sameStep_release_iff h nodeId fenceEpoch commandId
  | current => exact iff_of_true (sameStep_current h) trivial

/-- A call that both stores answer alike leaves a fence that Redis can read. -/
theorem SameFence.call (h : SameFence redis memory) {call : FenceCall} (hstep : SameStep redis memory call) :
    SameFence (redis.call call).2 (memory.call call).2 := by
  refine ⟨hstep.2, ?_⟩
  rw [hstep.2]
  have hportable := (sameStep_iff h call).mp hstep
  have hvalid := h.valid
  rw [h.same] at hvalid
  cases call with
  | current => exact hvalid
  | claim nodeId fenceEpoch expiresAt commandId link =>
    simp only [MemoryFencingStore.call, memory.claim_eq]
    split
    · rintro fence ⟨⟩
      exact hportable.1
    · exact hvalid
  | release nodeId fenceEpoch commandId =>
    obtain ⟨_ | held⟩ := memory
    · exact hvalid
    · simp only [MemoryFencingStore.call, MemoryFencingStore.release]
      split
      · exact hvalid
      · rintro fence ⟨⟩
        exact (hvalid held rfl).inactive

theorem sameRun_iff (h : SameFence redis memory) (calls : List FenceCall) :
    SameRun redis memory calls ↔ AllPortable redis calls := by
  induction calls generalizing redis memory with
  | nil => exact Iff.rfl
  | cons call rest ih =>
    rw [SameRun, AllPortable, ← sameStep_iff h call]
    exact and_congr_right fun hstep => ih (h.call hstep)

/-- Over any calls the two stores answer alike and hold one fence exactly when every call is portable. -/
theorem redisFencing_agrees_iff (durability : Option FenceDurabilityPolicy) (calls : List FenceCall) :
    SameRun { durability } { record := none } calls ↔ AllPortable { durability } calls :=
  sameRun_iff ⟨rfl, by rintro fence ⟨⟩⟩ calls

def FenceCall.fenceEpoch? : FenceCall → Option Int
  | .claim _ fenceEpoch _ _ _ | .release _ fenceEpoch _ => some fenceEpoch
  | .current => none

/-- Redis writes fourteen digits of a released epoch, so the fence it then holds is another one. -/
theorem redisFencing_rounds :
    ¬ ∀ calls : List FenceCall,
      (∀ call ∈ calls, ∀ fenceEpoch ∈ call.fenceEpoch?, isSafeInteger fenceEpoch = true) →
        SameRun {} { record := none } calls := by
  intro h
  have hrun := h [.claim (JsString.lit "node") 100000000000001 0 (JsString.lit "command") {},
    .release (JsString.lit "node") 100000000000001 (JsString.lit "command")] (by decide)
  exact absurd hrun.2.1.2 (by decide)

end TskProtocol
