import Mathlib.Data.Rat.Floor
import TskProtocol.Js
import TskProtocol.Lib.OrderedMap

namespace TskProtocol

structure TokenBucket where
  tokens : Int
  lastRefill : Int
  deriving DecidableEq, Repr

/-- At least one token a minute. -/
structure MemoryProvisionRateLimiter where
  buckets : OrderedMap JsString TokenBucket := ∅
  maxTokens : Nat
  positive : 0 < maxTokens

namespace MemoryProvisionRateLimiter

/-- Milliseconds per token, not rounded. -/
def refillRateMs (limiter : MemoryProvisionRateLimiter) : ℚ := 60000 / limiter.maxTokens

/-- The refill by elapsed time; what is left of a period that has begun is lost. -/
def refill (limiter : MemoryProvisionRateLimiter) (now : Int) (bucket : TokenBucket) : TokenBucket :=
  let elapsed := now - bucket.lastRefill
  let newTokens := ⌊(elapsed : ℚ) / limiter.refillRateMs⌋
  if 0 < newTokens then ⟨min limiter.maxTokens (bucket.tokens + newTokens), now⟩ else bucket

def put (limiter : MemoryProvisionRateLimiter) (key : JsString) (bucket : TokenBucket) :
    MemoryProvisionRateLimiter :=
  { limiter with buckets := limiter.buckets.set key bucket }

def allow (limiter : MemoryProvisionRateLimiter) (key : JsString) (now : Int) :
    Bool × MemoryProvisionRateLimiter :=
  match limiter.buckets.get? key with
  | none => (true, limiter.put key ⟨limiter.maxTokens - 1, now⟩)
  | some bucket =>
    let refilled := limiter.refill now bucket
    if refilled.tokens ≤ 0 then (false, limiter.put key refilled)
    else (true, limiter.put key { refilled with tokens := refilled.tokens - 1 })

/-- The calls of a sequence that are allowed. -/
def allowed : MemoryProvisionRateLimiter → List (JsString × Int) → List (JsString × Int)
  | _, [] => []
  | limiter, (key, now) :: calls =>
    let (answer, next) := limiter.allow key now
    if answer then (key, now) :: next.allowed calls else next.allowed calls

end MemoryProvisionRateLimiter

/-- The calls for a key within an interval. -/
def callsBetween (key : JsString) (start stop : ℚ) (calls : List (JsString × Int)) : List (JsString × Int) :=
  calls.filter fun c => c.1 = key ∧ start ≤ c.2 ∧ c.2 ≤ stop

section Window

variable {limiter next : MemoryProvisionRateLimiter} {key : JsString} {now : Int} {bucket : TokenBucket}
  {calls : List (JsString × Int)} {start stop : ℚ} {answer : Bool}

namespace MemoryProvisionRateLimiter

@[simp] theorem put_maxTokens : (limiter.put key bucket).maxTokens = limiter.maxTokens := rfl

theorem refillRateMs_pos (limiter : MemoryProvisionRateLimiter) : 0 < limiter.refillRateMs :=
  div_pos (by norm_num) (Nat.cast_pos.mpr limiter.positive)

/-- What a bucket can still give until a time: its tokens, and those of the periods that end by then. -/
def budget (limiter : MemoryProvisionRateLimiter) (bucket : TokenBucket) (stop : ℚ) : Int :=
  bucket.tokens + ⌊(stop - bucket.lastRefill) / limiter.refillRateMs⌋

/-- A bucket between empty and full, last refilled by then. -/
structure Fills (limiter : MemoryProvisionRateLimiter) (bucket : TokenBucket) (now : ℚ) : Prop where
  nonneg : 0 ≤ bucket.tokens
  le_max : bucket.tokens ≤ limiter.maxTokens
  refilled : (bucket.lastRefill : ℚ) ≤ now

theorem Fills.budget_nonneg (h : limiter.Fills bucket stop) : 0 ≤ limiter.budget bucket stop := by
  have hperiods : 0 ≤ ⌊(stop - bucket.lastRefill) / limiter.refillRateMs⌋ :=
    Int.floor_nonneg.mpr (div_nonneg (sub_nonneg.mpr h.refilled) limiter.refillRateMs_pos.le)
  have htokens := h.nonneg
  unfold budget
  omega

theorem Fills.refill (h : limiter.Fills bucket now) : limiter.Fills (limiter.refill now bucket) now := by
  unfold MemoryProvisionRateLimiter.refill
  simp only
  split
  · next hnew =>
    have htokens := h.nonneg
    exact ⟨by simp only; omega, min_le_left _ _, le_rfl⟩
  · exact h

/-- A refill gives no more than the periods that have ended. -/
theorem budget_refill (limiter : MemoryProvisionRateLimiter) (bucket : TokenBucket) (now : Int) (stop : ℚ) :
    limiter.budget (limiter.refill now bucket) stop ≤ limiter.budget bucket stop := by
  unfold MemoryProvisionRateLimiter.refill
  simp only
  split
  · have hfloor := Int.le_floor_add (((now - bucket.lastRefill : Int) : ℚ) / limiter.refillRateMs)
      ((stop - now) / limiter.refillRateMs)
    have hsum : ((now - bucket.lastRefill : Int) : ℚ) / limiter.refillRateMs + (stop - now) / limiter.refillRateMs =
        (stop - bucket.lastRefill) / limiter.refillRateMs := by
      rw [← add_div]
      push_cast
      ring
    rw [hsum] at hfloor
    have hmin := min_le_right (limiter.maxTokens : Int)
      (bucket.tokens + ⌊((now - bucket.lastRefill : Int) : ℚ) / limiter.refillRateMs⌋)
    unfold budget
    simp only
    omega
  · exact le_rfl

/-- After a refill a bucket can give what a full one could from then on, and at most one token more. -/
theorem Fills.budget_refill_le (h : limiter.Fills bucket now) (stop : ℚ) (hstart : start ≤ now) :
    limiter.budget (limiter.refill now bucket) stop ≤
      limiter.maxTokens + ⌊(stop - start) / limiter.refillRateMs⌋ + 1 := by
  have hrate := limiter.refillRateMs_pos
  have htokens := h.refill.le_max
  unfold MemoryProvisionRateLimiter.refill at htokens ⊢
  simp only at htokens ⊢
  split
  · next hnew =>
    rw [if_pos hnew] at htokens
    have hperiods : ⌊(stop - now) / limiter.refillRateMs⌋ ≤ ⌊(stop - start) / limiter.refillRateMs⌋ := by
      gcongr
    simp only [budget]
    omega
  · next hnew =>
    rw [if_neg hnew] at htokens
    -- the period that is running has begun less than a period before the interval
    have hlt : ((now - bucket.lastRefill : Int) : ℚ) / limiter.refillRateMs < 1 := by
      have hfloor := Int.floor_lt.mp (Int.lt_add_one_of_le (not_lt.mp hnew))
      simpa using hfloor
    have hperiods : ⌊(stop - bucket.lastRefill) / limiter.refillRateMs⌋ ≤
        ⌊(stop - start) / limiter.refillRateMs⌋ + 1 := by
      rw [← Int.floor_add_one]
      apply Int.floor_le_floor
      calc (stop - bucket.lastRefill) / limiter.refillRateMs
          = (stop - now) / limiter.refillRateMs + ((now - bucket.lastRefill : Int) : ℚ) / limiter.refillRateMs := by
            rw [← add_div]
            push_cast
            ring
        _ ≤ (stop - start) / limiter.refillRateMs + 1 := by
            gcongr
    unfold budget
    omega

/-- The bucket of a key that has called before, or else a full one. -/
def bucketOf (limiter : MemoryProvisionRateLimiter) (key : JsString) (now : Int) : TokenBucket :=
  (limiter.buckets.get? key).getD ⟨limiter.maxTokens, now⟩

theorem fills_full (limiter : MemoryProvisionRateLimiter) (now : Int) :
    limiter.Fills ⟨limiter.maxTokens, now⟩ now where
  nonneg := Int.natCast_nonneg _
  le_max := le_rfl
  refilled := le_rfl

@[simp] theorem allow_maxTokens : (limiter.allow key now).2.maxTokens = limiter.maxTokens := by
  unfold allow
  split
  · rfl
  · dsimp only
    split <;> rfl

@[simp] theorem allow_refillRateMs : (limiter.allow key now).2.refillRateMs = limiter.refillRateMs := by
  rw [refillRateMs, allow_maxTokens, refillRateMs]

theorem allow_other {other : JsString} (h : other ≠ key) :
    (limiter.allow other now).2.buckets.get? key = limiter.buckets.get? key := by
  unfold allow
  split
  · exact OrderedMap.get?_set_ne _ _ h
  · dsimp only
    split <;> exact OrderedMap.get?_set_ne _ _ h

/-- A call takes a token out of the refilled bucket, if there is one. -/
theorem allow_eq (limiter : MemoryProvisionRateLimiter) (key : JsString) (now : Int) :
    limiter.allow key now =
      let refilled := limiter.refill now (limiter.bucketOf key now)
      if refilled.tokens ≤ 0 then (false, limiter.put key refilled)
      else (true, limiter.put key { refilled with tokens := refilled.tokens - 1 }) := by
  unfold allow bucketOf
  cases limiter.buckets.get? key with
  | some bucket => rfl
  | none =>
    have hfull : limiter.refill now ⟨limiter.maxTokens, now⟩ = ⟨limiter.maxTokens, now⟩ := by
      simp [MemoryProvisionRateLimiter.refill]
    have hpositive := limiter.positive
    simp only [Option.getD_none, hfull]
    rw [if_neg (by omega)]

/-- A call pays for its answer out of the refilled bucket. -/
theorem allow_self (h : limiter.Fills (limiter.bucketOf key now) now) (stop : ℚ) : ∃ bucket,
    (limiter.allow key now).2.buckets.get? key = some bucket ∧ limiter.Fills bucket now ∧
    limiter.budget bucket stop + (if (limiter.allow key now).1 then 1 else 0) ≤
      limiter.budget (limiter.refill now (limiter.bucketOf key now)) stop := by
  have hrefilled := h.refill
  rw [allow_eq]
  generalize limiter.refill now (limiter.bucketOf key now) = refilled at hrefilled
  simp only
  split
  · exact ⟨refilled, OrderedMap.get?_set_self _ _ _, hrefilled, by simp⟩
  · next htokens =>
    refine ⟨{ refilled with tokens := refilled.tokens - 1 }, OrderedMap.get?_set_self _ _ _,
      ⟨?_, ?_, hrefilled.refilled⟩, ?_⟩
    · simp only
      omega
    · have := hrefilled.le_max
      simp only
      omega
    · simp only [budget, if_true]
      omega

@[simp] theorem budget_allow {other : JsString} :
    (limiter.allow other now).2.budget bucket stop = limiter.budget bucket stop := by
  rw [budget, allow_refillRateMs, budget]

theorem Fills.allow {other : JsString} {time : ℚ} (h : limiter.Fills bucket time) :
    (limiter.allow other now).2.Fills bucket time where
  nonneg := h.nonneg
  le_max := by
    rw [allow_maxTokens]
    exact h.le_max
  refilled := h.refilled

theorem Fills.mono {time time' : ℚ} (h : limiter.Fills bucket time) (hle : time ≤ time') :
    limiter.Fills bucket time' :=
  ⟨h.nonneg, h.le_max, h.refilled.trans hle⟩

theorem mem_allowed {c : JsString × Int} (h : c ∈ limiter.allowed calls) : c ∈ calls := by
  induction calls generalizing limiter with
  | nil => exact h
  | cons call calls ih =>
    simp only [allowed] at h
    split at h
    · rcases List.mem_cons.mp h with rfl | h
      · exact List.mem_cons_self
      · exact List.mem_cons_of_mem _ (ih h)
    · exact List.mem_cons_of_mem _ (ih h)

theorem callsBetween_allowed_outside {other : JsString} (h : ¬ (other = key ∧ start ≤ now ∧ now ≤ stop)) :
    callsBetween key start stop (limiter.allowed ((other, now) :: calls)) =
      callsBetween key start stop ((limiter.allow other now).2.allowed calls) := by
  simp only [allowed]
  split
  · exact List.filter_cons_of_neg (by simpa using h)
  · rfl

theorem callsBetween_allowed_self_le (limiter : MemoryProvisionRateLimiter) (key : JsString) (now : Int)
    (calls : List (JsString × Int)) (start stop : ℚ) :
    ((callsBetween key start stop (limiter.allowed ((key, now) :: calls))).length : Int) ≤
      (callsBetween key start stop ((limiter.allow key now).2.allowed calls)).length +
        (if (limiter.allow key now).1 then 1 else 0) := by
  simp only [allowed]
  split
  · simp only [callsBetween, List.filter_cons]
    split
    · rw [List.length_cons, Nat.cast_add, Nat.cast_one]
    · omega
  · exact (Int.add_zero _).ge

/-- Nothing counts that is called too late. -/
theorem callsBetween_late (h : ∀ c ∈ calls, stop < c.2) :
    callsBetween key start stop (limiter.allowed calls) = [] := by
  apply List.filter_eq_nil_iff.mpr
  intro c hc
  have hlate := h c (mem_allowed hc)
  simp only [decide_eq_true_eq, not_and, not_le]
  exact fun _ _ => hlate

/-- However it is called, a bucket gives no more than its budget. -/
theorem allowed_le_budget (start : ℚ) (hbucket : limiter.buckets.get? key = some bucket) (hfills : limiter.Fills bucket stop)
    (hlater : ∀ c ∈ calls, bucket.lastRefill ≤ c.2) (hsorted : calls.Pairwise fun c c' => c.2 ≤ c'.2) :
    ((callsBetween key start stop (limiter.allowed calls)).length : Int) ≤ limiter.budget bucket stop := by
  induction calls generalizing limiter bucket with
  | nil => exact hfills.budget_nonneg
  | cons call calls ih =>
    obtain ⟨other, now⟩ := call
    obtain ⟨hhead, htail⟩ := List.pairwise_cons.mp hsorted
    by_cases hother : other = key
    · subst hother
      by_cases hlate : stop < now
      · rw [callsBetween_late]
        · exact hfills.budget_nonneg
        · intro c hc
          rcases List.mem_cons.mp hc with rfl | hc
          · exact hlate
          · exact hlate.trans_le (Int.cast_le.mpr (hhead c hc))
      have hof : limiter.bucketOf other now = bucket := by rw [bucketOf, hbucket, Option.getD_some]
      have hnow : limiter.Fills bucket now :=
        ⟨hfills.nonneg, hfills.le_max, Int.cast_le.mpr (hlater _ List.mem_cons_self)⟩
      obtain ⟨bucket', hbucket', hfills', hpaid⟩ := allow_self (by rw [hof]; exact hnow) stop
      rw [hof] at hpaid
      have hrest := ih hbucket' (hfills'.allow.mono (not_lt.mp hlate))
        (fun c hc => (Int.cast_le.mp hfills'.refilled).trans (hhead c hc)) htail
      rw [budget_allow] at hrest
      have hcount := limiter.callsBetween_allowed_self_le other now calls start stop
      have hrefill := limiter.budget_refill bucket now stop
      linarith
    · rw [callsBetween_allowed_outside (fun h => hother h.1), ← budget_allow]
      exact ih (by rw [allow_other hother, hbucket]) hfills.allow
        (fun c hc => hlater c (List.mem_cons_of_mem _ hc)) htail

/-- What is known of a bucket before calls that come no earlier than it was refilled. -/
def Known (limiter : MemoryProvisionRateLimiter) (key : JsString) (calls : List (JsString × Int)) : Prop :=
  ∀ bucket, limiter.buckets.get? key = some bucket →
    limiter.Fills bucket bucket.lastRefill ∧ ∀ c ∈ calls, bucket.lastRefill ≤ c.2

theorem Known.fills {call : JsString × Int} (h : limiter.Known key (call :: calls)) :
    limiter.Fills (limiter.bucketOf key call.2) call.2 := by
  unfold bucketOf
  cases hbucket : limiter.buckets.get? key with
  | none => exact limiter.fills_full call.2
  | some bucket =>
    obtain ⟨hfills, hlater⟩ := h bucket hbucket
    exact hfills.mono (Int.cast_le.mpr (hlater call List.mem_cons_self))

/-- The bound over every interval: a call within it is the first of its key there. -/
theorem Known.allowed_le (hknown : limiter.Known key calls) (hsorted : calls.Pairwise fun c c' => c.2 ≤ c'.2)
    (hle : start ≤ stop) : ((callsBetween key start stop (limiter.allowed calls)).length : Int) ≤
      limiter.maxTokens + ⌊(stop - start) / limiter.refillRateMs⌋ + 1 := by
  have hperiods : 0 ≤ ⌊(stop - start) / limiter.refillRateMs⌋ :=
    Int.floor_nonneg.mpr (div_nonneg (sub_nonneg.mpr hle) limiter.refillRateMs_pos.le)
  induction calls generalizing limiter with
  | nil =>
    simp only [allowed, callsBetween, List.filter_nil, List.length_nil]
    omega
  | cons call calls ih =>
    obtain ⟨other, now⟩ := call
    obtain ⟨hhead, htail⟩ := List.pairwise_cons.mp hsorted
    by_cases hother : other = key
    · subst hother
      obtain ⟨bucket, hbucket, hfills, hpaid⟩ := allow_self hknown.fills stop
      have hlater (c : JsString × Int) (hc : c ∈ calls) : bucket.lastRefill ≤ c.2 :=
        (Int.cast_le.mp hfills.refilled).trans (hhead c hc)
      by_cases hearly : (now : ℚ) < start
      · rw [callsBetween_allowed_outside fun h => not_le.mpr hearly h.2.1]
        have hnext : (limiter.allow other now).2.Known other calls := by
          intro bucket' hbucket'
          obtain rfl := Option.some.inj (hbucket.symm.trans hbucket')
          exact ⟨⟨hfills.nonneg, hfills.allow.le_max, le_rfl⟩, hlater⟩
        have hrest := ih hnext htail (by rwa [allow_refillRateMs])
        rwa [allow_maxTokens, allow_refillRateMs] at hrest
      by_cases hlate : stop < now
      · rw [callsBetween_late]
        · simp only [List.length_nil]
          omega
        · intro c hc
          rcases List.mem_cons.mp hc with rfl | hc
          · exact hlate
          · exact hlate.trans_le (Int.cast_le.mpr (hhead c hc))
      have hcount := limiter.callsBetween_allowed_self_le other now calls start stop
      have hrest := allowed_le_budget start hbucket (hfills.allow.mono (not_lt.mp hlate)) hlater htail
      rw [budget_allow] at hrest
      have hrefill := hknown.fills.budget_refill_le stop (not_lt.mp hearly)
      linarith
    · rw [callsBetween_allowed_outside (fun h => hother h.1)]
      have hnext : (limiter.allow other now).2.Known key calls := by
        intro bucket hbucket
        rw [allow_other hother] at hbucket
        obtain ⟨hfills, hlater⟩ := hknown bucket hbucket
        exact ⟨hfills.allow, fun c hc => hlater c (List.mem_cons_of_mem _ hc)⟩
      have hrest := ih hnext htail (by rwa [allow_refillRateMs])
      rwa [allow_maxTokens, allow_refillRateMs] at hrest

end MemoryProvisionRateLimiter

end Window

/-- Between any two times, a key is allowed a full bucket, what the periods in between bring, and one more. -/
theorem provisions_allowed {maxPerMinute : Nat} (hpositive : 0 < maxPerMinute) {calls : List (JsString × Int)}
    (hclock : calls.Pairwise fun c c' => c.2 ≤ c'.2) (key : JsString) {start d : ℚ} (hd : 0 ≤ d) :
    ((callsBetween key start (start + d) (MemoryProvisionRateLimiter.allowed
        { maxTokens := maxPerMinute, positive := hpositive } calls)).length : Int) ≤
      maxPerMinute + ⌊d / (60000 / maxPerMinute)⌋ + 1 := by
  have hknown : MemoryProvisionRateLimiter.Known { maxTokens := maxPerMinute, positive := hpositive } key calls := by
    intro bucket h
    cases h
  have hbound := hknown.allowed_le hclock (le_add_of_nonneg_right hd : start ≤ start + d)
  rwa [add_sub_cancel_left] at hbound

/-- Two at once, a third after a period. -/
theorem provisions_allowed_sample :
    MemoryProvisionRateLimiter.allowed { maxTokens := 2, positive := by decide }
      [([97], 0), ([97], 0), ([97], 29999), ([98], 29999), ([97], 30000)] =
      [([97], 0), ([97], 0), ([98], 29999), ([97], 30000)] ∧
    ((callsBetween [97] 0 (0 + 29999) (MemoryProvisionRateLimiter.allowed
        { maxTokens := (2 : Nat), positive := by decide }
        [([97], 0), ([97], 0), ([97], 29999), ([98], 29999), ([97], 30000)])).length : Int) ≤
      (2 : Nat) + ⌊(29999 : ℚ) / (60000 / (2 : Nat))⌋ + 1 :=
  ⟨by decide +kernel, provisions_allowed (by decide) (by decide) [97] (by norm_num)⟩

end TskProtocol
