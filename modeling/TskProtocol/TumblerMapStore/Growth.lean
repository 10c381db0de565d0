import TskProtocol.TumblerMapStore.MapStore
import TskProtocol.Server.FileStoreLaws
import TskProtocol.Server.Lifecycle

namespace TskProtocol.Credential

open MemoryTumblerStore

variable {map map' : TumblerMap} {segments segments' : List SegmentConfig} {id : JsString} {c : Int}
  {seg : SegmentConfig}

theorem forall₂_follows_refl (segments : List SegmentConfig) : List.Forall₂ SegmentFollows segments segments :=
  List.forall₂_same.mpr fun seg _ => .refl seg

theorem forall₂_follows_trans {a b d : List SegmentConfig} (h : List.Forall₂ SegmentFollows a b)
    (k : List.Forall₂ SegmentFollows b d) : List.Forall₂ SegmentFollows a d := by
  induction h generalizing d with
  | nil => cases k; exact .nil
  | cons hab _ ih => cases k with
    | cons hbd k => exact .cons (hab.trans hbd) (ih k)

/-- A counter that is written is not below the one that was found. -/
theorem follows_setFirstCounter (hfind : segments.find? (fun s => s.segmentId = id) = some seg)
    (hle : seg.storedCounter ≤ c) : List.Forall₂ SegmentFollows segments (setFirstCounter id c segments) := by
  induction segments with
  | nil => exact .nil
  | cons s rest ih =>
    by_cases hid : s.segmentId = id
    · obtain rfl : s = seg := by simpa [hid] using hfind
      rw [setFirstCounter, if_pos hid]
      exact .cons ⟨rfl, fun _ => hle⟩ (forall₂_follows_refl rest)
    · rw [setFirstCounter, if_neg hid]
      exact .cons (.refl s) (ih (by simpa [hid] using hfind))

theorem follows_applyUpdates {updates : List (JsString × Int)}
    (h : PgHaTumblerMapStore.applyUpdates segments updates = .ok segments') :
    List.Forall₂ SegmentFollows segments segments' := by
  induction updates generalizing segments with
  | nil =>
    obtain rfl := Except.ok.inj h
    exact forall₂_follows_refl _
  | cons u rest ih =>
    obtain ⟨segmentId, counter⟩ := u
    simp only [PgHaTumblerMapStore.applyUpdates, bind_eq_ok, orThrow_eq_ok, require_eq_ok] at h
    obtain ⟨seg, hfind, _, -, _, hle, hrest⟩ := h
    exact forall₂_follows_trans (follows_setFirstCounter hfind hle) (ih hrest)

section Status

theorem statusRank_le (status : Option KeyStatus) : statusRank status ≤ 2 := by
  rcases status with _ | status
  · exact Nat.zero_le _
  · cases status <;> decide

theorem statusRank_le_one {status : Option KeyStatus} (h : isTerminal status = false) : statusRank status ≤ 1 := by
  rcases status with _ | status
  · exact Nat.zero_le _
  · cases status <;> first | decide | cases h

/-- Reconciling never goes back to an earlier status. -/
theorem rank_reconcile (map : TumblerMap) (remaining : Int) :
    statusRank map.status ≤ statusRank (reconcileTumblerMapCounterStatus map remaining).2.status := by
  simp only [reconcileTumblerMapCounterStatus]
  split
  · exact le_rfl
  next hlive =>
  split
  · exact statusRank_le _
  split
  · exact statusRank_le_one (by simpa using hlive)
  · exact le_rfl

theorem reconcile_of_terminal (map : TumblerMap) (remaining : Int) (h : isTerminal map.status = true) :
    (reconcileTumblerMapCounterStatus map remaining).2 = map := by
  simp only [reconcileTumblerMapCounterStatus, if_pos h]

/-- A commit that advances the counters never goes back to an earlier status either. -/
theorem rank_applyCommit (map : TumblerMap) (input : ValidationCommitInput)
    (hlive : isTerminal map.status = false) :
    statusRank map.status ≤ statusRank (applyCommit map input).2.status := by
  simp only [applyCommit]
  split
  · exact le_rfl
  · exact le_rfl
  next remaining _ =>
  have hreconciled := rank_reconcile { map with
    segments := advanceCounters map.segments input.counterMatches
    requestCount := some (map.currentCount + 1)
    lastUsedAt := some (some input.usedAt) } remaining
  split
  · exact hreconciled
  · split
    · exact statusRank_le_one hlive
    · exact hreconciled

theorem rank_commit (map : TumblerMap) (input : ValidationCommitInput) :
    statusRank map.status ≤ statusRank (commitValidationToMap map input).2.status := by
  simp only [commitValidationToMap]
  split
  · exact le_rfl
  split
  · exact le_rfl
  next hrevoked =>
  split
  · exact le_rfl
  next hexpired =>
  split
  · exact statusRank_le _
  split
  · exact statusRank_le _
  split
  · exact le_rfl
  split
  · exact statusRank_le _
  · exact le_rfl
  · exact rank_applyCommit map input (not_terminal_of hrevoked hexpired)

end Status

section Succeeds

theorem succeeds_expire (h : isTerminal map.status = false) : Succeeds map map.expire :=
  .of_segments (forall₂_follows_refl _) le_rfl (statusRank_le _) fun ht => by rw [h] at ht; cases ht

theorem succeeds_revoke (h : isTerminal map.status = false) : Succeeds map { map with status := some .revoked } :=
  .of_segments (forall₂_follows_refl _) le_rfl (statusRank_le _) fun ht => by rw [h] at ht; cases ht

/-- What is persisted behind counters that were written. -/
theorem succeeds_reconcileMap (h : List.Forall₂ SegmentFollows map.segments segments)
    (hrec : reconcileMap { map with segments } = (.ok (), map')) : Succeeds map map' := by
  simp only [reconcileMap] at hrec
  split at hrec
  · cases hrec
  · obtain ⟨-, rfl⟩ := Prod.mk.inj hrec
    exact .of_segments h le_rfl le_rfl fun _ => rfl
  · next remaining _ =>
    obtain ⟨-, rfl⟩ := Prod.mk.inj hrec
    have hrank := rank_reconcile { map with segments } remaining
    have hterminal := reconcile_of_terminal { map with segments } remaining
    obtain ⟨status, hstatus⟩ := reconcile_eq { map with segments } remaining
    rw [hstatus] at hrank hterminal ⊢
    exact .of_segments h le_rfl hrank fun ht => congrArg TumblerMap.status (hterminal ht)

theorem succeeds_commit (input : ValidationCommitInput) (hstate : CounterState map) :
    Succeeds map (commitValidationToMap map input).2 := by
  obtain ⟨res, -, houtcome⟩ := commitValidationToMap_spec map input
  obtain ⟨map', hmap', hrewritten, -⟩ := commitValidationToMap_rewritten input hstate
  have hrank := rank_commit map input
  rw [hmap'] at houtcome hrank ⊢
  cases houtcome with
  | refused => exact .refl map
  | expired _ hlive => exact succeeds_expire hlive
  | accepted _ hcommitted =>
    have hevolves := hcommitted.evolves
    have hcount : map.currentCount ≤ map'.requestCount.getD 0 := hevolves.count
    rw [hrewritten.rest]
    exact .of_segments (hevolves.segments.imp fun _ _ h => ⟨h.frame, fun _ => h.counter⟩) hcount hrank
      fun ht => by rw [hcommitted.live] at ht; cases ht

end Succeeds

end TskProtocol.Credential
