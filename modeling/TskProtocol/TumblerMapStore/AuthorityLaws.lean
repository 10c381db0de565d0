import TskProtocol.TumblerMapStore.MutationLaws
import TskProtocol.TumblerMapStore.View

namespace TskProtocol

open Credential

variable {H : HmacBytes} {D : Sha256Bytes} {db db' : CredentialDb} {nowMs : Nat} {txid : JsString}
  {ticket : CredentialTicket} {a : CredentialAppend} {m : CredentialMutation}
  {maps maps' : OrderedMap JsString CredentialMapRow} {effects : List CredentialEffect}

theorem viewOfMaps_set (clientId : JsString) (row : CredentialMapRow) : viewOfMaps D (maps.set clientId row) =
    Function.update (viewOfMaps D maps) clientId (some (row.entry D)) := by
  funext other
  by_cases h : clientId = other
  · subst h
    simp [viewOfMaps]
  · rw [viewOfMaps, OrderedMap.get?_set_ne _ _ h, Function.update_of_ne (Ne.symm h)]
    rfl

theorem viewOfMaps_erase (clientId : JsString) : viewOfMaps D (maps.erase clientId) =
    Function.update (viewOfMaps D maps) clientId none := by
  funext other
  by_cases h : clientId = other
  · subst h
    simp [viewOfMaps]
  · rw [viewOfMaps, OrderedMap.get?_erase_ne _ h, Function.update_of_ne (Ne.symm h)]
    rfl

namespace Credential

section Effects

/-- A map with the secret that a snapshot knows by its digest. -/
structure Shows (D : Sha256Bytes) (s : CredentialSnapshot) (map : TumblerMap) : Prop where
  publicMap : .ofMap map = s.publicMap
  secretDigest : D.hex map.sharedSecret.utf8 = s.secretDigest
  secret : matchesHex64 map.sharedSecret = true

theorem Shows.entry {s : CredentialSnapshot} {map : TumblerMap} (h : Shows D s map) :
    CredentialMapRow.entry D ⟨map, s.counter⟩ = s.entry := by
  rw [CredentialMapRow.entry, h.publicMap, h.secretDigest]
  rfl

theorem binds_eq_true {s : CredentialSnapshot} {clientId : JsString} {revision : Int} {map : TumblerMap} :
    binds D s clientId revision map = true ↔ (clientId = s.clientId ∧ revision = s.counter) ∧ Shows D s map := by
  simp only [binds, Bool.and_eq_true, decide_eq_true_eq]
  constructor
  · rintro ⟨⟨⟨hid, hsecret⟩, hdigest⟩, hmap⟩
    exact ⟨hid, hmap, hdigest, hsecret⟩
  · rintro ⟨hid, h⟩
    exact ⟨⟨⟨hid, h.secret⟩, h.secretDigest⟩, h.publicMap⟩

/-- Everything that effects can do to the maps. -/
inductive Applies (D : Sha256Bytes) (maps : OrderedMap JsString CredentialMapRow) :
    CredentialMutation → List CredentialEffect → OrderedMap JsString CredentialMapRow → Prop
  | snapshot {tumblerId : JsString} {s : CredentialSnapshot} {map : TumblerMap} (hshows : Shows D s map)
      (hrevision : ∀ row ∈ maps.get? s.clientId, row.revision + 1 = s.counter) :
      Applies D maps (.snapshot tumblerId s) [.upsert s.clientId s.counter map]
        (maps.set s.clientId ⟨map, s.counter⟩)
  | delete {tumblerId clientId : JsString} {counter : Int} {row : CredentialMapRow}
      (hrow : maps.get? clientId = some row) (hrevision : row.revision + 1 = counter) :
      Applies D maps (.delete tumblerId clientId counter) [.delete clientId counter] (maps.erase clientId)
  | replace {tumblerId : JsString} {counter : Int} {old replacement : CredentialSnapshot}
      {map map' : TumblerMap} {row : CredentialMapRow} (hshows : Shows D old map)
      (hshows' : Shows D replacement map') (hrow : maps.get? old.clientId = some row)
      (hrevision : row.revision + 1 = old.counter)
      (hfresh : (maps.set old.clientId ⟨map, old.counter⟩).has replacement.clientId = false) :
      Applies D maps (.replace tumblerId counter old replacement)
        [.upsert old.clientId old.counter map, .insert replacement.clientId replacement.counter map']
        ((maps.set old.clientId ⟨map, old.counter⟩).set replacement.clientId ⟨map', replacement.counter⟩)

theorem applyEffects_ok (h : applyEffects D maps m effects = .ok maps') : Applies D maps m effects maps' := by
  unfold applyEffects at h
  split at h
  case h_1 =>
    simp only [bind_eq_ok, require_eq_ok, pure_eq_ok, Except.ok.injEq, binds_eq_true] at h
    obtain ⟨_, ⟨⟨⟨rfl, rfl⟩, hshows⟩, -⟩, _, -, _, hrevision, rfl⟩ := h
    exact .snapshot hshows fun row hrow => of_decide_eq_true ((Option.all_eq_true _ _).mp hrevision row hrow)
  case h_4 =>
    simp only [bind_eq_ok, require_eq_ok, pure_eq_ok, Except.ok.injEq] at h
    obtain ⟨_, ⟨rfl, rfl⟩, _, hany, rfl⟩ := h
    obtain ⟨row, hrow, hrevision⟩ := (Option.any_eq_true _ _).mp hany
    exact .delete hrow (of_decide_eq_true hrevision)
  case h_7 =>
    simp only [bind_eq_ok, require_eq_ok, pure_eq_ok, Except.ok.injEq, binds_eq_true] at h
    obtain ⟨_, ⟨⟨⟨rfl, rfl⟩, hshows⟩, ⟨rfl, rfl⟩, hshows'⟩, _, -, _, hany, _, -, _, hfresh, rfl⟩ := h
    obtain ⟨row, hrow, hrevision⟩ := (Option.any_eq_true _ _).mp hany
    exact .replace hshows hshows' hrow (of_decide_eq_true hrevision) hfresh
  all_goals cases h

/-- The tables change as the log says. -/
theorem Applies.view (h : Applies D maps m effects maps') : viewOfMaps D maps' = m.applyTo (viewOfMaps D maps) := by
  cases h with
  | snapshot hshows hrevision => rw [viewOfMaps_set, hshows.entry, CredentialMutation.applyTo]
  | delete hrow hrevision => rw [viewOfMaps_erase, CredentialMutation.applyTo]
  | replace hshows hshows' hrow hrevision hfresh =>
    rw [viewOfMaps_set, viewOfMaps_set, hshows.entry, hshows'.entry, CredentialMutation.applyTo]

end Effects

section Apply

/-- What an accepted append has found, and what it leaves behind. -/
structure AppliedTo (H : HmacBytes) (D : Sha256Bytes) (nowMs : Nat) (txid : JsString)
    (ticket : CredentialTicket) (a : CredentialAppend) (db db' : CredentialDb) : Prop where
  nonces : redeemTicket H nowMs txid ticket a db = .ok db'.nonces
  effects : Applies D db.maps a.mutation a.effects db'.maps
  streamId : a.streamId = db.streamId
  fence : db.fence = some a.fence
  result : ∃ checkpoint, db.checkpoint = some checkpoint ∧ a.sourceEpoch = checkpoint.sourceEpoch ∧
    a.sequence = checkpoint.sequence + 1 ∧ a.headPrev = checkpoint.head ∧ db' = { db with
      nonces := db'.nonces
      maps := db'.maps
      rows := db.rows ++ [a.row]
      checkpoint := some ⟨a.sourceEpoch, a.sequence, a.headDigest⟩ }

theorem applyMutation_ok (h : applyMutation H D nowMs txid ticket a db = .ok db') :
    AppliedTo H D nowMs txid ticket a db db' := by
  simp only [applyMutation, bind_eq_ok, orThrow_eq_ok, require_eq_ok, pure_eq_ok, Except.ok.injEq] at h
  obtain ⟨nonces, hnonces, checkpoint, hcheckpoint, _, ⟨hstream, hepoch, hsequence, hhead, hfence⟩, _, -, maps,
    heffects, rfl⟩ := h
  exact ⟨hnonces, applyEffects_ok heffects, hstream, hfence, checkpoint, hcheckpoint, hepoch.symm, hsequence.symm,
    hhead.symm, by rw [hepoch]⟩

theorem AppliedTo.view (h : AppliedTo H D nowMs txid ticket a db db') :
    db'.view D = a.mutation.applyTo (db.view D) := h.effects.view

end Apply

end Credential

end TskProtocol
