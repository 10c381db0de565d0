import TskProtocol.TumblerMapStore.Runs

namespace TskProtocol

open Credential

/-- A ticket that was accepted, with what it was accepted for, and the tables and the clock there. -/
structure Redemption where
  before : CredentialDb
  nowMs : Nat
  ticket : CredentialTicket
  append : CredentialAppend

/-- What the database sees of its callers: the routine is called with a ticket, some time after the last
event. -/
inductive TicketEvent
  | redeem (wait : Nat) (txid : JsString) (ticket : CredentialTicket) (a : CredentialAppend)
  | govern (change : StreamChange)

structure TicketWorld where
  db : CredentialDb
  nowMs : Nat
  redeemed : List Redemption := []

namespace TicketWorld

variable (H : HmacBytes) (D : Sha256Bytes)

def step (w : TicketWorld) : TicketEvent → TicketWorld
  | .redeem wait txid ticket a =>
    let nowMs := w.nowMs + wait
    match applyMutation H D nowMs txid ticket a w.db with
    | .ok db => { db, nowMs, redeemed := w.redeemed ++ [⟨w.db, nowMs, ticket, a⟩] }
    | .error _ => { w with nowMs }
  | .govern change => { w with db := w.db.govern change }

def run (w : TicketWorld) (events : List TicketEvent) : TicketWorld := events.foldl (step H D) w

/-- Tables of which no ticket has been redeemed yet. -/
def start (db : CredentialDb) (nowMs : Nat) : TicketWorld where
  db := { db with nonces := ∅ }
  nowMs := nowMs

end TicketWorld

/-- What the routine has checked of a ticket. -/
structure Redemption.Authorized (H : HmacBytes) (r : Redemption) : Prop where
  time : r.nowMs ≤ bigIntOf r.ticket.expiresAtMs ∧ bigIntOf r.ticket.expiresAtMs ≤ r.nowMs + TICKET_LIFETIME_MS
  key : ∃ key ∈ r.before.keys, key.keyId = r.ticket.keyId ∧ key.active = true ∧
    hexText (H.mac key.secret (ticketContext r.ticket r.append).utf8) = r.ticket.mac

section Nonces

variable {H : HmacBytes} {D : Sha256Bytes} {db : CredentialDb} {nowMs : Nat} {txid nonce : JsString}
  {ticket : CredentialTicket} {a : CredentialAppend} {nonces : OrderedMap JsString Nat} {expiresAtMs : Nat}

/-- Pruning takes no nonce whose ticket could still be shown. -/
theorem get?_pruneNonces (hget : nonces.get? nonce = some expiresAtMs) (hlive : nowMs ≤ expiresAtMs) :
    (pruneNonces nowMs nonces).get? nonce = some expiresAtMs := by
  refine OrderedMap.get?_filter.mpr ⟨hget, decide_eq_true fun hmem => ?_⟩
  have hexpired := List.mem_filter.mp (List.mem_mergeSort.mp (List.mem_of_mem_take hmem))
  exact absurd (of_decide_eq_true hexpired.2) (Nat.not_lt.mpr hlive)

/-- What a redemption has found, and the nonces behind it. -/
structure Redeems (H : HmacBytes) (nowMs : Nat) (ticket : CredentialTicket) (a : CredentialAppend)
    (db : CredentialDb) (nonces : OrderedMap JsString Nat) : Prop where
  authorized : Redemption.Authorized H ⟨db, nowMs, ticket, a⟩
  fresh : (pruneNonces nowMs db.nonces).get? ticket.nonce = none
  room : (pruneNonces nowMs db.nonces).size < MAX_MUTATION_NONCES
  nonces : nonces = (pruneNonces nowMs db.nonces).set ticket.nonce (bigIntOf ticket.expiresAtMs)

theorem redeemTicket_ok (h : redeemTicket H nowMs txid ticket a db = .ok nonces) :
    Redeems H nowMs ticket a db nonces := by
  simp only [redeemTicket, bind_eq_ok, require_eq_ok, orThrow_eq_ok, pure_eq_ok, Except.ok.injEq] at h
  obtain ⟨_, -, _, htime, key, hfind, _, hmac, _, hroom, _, hfresh, rfl⟩ := h
  have hkey := List.find?_some hfind
  rw [Bool.and_eq_true, decide_eq_true_eq] at hkey
  refine ⟨⟨htime, key, List.mem_of_find?_eq_some hfind, hkey.1, hkey.2, hmac⟩, ?_, hroom, rfl⟩
  rwa [OrderedMap.has, Option.isSome_eq_false_iff, Option.isNone_iff_eq_none] at hfresh

theorem Redeems.size_le (h : Redeems H nowMs ticket a db nonces) : nonces.size ≤ MAX_MUTATION_NONCES := by
  have hroom := h.room
  rw [h.nonces, OrderedMap.size_set]
  split <;> omega

/-- A nonce that is still of use stays where it is. -/
theorem Redeems.keeps (h : Redeems H nowMs ticket a db nonces) (hget : db.nonces.get? nonce = some expiresAtMs)
    (hlive : nowMs ≤ expiresAtMs) : nonces.get? nonce = some expiresAtMs := by
  have hkept := get?_pruneNonces hget hlive
  have hne : ticket.nonce ≠ nonce := by
    rintro rfl
    exact absurd (h.fresh.symm.trans hkept) (by simp)
  rw [h.nonces, OrderedMap.get?_set_ne _ _ hne]
  exact hkept

end Nonces

section Runs

variable {H : HmacBytes} {D : Sha256Bytes} {w : TicketWorld} {db₀ : CredentialDb}

/-- What holds of the tickets that have been accepted. -/
structure Spent (H : HmacBytes) (db₀ : CredentialDb) (w : TicketWorld) : Prop where
  noted : ∀ r ∈ w.redeemed, w.nowMs ≤ bigIntOf r.ticket.expiresAtMs →
    w.db.nonces.get? r.ticket.nonce = some (bigIntOf r.ticket.expiresAtMs)
  nodup : (w.redeemed.map (·.ticket)).Nodup
  authorized : ∀ r ∈ w.redeemed, r.Authorized H
  size : w.db.nonces.size ≤ MAX_MUTATION_NONCES
  deliveries : w.db.deliveries = db₀.deliveries ++ w.redeemed.map (·.append.row.delivery)

theorem Spent.start (db : CredentialDb) (nowMs : Nat) : Spent H db (.start db nowMs) where
  noted r hr := by cases hr
  nodup := .nil
  authorized r hr := by cases hr
  size := Nat.zero_le _
  deliveries := (List.append_nil _).symm

/-- Time alone takes nothing back. -/
theorem Spent.elapse (h : Spent H db₀ w) (wait : Nat) : Spent H db₀ { w with nowMs := w.nowMs + wait } :=
  ⟨fun r hr hlive => h.noted r hr (Nat.le_of_add_right_le hlive), h.nodup, h.authorized, h.size, h.deliveries⟩

theorem Spent.redeem {wait : Nat} {txid : JsString} {ticket : CredentialTicket} {a : CredentialAppend}
    {db : CredentialDb} (h : Spent H db₀ w)
    (happlied : AppliedTo H D (w.nowMs + wait) txid ticket a w.db db) :
    Spent H db₀ ⟨db, w.nowMs + wait, w.redeemed ++ [⟨w.db, w.nowMs + wait, ticket, a⟩]⟩ := by
  have hredeems := redeemTicket_ok happlied.nonces
  have hlive : ∀ r ∈ w.redeemed, w.nowMs + wait ≤ bigIntOf r.ticket.expiresAtMs →
      db.nonces.get? r.ticket.nonce = some (bigIntOf r.ticket.expiresAtMs) := fun r hr hle =>
    hredeems.keeps (h.noted r hr (Nat.le_of_add_right_le hle)) hle
  refine {
    noted := ?_
    nodup := ?_
    authorized := ?_
    size := hredeems.size_le
    deliveries := ?_ }
  · rw [List.forall_mem_append, List.forall_mem_singleton]
    refine ⟨hlive, fun _ => ?_⟩
    rw [hredeems.nonces, OrderedMap.get?_set_self]
  · rw [List.map_append, List.map_singleton, List.nodup_append]
    refine ⟨h.nodup, List.nodup_singleton _, fun t ht _ hlast => ?_⟩
    obtain ⟨r, hr, rfl⟩ := List.mem_map.mp ht
    rw [List.mem_singleton.mp hlast]
    -- A second showing would find the nonce where the first one has left it.
    rintro (rfl : r.ticket = ticket)
    have hle : w.nowMs + wait ≤ bigIntOf r.ticket.expiresAtMs := hredeems.authorized.time.1
    have hkept := get?_pruneNonces (h.noted r hr (Nat.le_of_add_right_le hle)) hle
    cases hredeems.fresh.symm.trans hkept
  · rw [List.forall_mem_append, List.forall_mem_singleton]
    exact ⟨h.authorized, hredeems.authorized⟩
  · rw [deliveries_append happlied, h.deliveries, List.map_append, List.append_assoc]
    rfl

theorem Spent.step (h : Spent H db₀ w) (event : TicketEvent) : Spent H db₀ (w.step H D event) := by
  cases event with
  | redeem wait txid ticket a =>
    simp only [TicketWorld.step]
    split
    · next db happly => exact h.redeem (applyMutation_ok happly)
    · exact h.elapse wait
  | govern change =>
    have hnonces : (w.db.govern change).nonces = w.db.nonces := by cases change <;> rfl
    exact {
      noted := by
        rw [TicketWorld.step, hnonces]
        exact h.noted
      nodup := h.nodup
      authorized := h.authorized
      size := by
        rw [TicketWorld.step, hnonces]
        exact h.size
      deliveries := (Consistent.deliveries_govern w.db change).trans h.deliveries }

theorem Spent.run (h : Spent H db₀ w) (events : List TicketEvent) : Spent H db₀ (w.run H D events) := by
  induction events generalizing w with
  | nil => exact h
  | cons event events ih => exact ih (h.step event)

end Runs

end TskProtocol
