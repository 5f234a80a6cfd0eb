import SiteEdit.Proofs.Json.Members
import SiteEdit.Proofs.Limit.Bans
/-!
# Two ways to drop a ban that has ended

A ban that has ended is dropped by the next request of its key, or by a sweep.  Either way it is gone and an event
tells of it.  The two events differ in the session: a request knows its key, a sweep only the key's text, so the one
that a sweep records for the key of a session names no session (`expiries_agree_iff`).  A sweep drops idle records, too,
and counts and reports what it drops.
-/
namespace SiteEdit.Limit

open Audit (Event)

/-! ## Events -/

/-- The event that the ban under a text has ended, with the session it is recorded for. -/
def Ban.expiry (b : Ban) (text : String) (session : Option String) : Event :=
  { level := .info
    name := "ban_expired"
    session := session
    data := Json.object [("key", .str text), ("banned_at", Json.ofInt b.bannedAt)] }

/-- Those of some events that say that a ban of a key has ended. -/
def Key.expiries (key : Key) (events : List Event) : List Event :=
  events.filter fun e => e.name = "ban_expired" ∧ e.data.get? "key" = some (.str key.text)

namespace Key

variable {key : Key} {events : List Event}

theorem expiries_append (key : Key) (events events' : List Event) :
    key.expiries (events ++ events') = key.expiries events ++ key.expiries events' := List.filter_append _ _

theorem expiries_eq_nil (h : ∀ e ∈ events, e.name ≠ "ban_expired") : key.expiries events = [] :=
  List.filter_eq_nil_iff.2 fun e he => by simp [h e he]

theorem expiry_data_key (b : Ban) (text : String) (session : Option String) :
    (b.expiry text session).data.get? "key" = some (.str text) := by
  show (Json.sortMembers _).lookup "key" = _
  rw [Json.lookup_sortMembers]
  rfl

theorem expiries_expiry (b : Ban) (text : String) (session : Option String) :
    key.expiries [b.expiry text session] = if text = key.text then [b.expiry text session] else [] := by
  unfold expiries
  rw [List.filter_singleton, expiry_data_key]
  by_cases h : text = key.text <;> simp [h, Ban.expiry]

end Key

namespace Limiter

variable {l : Limiter} {now : Millis} {key : Key} {b : Ban}

theorem count_not_expired (l : Limiter) (now : Millis) (key : Key) :
    ∀ e ∈ (l.count now key).events, e.name ≠ "ban_expired" := by
  by_cases hc : (l.settings.ceiling key.dimension).maxRequests.toNat < (l.nextRecord now key).count
  · rw [count_of_exceeded hc]
    dsimp only
    split
    · simp [escalate]
    · simp [refuseExceeded]
  · rw [count_of_within (Nat.not_lt.1 hc)]
    simp

theorem dropEnded_events (h : l.bans.get? key.text = some b) :
    (l.dropEnded key).events = [b.expiry key.text key.session?] := by
  unfold dropEnded
  rw [h]
  rfl

theorem activeBan?_of_ended (h : l.bans.get? key.text = some b) (hended : b.isActive now = false) :
    l.activeBan? now key = none := by
  unfold activeBan?
  simp [h, hended]

theorem expiries_check (h : l.bans.get? key.text = some b) (hended : b.isActive now = false) :
    key.expiries (l.check now key).events = [b.expiry key.text key.session?] := by
  have hevents : (l.check now key).events =
      (l.dropEnded key).events ++ ((l.dropEnded key).state.count now key).events := by
    unfold check
    rw [activeBan?_of_ended h hended]
    rfl
  rw [hevents, Key.expiries_append, Key.expiries_eq_nil (count_not_expired _ now key), List.append_nil,
    dropEnded_events h, Key.expiries_expiry, if_pos rfl]

theorem sweep_events (l : Limiter) (now : Millis) : (l.sweep now).events =
    (l.bans.toSorted.filter fun e => !e.2.isActive now).map fun e => e.2.expiry e.1 none := rfl

theorem expiries_sweep (h : l.bans.get? key.text = some b) (hended : b.isActive now = false) :
    key.expiries (l.sweep now).events = [b.expiry key.text none] := by
  have hkey : ∀ e : String × Ban, decide ((e.2.expiry e.1 none).name = "ban_expired" ∧
      (e.2.expiry e.1 none).data.get? "key" = some (.str key.text)) = decide (e.1 = key.text) := fun e => by
    rw [Key.expiry_data_key]
    simp [Ban.expiry]
  -- the two filters are exchanged: one entry has the key, and its ban has ended
  rw [sweep_events, Key.expiries, List.filter_map, Function.comp_def, funext hkey, List.filter_comm,
    Store.filter_toSorted h, List.filter_cons_of_pos (by simp [hended])]
  rfl

/-- **Both ways of dropping a ban that has ended agree on the bans, and on the event for an address alone.**  After
either, the key no longer has the ban: none after a sweep, and after a request only one that this request brings on.
Each records its end once, at the same level and with the same data; for the key of a session only the request names
the session. -/
theorem expiries_agree_iff (l : Limiter) (now : Millis) (key : Key) (b : Ban) (h : l.bans.get? key.text = some b)
    (hended : b.isActive now = false) :
    ((l.dropEnded key).state.bans.get? key.text = none ∧
      (l.check now key).state.bans.get? key.text = l.provoked? now key ∧
      (l.sweep now).state.bans.get? key.text = none) ∧
      key.expiries (l.check now key).events = [b.expiry key.text key.session?] ∧
      key.expiries (l.sweep now).events = [b.expiry key.text none] ∧
      (key.expiries (l.check now key).events = key.expiries (l.sweep now).events ↔ key.dimension = .ip) := by
  have hfree := activeBan?_of_ended h hended
  refine ⟨⟨?_, ?_, ?_⟩, expiries_check h hended, expiries_sweep h hended, ?_⟩
  · rw [dropEnded_state]
    exact (Store.get?_erase _ _ _).trans (if_pos rfl)
  · exact (check_bans_of_not_banned hfree _).trans (if_pos rfl)
  · exact (Store.get?_filter _ _ _).trans hfree
  · rw [expiries_check h hended, expiries_sweep h hended]
    cases hd : key.dimension <;> simp [Ban.expiry, Key.session?, hd]

/-- A limiter with a ban of an address and one of a session, each of a second. -/
def bannedTwice : Limiter :=
  (empty {}).run [(0, .ban (.ip "192.0.2.1") "abuse" (some 1000)), (0, .ban (.session "a") "abuse" (some 1000))]

theorem expiries_agree_iff_twice :
    let b : Ban := { reason := "abuse", bannedAt := 0, expiresAt := some 1000, source := .admin }
    b.isActive 1000 = false ∧
      bannedTwice.bans.get? (Key.ip "192.0.2.1").text = some b ∧
      (Key.ip "192.0.2.1").expiries (bannedTwice.check 1000 (.ip "192.0.2.1")).events
        = (Key.ip "192.0.2.1").expiries (bannedTwice.sweep 1000).events ∧
      bannedTwice.bans.get? (Key.session "a").text = some b ∧
      (Key.session "a").expiries (bannedTwice.check 1000 (.session "a")).events
        = [b.expiry "session:a" (some "a")] ∧
      (Key.session "a").expiries (bannedTwice.sweep 1000).events = [b.expiry "session:a" none] := by
  intro b
  have hended : b.isActive 1000 = false := by decide
  have hip : bannedTwice.bans.get? (Key.ip "192.0.2.1").text = some b := by decide +kernel
  have hsession : bannedTwice.bans.get? (Key.session "a").text = some b := by decide +kernel
  obtain ⟨-, -, -, hagree⟩ := expiries_agree_iff bannedTwice 1000 (.ip "192.0.2.1") b hip hended
  obtain ⟨-, hcheck, hsweep, -⟩ := expiries_agree_iff bannedTwice 1000 (.session "a") b hsession hended
  exact ⟨hended, hip, hagree.2 rfl, hsession, hcheck, hsweep⟩

/-- A sweep does not record the end of a session's ban for that session. -/
theorem swept_ban_unattributed :
    ¬ ∀ (l : Limiter) (now : Millis) (key : Key) (b : Ban), l.bans.get? key.text = some b → b.isActive now = false →
      (l.dropEnded key).state.bans.get? key.text = (l.sweep now).state.bans.get? key.text ∧
        key.expiries (l.check now key).events = key.expiries (l.sweep now).events := by
  intro h
  let b : Ban := { reason := "abuse", bannedAt := 0, expiresAt := some 1000, source := .admin }
  have hb : bannedTwice.bans.get? (Key.session "a").text = some b := by decide +kernel
  have hended : b.isActive 1000 = false := by decide
  have hagree := (h bannedTwice 1000 (.session "a") b hb hended).2
  rw [expiries_check hb hended, expiries_sweep hb hended] at hagree
  exact absurd hagree (by decide)

/-! ## What a sweep drops -/

theorem sweep_bans (l : Limiter) (now : Millis) :
    (l.sweep now).state.bans = l.bans.filter fun _ b => b.expiresAt.all fun t => decide (now < t) := by
  show l.bans.filter (fun _ b => b.isActive now) = _
  refine Store.filter_congr fun _ b _ => ?_
  cases h : b.expiresAt <;> simp [Ban.isActive, h]

theorem keeps_text (l : Limiter) (now : Millis) (key : Key) (r : Record) : l.keeps now key.text r = true ↔
    now - r.lastSeen < max (seconds l.settings.idleRecordTtlSecs) (l.settings.ceiling key.dimension).window := by
  unfold keeps Settings.retention
  rw [decide_eq_true_iff, Key.dimensionOf_text]

theorem sweep_result (l : Limiter) (now : Millis) :
    (l.sweep now).result.expiredBans + (l.sweep now).state.bans.size = l.bans.size ∧
      (l.sweep now).result.idleRecords + (l.sweep now).state.records.size = l.records.size := by
  have hbans : (l.sweep now).result.expiredBans = (l.bans.filter fun _ b => !b.isActive now).size :=
    ((List.mergeSort_perm l.bans.entries _).filter _).length_eq
  have hrecords : (l.records.filter (l.keeps now)).size ≤ l.records.size := List.length_filter_le _ _
  refine ⟨?_, Nat.sub_add_cancel hrecords⟩
  rw [hbans, Nat.add_comm]
  exact Store.size_filter_add fun _ _ => rfl

theorem sweep_events_perm (l : Limiter) (now : Millis) :
    let ended := l.bans.filter fun _ b => b.expiresAt.any fun t => decide (t ≤ now)
    (l.sweep now).events.Perm (ended.entries.map fun e => e.2.expiry e.1 none) := by
  have hended : ∀ b : Ban, (!b.isActive now) = b.expiresAt.any fun t => decide (t ≤ now) := fun b => by
    cases h : b.expiresAt <;> simp [Ban.isActive, h, ← decide_not]
  rw [sweep_events]
  simp only [hended]
  exact ((List.mergeSort_perm l.bans.entries _).filter _).map _

/-- A sweep that finds no ban that has ended and no idle record does nothing. -/
theorem sweep_of_current (hb : ∀ k b, l.bans.get? k = some b → b.isActive now = true)
    (hr : ∀ k r, l.records.get? k = some r → l.keeps now k r = true) :
    l.sweep now = { result := { expiredBans := 0, idleRecords := 0 }, state := l } := by
  have hnone : (l.bans.toSorted.filter fun e => !e.2.isActive now) = [] := List.filter_eq_nil_iff.2 fun e he => by
    rw [hb e.1 e.2 (Store.get?_eq_some_iff.2 (Store.mem_toSorted.1 he))]
    exact Bool.false_ne_true
  unfold sweep
  dsimp only
  rw [hnone, Store.filter_eq_self hb, Store.filter_eq_self hr, Nat.sub_self]
  rfl

end Limiter

end SiteEdit.Limit
