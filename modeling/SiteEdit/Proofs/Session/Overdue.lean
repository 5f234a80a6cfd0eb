import SiteEdit.Proofs.Session.Endings
/-!
# What a sweep does to the sessions

A sweep evicts the sessions whose time is over one after the other.  As none is evicted twice, that comes to the same as
to drop them all at once, with their snapshots (`sweep_state`), and each eviction finds the snapshots of its session
still there (`sweep_events`).
-/
namespace SiteEdit.Session.Manager

open Audit (Event)

variable {m : Manager} {now : Millis} {id : String} {e : Entry}

/-- How many snapshots of a session are stored. -/
def snapshotsOf (m : Manager) (id : String) : Nat := (m.snapshots.filter fun _ s => s.sessionId == id).size

/-- The event that a session is evicted, with the number of snapshots that go with it. -/
def expiry (m : Manager) (id : String) : Event :=
  note "session_expired" id [("snapshots_deleted", Json.ofNat (m.snapshotsOf id))]

theorem evict_events (m : Manager) (id : String) : (m.evict id).events = [m.expiry id] := by
  have hsize := m.size_kept id
  have hdeleted : (m.dropSession id).2 = m.snapshotsOf id := by
    show m.snapshots.size - (m.snapshots.filter fun _ s => s.sessionId != id).size = m.snapshotsOf id
    unfold snapshotsOf
    omega
  unfold expiry
  rw [← hdeleted]
  rfl

theorem expiry_evict {k : String} (h : k ≠ id) : (m.evict id).state.expiry k = m.expiry k := by
  have hsame : (m.evict id).state.snapshotsOf k = m.snapshotsOf k := by
    show ((m.snapshots.filter fun _ s => s.sessionId != id).filter fun _ s => s.sessionId == k).size = _
    rw [Store.filter_filter]
    unfold snapshotsOf
    congr 2
    funext _ s
    by_cases hs : s.sessionId = k <;> simp [hs, h]
  unfold expiry
  rw [hsame]

theorem evictAll_events : ∀ (ids : List String) (m : Manager), ids.Nodup → (m.evictAll ids).events = ids.map m.expiry
  | [], _, _ => rfl
  | id :: ids, m, h => by
    rw [List.nodup_cons] at h
    show (m.evict id).events ++ ((m.evict id).state.evictAll ids).events = _
    rw [evict_events, evictAll_events ids _ h.2, List.map_cons, List.singleton_append]
    congr 1
    exact List.map_congr_left fun k hk => expiry_evict (ne_of_mem_of_not_mem hk h.1)

theorem evictAll_state : ∀ (ids : List String) (m : Manager), (m.evictAll ids).state =
    { m with
      sessions := m.sessions.filter fun k _ => decide (k ∉ ids)
      snapshots := m.snapshots.filter fun _ s => decide (s.sessionId ∉ ids)
      expired := m.expired + ids.length }
  | [], m => by
    show m = _
    rw [Store.filter_eq_self (by simp), Store.filter_eq_self (by simp)]
    rfl
  | id :: ids, m => by
    -- to keep what is not the first and then what is none of the others is to keep what is none of them
    have hnotMem : ∀ k : String, (k != id && decide (k ∉ ids)) = decide (k ∉ id :: ids) := fun k => by
      by_cases hk : k = id <;> simp [hk]
    show ((m.evict id).state.evictAll ids).state = _
    rw [evictAll_state ids]
    simp only [evict, dropSession, Store.erase, Store.filter_filter, hnotMem, List.length_cons, Nat.add_assoc,
      Nat.add_comm 1]

theorem mem_overdue_iff (h : m.sessions.get? id = some e) : id ∈ m.overdue now ↔ e.session.ttlAt ≤ now := by
  rw [mem_overdue]
  constructor
  · rintro ⟨d, hd, hx⟩
    obtain rfl := Option.some.inj (h.symm.trans hd)
    exact of_decide_eq_true hx
  · exact fun hx => ⟨e, h, decide_eq_true hx⟩

/-- A session is kept if its time is not over, and a snapshot if its session is. -/
theorem sweep_state (m : Manager) (now : Millis) : (m.sweep now).state =
    { m with
      sessions := m.sessions.filter fun _ e => decide (now < e.session.ttlAt)
      snapshots := m.snapshots.filter fun _ s =>
        (m.sessions.get? s.sessionId).all fun e => decide (now < e.session.ttlAt)
      expired := m.expired + (m.overdue now).length } := by
  show (m.evictAll (m.overdue now)).state = _
  rw [evictAll_state]
  congr 1
  · refine Store.filter_congr fun id e he => ?_
    simp [mem_overdue_iff he]
  · refine Store.filter_congr fun _ s _ => ?_
    cases he : m.sessions.get? s.sessionId with
    | none => simp [mem_overdue, Over, he]
    | some e => simp [mem_overdue_iff he]

theorem perm_overdue (m : Manager) (now : Millis) : (m.overdue now).Perm
    ((m.sessions.filter fun _ e => decide (e.session.ttlAt ≤ now)).entries.map Prod.fst) :=
  ((List.mergeSort_perm m.sessions.entries _).filter _).map _

theorem sweep_result (m : Manager) (now : Millis) :
    (m.sweep now).result + (m.sweep now).state.sessions.size = m.sessions.size := by
  have hlength : (m.sweep now).result = (m.sessions.filter fun _ e => decide (e.session.ttlAt ≤ now)).size := by
    have hperm := (m.perm_overdue now).length_eq
    rwa [List.length_map] at hperm
  rw [hlength, sweep_state, Nat.add_comm]
  exact Store.size_filter_add fun _ e => by simp [← decide_not]

/-- A sweep reports each session that it drops once, with the number of its snapshots. -/
theorem sweep_events (m : Manager) (now : Millis) : (m.sweep now).events.Perm
    ((m.sessions.filter fun _ e => decide (e.session.ttlAt ≤ now)).entries.map fun p => m.expiry p.1) := by
  show (m.evictAll (m.overdue now)).events.Perm _
  rw [evictAll_events _ m (m.nodup_overdue now)]
  have hevents := (m.perm_overdue now).map m.expiry
  rwa [List.map_map] at hevents

/-- A sweep that finds no session whose time is over does nothing. -/
theorem sweep_of_live (h : ∀ id e, m.sessions.get? id = some e → now < e.session.ttlAt) :
    m.sweep now = { result := 0, state := m } := by
  have hnone : m.overdue now = [] := List.eq_nil_iff_forall_not_mem.2 fun id hid => by
    obtain ⟨e, he⟩ := mem_overdue.1 hid
    exact absurd ((mem_overdue_iff he.1).1 hid) (Int.not_le.2 (h id e he.1))
  unfold sweep
  rw [hnone]
  rfl

end SiteEdit.Session.Manager
