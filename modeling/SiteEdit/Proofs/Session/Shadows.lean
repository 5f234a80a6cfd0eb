import SiteEdit.Proofs.Session.Effects
import SiteEdit.Proofs.Session.Stacks
/-!
# The sessions shadow the stacks

The sessions of the manager are the stacks of the ideal one with the ids in the place of the snapshots (`Shadows`).
Every operation keeps it so, whatever is stored beside the sessions; and what it returns is the same as long as it
returns no snapshot (`Agree`).
-/
namespace SiteEdit.Session

open Audit (Audited)

/-- The entry of a stack: the ids in the place of the snapshots. -/
def Stack.entry (s : Stack) : Entry :=
  { session := s.session, history := s.active.map Snapshot.id, detached := s.undone.map Snapshot.id }

/-- The counts of a manager. -/
def Manager.tally (m : Manager) : Counts :=
  { created := m.created
    expired := m.expired
    destroyed := m.destroyed
    discarded := m.discarded
    snapshotsCreated := m.snapshotsCreated
    snapshotsEvicted := m.snapshotsEvicted }

/-- The sessions of a manager are those of the ideal one, by the ids of their snapshots. -/
structure Shadows (m : Manager) (a : Stacks) : Prop where
  settings : m.settings = a.settings
  sessions : m.sessions = a.sessions.map Stack.entry
  counts : m.tally = a.counts

variable {m : Manager} {a : Stacks} {now : Millis} {id fresh : String} {s : Stack}

/-! ## How a session stands -/

theorem Shadows.get?_eq (h : Shadows m a) (k : String) : m.sessions.get? k = (a.sessions.get? k).map Stack.entry := by
  rw [h.sessions, Store.get?_map]

/-- The session is stored and its time is over. -/
def Stacks.Over (a : Stacks) (now : Millis) (id : String) (s : Stack) : Prop :=
  a.sessions.get? id = some s ∧ s.session.isExpired now = true

/-- The session is stored and its time is not over. -/
def Stacks.Live (a : Stacks) (now : Millis) (id : String) (s : Stack) : Prop :=
  a.sessions.get? id = some s ∧ s.session.isExpired now = false

theorem Shadows.stands (h : Shadows m a) (now : Millis) (id : String) :
    (m.sessions.get? id = none ∧ a.sessions.get? id = none) ∨
      (∃ s, a.Over now id s ∧ m.Over now id s.entry) ∨ ∃ s, a.Live now id s ∧ m.Live now id s.entry := by
  have hg := h.get?_eq id
  cases hs : a.sessions.get? id with
  | none =>
    rw [hs] at hg
    exact .inl ⟨hg, rfl⟩
  | some s =>
    rw [hs] at hg
    cases hx : s.session.isExpired now with
    | true => exact .inr (.inl ⟨s, ⟨hs, hx⟩, hg, hx⟩)
    | false => exact .inr (.inr ⟨s, ⟨hs, hx⟩, hg, hx⟩)

namespace Stacks

variable {α : Type}

theorem onLive_of_none (h : a.sessions.get? id = none) (f : Stack → Audited Stacks α) :
    a.onLive now id f = { result := .error (.notFound id), state := a } := by
  simp only [onLive, h]

theorem onLive_of_over (h : a.Over now id s) (f : Stack → Audited Stacks α) :
    a.onLive now id f = { result := .error (.expired id), state := a.expire id } := by
  simp only [onLive, h.1, h.2, if_true]

theorem onLive_of_live (h : a.Live now id s) (f : Stack → Audited Stacks α) : a.onLive now id f = (f s).map .ok := by
  simp only [onLive, h.1, h.2, Bool.false_eq_true, if_false]

end Stacks

/-! ## Entries of stacks -/

namespace Stack

theorem entry_push (s : Stack) (r : Snapshot) (cap : Nat) : s.entry.push r.id cap
    = ((s.push r cap).entry, ((s.active ++ [r]).take (s.active.length + 1 - cap)).map Snapshot.id) := by
  simp [entry, push, Entry.push, List.rtake]

theorem entry_pop (s : Stack) (n : Nat) : s.entry.pop n
    = ({ s with active := s.active.rdrop n }.entry, (s.newest n).map Snapshot.id) := by
  simp [entry, newest, Entry.pop_eq, List.rtake, List.rdrop]

theorem entry_detach (s : Stack) (rs : List Snapshot) (cap : Nat) : s.entry.detach (rs.map Snapshot.id) cap
    = ({ s with undone := (s.undone ++ rs).rtake cap }.entry,
      ((s.undone ++ rs).take (s.undone.length + rs.length - cap)).map Snapshot.id) := by
  simp [entry, Entry.detach, List.rtake]

theorem entry_undo (s : Stack) (n cap : Nat) :
    (s.entry.pop n).1.detach (s.entry.pop n).2 cap = ((s.undo n cap).entry,
      ((s.undone ++ s.newest n).take (s.undone.length + (s.newest n).length - cap)).map Snapshot.id) := by
  rw [entry_pop, entry_detach]
  rfl

end Stack

/-! ## Changes of both -/

namespace Shadows

theorem expire (h : Shadows m a) (id : String) : Shadows (m.evict id).state (a.expire id) where
  settings := h.settings
  sessions := by
    rw [Manager.evict_sessions, h.sessions, Store.map_erase]
    rfl
  counts := by
    show ({ m.tally with expired := m.tally.expired + 1 } : Counts) = _
    rw [h.counts]
    rfl

theorem put_sessions (h : Shadows m a) (id : String) (s : Stack) {e : Entry} (he : e = s.entry) :
    (m.sessions.adjust id fun _ => e) = (a.put id s).sessions.map Stack.entry := by
  rw [h.sessions, he]
  exact Store.map_adjust Stack.entry a.sessions id (fun _ => s) (fun _ => s.entry) fun _ => rfl

end Shadows

/-! ## The same results -/

/-- The same result, and states one of which shadows the other. -/
structure Agree {α : Type} (x : Audited Manager α) (y : Audited Stacks α) : Prop where
  result : x.result = y.result
  state : Shadows x.state y.state

theorem Agree.map {α β : Type} {x : Audited Manager α} {y : Audited Stacks α} (h : Agree x y) (f : α → β) :
    Agree (x.map f) (y.map f) := ⟨congrArg f h.result, h.state⟩

namespace Shadows

theorem withLive {α : Type} (h : Shadows m a) {f : Entry → Entry × α} {g : Stack → Audited Stacks α}
    (hfg : ∀ s, a.Live now id s →
      Agree { result := (f s.entry).2, state := { m with sessions := m.sessions.adjust id fun _ => (f s.entry).1 } }
        (g s)) : Agree (m.withLive now id f) (a.onLive now id g) := by
  rcases h.stands now id with ⟨hm, ha⟩ | ⟨s, ha, hm⟩ | ⟨s, ha, hm⟩
  · rw [Manager.withLive_of_none hm, Stacks.onLive_of_none ha]
    exact ⟨rfl, h⟩
  · rw [Manager.withLive_of_over hm, Stacks.onLive_of_over ha]
    exact ⟨rfl, h.expire id⟩
  · rw [Manager.withLive_of_live hm, Stacks.onLive_of_live ha]
    exact (hfg s ha).map Except.ok

/-- An entry that is put back as it was found. -/
theorem put_back (h : Shadows m a) (hl : a.Live now id s) :
    Shadows { m with sessions := m.sessions.adjust id fun _ => s.entry } a where
  settings := h.settings
  sessions := by
    have hg := h.get?_eq id
    rw [hl.1] at hg
    show (m.sessions.adjust id fun _ => s.entry) = _
    rw [Store.adjust_const hg, h.sessions]
  counts := h.counts

theorem view {α : Type} (h : Shadows m a) {f : Entry → α} {g : Stack → α} (hfg : ∀ s, f s.entry = g s) :
    Agree (m.view now id f) (a.view now id g) :=
  h.withLive fun s hl => ⟨hfg s, h.put_back hl⟩

theorem state (h : Shadows m a) : Agree (m.state now id) (a.state now id) := by
  refine h.view fun s => ?_
  have hlast : s.entry.current? = s.active.getLast?.map Snapshot.id := List.getLast?_map
  have hcount : s.entry.history.length = s.active.length := List.length_map _
  have hcan : (!s.entry.history.isEmpty) = decide (s.active ≠ []) := by
    cases hs : s.active <;> simp [Stack.entry, hs]
  rw [hlast, hcount, hcan]
  rfl

theorem start (h : Shadows m a) (now : Millis) (fresh ip userAgent : String) :
    Agree (m.create now fresh (identityHash ip userAgent)) (a.start now fresh ip userAgent) where
  result := by
    unfold Manager.create Stacks.start
    rw [h.settings]
  state :=
    { settings := h.settings
      sessions := by
        unfold Manager.create Stacks.start
        rw [h.sessions, h.settings, ← Store.map_insert]
        rfl
      counts := by
        show ({ m.tally with created := m.tally.created + 1 } : Counts) = _
        rw [h.counts]
        rfl }

theorem createOrGet (h : Shadows m a) (presented : Option String) (ip userAgent : String) :
    Agree (m.createOrGet now fresh presented ip userAgent) (a.createOrGet now fresh presented ip userAgent) := by
  have hnew := h.start now fresh ip userAgent
  cases presented with
  | none => exact hnew
  | some id =>
    rcases h.stands now id with ⟨hm, ha⟩ | ⟨s, ha, hm⟩ | ⟨s, ha, hm⟩
    · simp only [Manager.createOrGet, Stacks.createOrGet, Option.bind_some, hm, ha, Option.map_none]
      exact hnew
    · simp only [Manager.createOrGet, Stacks.createOrGet, Option.bind_some, hm.1, ha.1, Option.map_some, hm.2, ha.2,
        if_true, Audited.next]
      exact ⟨((h.expire id).start now fresh ip userAgent).result, ((h.expire id).start now fresh ip userAgent).state⟩
    · simp only [Manager.createOrGet, Stacks.createOrGet, Option.bind_some, hm.1, ha.1, Option.map_some, hm.2, ha.2,
        Bool.false_eq_true, if_false]
      by_cases hi : s.session.identity = identityHash ip userAgent
      · rw [if_pos hi, if_pos (show s.entry.session.identity = _ from hi)]
        refine ⟨rfl, h.settings, ?_, h.counts⟩
        rw [← h.put_sessions id _ rfl]
        exact Store.adjust_congr hm.1 rfl
      · rw [if_neg hi, if_neg (show ¬ s.entry.session.identity = _ from hi)]
        exact ⟨hnew.result, hnew.state⟩

theorem renew (h : Shadows m a) : Agree (m.renew now id) (a.renew now id) :=
  h.withLive fun s _ =>
    have hs : s.entry.slide now m.settings.ttl = (s.renew (now + a.settings.ttl)).entry := by
      rw [h.settings]
      rfl
    ⟨congrArg Entry.session hs, h.settings, h.put_sessions id _ hs, h.counts⟩

theorem createSnapshot (h : Shadows m a) (hf : m.snapshots.get? fresh = none) (document : Document)
    (text : Option String) : Agree (m.createSnapshot now fresh id document text)
      (a.record now id (.taken now fresh id document text)) := by
  unfold Stacks.record
  rcases h.stands now id with ⟨hm, ha⟩ | ⟨s, ha, hm⟩ | ⟨s, ha, hm⟩
  · rw [Manager.createSnapshot_of_none hm hf, Stacks.onLive_of_none ha]
    exact ⟨rfl, h⟩
  · obtain ⟨hr, hs⟩ := Manager.createSnapshot_of_over hm hf document text
    rw [Stacks.onLive_of_over ha]
    exact ⟨hr, hs ▸ h.expire id⟩
  · obtain ⟨hr, hs⟩ := Manager.createSnapshot_of_live hm document text
    rw [Stacks.onLive_of_live ha]
    refine ⟨hr, ?_⟩
    rw [hs]
    have hp := s.entry_push (.taken now fresh id document text) m.settings.maxHistory.toNat
    change s.entry.push fresh _ = _ at hp
    refine ⟨h.settings, ?_, ?_⟩
    · rw [hp, h.settings]
      exact h.put_sessions id (((s.push _ _).renew _).withQuota _) rfl
    · rw [hp]
      show ({ m.tally with
        snapshotsCreated := m.tally.snapshotsCreated + 1
        snapshotsEvicted := m.tally.snapshotsEvicted + _ } : Counts) = _
      rw [h.counts, h.settings]
      simp [Audited.map, Stacks.put]

theorem takeBack (h : Shadows m a) {steps : Stack → Nat} {n : Nat} (hn : ∀ s, a.Live now id s → steps s = n) :
    Shadows (m.takeBack now id n).state (a.undo now id steps).state := by
  unfold Stacks.undo
  rcases h.stands now id with ⟨hm, ha⟩ | ⟨s, ha, hm⟩ | ⟨s, ha, hm⟩
  · rw [Manager.takeBack_of_none hm, Stacks.onLive_of_none ha]
    exact h
  · rw [Manager.takeBack_of_over hm, Stacks.onLive_of_over ha]
    exact h.expire id
  · rw [Manager.takeBack_of_live hm, Stacks.onLive_of_live ha, hn s ha]
    have hu := s.entry_undo n m.settings.maxDetached.toNat
    refine ⟨h.settings, ?_, ?_⟩
    · rw [hu, h.settings]
      exact h.put_sessions id ((s.undo n _).renew _) rfl
    · rw [hu]
      show ({ m.tally with snapshotsEvicted := m.tally.snapshotsEvicted + _ } : Counts) = _
      rw [h.counts, h.settings]
      simp [Audited.map, Stacks.put]

theorem undo_state (h : Shadows m a) (now : Millis) (id : String) (steps : Nat) :
    Shadows (m.undo now id steps).state (a.undo now id fun _ => steps).state := by
  rw [Manager.undo_state]
  exact h.takeBack fun _ _ => rfl

theorem reset_state (h : Shadows m a) (now : Millis) (id : String) :
    Shadows (m.reset now id).state (a.undo now id fun s => s.active.length).state := by
  rw [Manager.reset_state]
  refine h.takeBack fun s hl => ?_
  unfold Manager.historyLength
  rw [h.get?_eq, hl.1]
  exact (List.length_map _).symm

theorem destroy (h : Shadows m a) : Agree (m.destroy id) (a.destroy id) := by
  have hg := h.get?_eq id
  unfold Manager.destroy Stacks.destroy
  cases hs : a.sessions.get? id with
  | none =>
    rw [hs] at hg
    rw [hg]
    exact ⟨rfl, h⟩
  | some s =>
    rw [hs] at hg
    rw [hg]
    refine ⟨rfl, h.settings, (h.expire id).sessions, ?_⟩
    show ({ m.tally with destroyed := m.tally.destroyed + 1 } : Counts) = _
    rw [h.counts]
    rfl

theorem discardUnused (h : Shadows m a) : Agree (m.discardUnused id) (a.discardUnused id) := by
  have hu : (m.sessions.get? id).any Entry.isUnused = (a.sessions.get? id).any fun s =>
      s.session.quota.transformCount == 0 && s.active.isEmpty && s.undone.isEmpty := by
    rw [h.get?_eq, Option.any_map]
    congr 1
    funext s
    simp [Entry.isUnused, Stack.entry]
  unfold Manager.discardUnused Stacks.discardUnused
  rw [hu]
  split
  · refine ⟨rfl, h.settings, (h.expire id).sessions, ?_⟩
    show ({ m.tally with discarded := m.tally.discarded + 1 } : Counts) = _
    rw [h.counts]
  · exact ⟨rfl, h⟩

theorem evictAll : ∀ (ids : List String) {m : Manager} {a : Stacks}, Shadows m a →
    Shadows (m.evictAll ids).state (ids.foldl Stacks.expire a)
  | [], _, _, h => h
  | id :: ids, _, _, h => evictAll ids (h.expire id)

end Shadows

theorem Stacks.foldl_expire : ∀ (ids : List String) (a : Stacks), ids.foldl expire a =
    { a with
      sessions := ids.foldl Store.erase a.sessions
      counts.expired := a.counts.expired + ids.length }
  | [], _ => rfl
  | id :: ids, a => by
    rw [List.foldl_cons, foldl_expire ids, List.length_cons, Nat.add_comm ids.length, ← Nat.add_assoc]
    rfl

/-- A session is overdue if it is stored and its time is over. -/
theorem Shadows.mem_overdue (h : Shadows m a) {k : String} :
    k ∈ m.overdue now ↔ ∃ s, a.sessions.get? k = some s ∧ s.session.isExpired now = true := by
  unfold Manager.overdue Store.toSorted
  simp only [List.mem_map, List.mem_filter, List.mem_mergeSort]
  constructor
  · rintro ⟨⟨k, e⟩, ⟨he, hx⟩, rfl⟩
    have hg := h.get?_eq k
    rw [Store.get?_eq_some_iff.2 he] at hg
    obtain ⟨s, hs, rfl⟩ := Option.map_eq_some_iff.1 hg.symm
    exact ⟨s, hs, hx⟩
  · rintro ⟨s, hs, hx⟩
    have hg := h.get?_eq k
    rw [hs] at hg
    exact ⟨(k, s.entry), ⟨Store.get?_eq_some_iff.1 hg, hx⟩, rfl⟩

theorem Shadows.length_overdue (h : Shadows m a) :
    (m.overdue now).length = (a.sessions.filter fun _ s => s.session.isExpired now).size := by
  have hf := Store.map_filter Stack.entry a.sessions (fun _ s => s.session.isExpired now)
    (fun _ e => e.session.isExpired now) fun _ _ => rfl
  unfold Manager.overdue Store.toSorted
  rw [List.length_map, ((List.mergeSort_perm _ _).filter _).length_eq, h.sessions, ← Store.size_map Stack.entry, ← hf]
  rfl

theorem Shadows.sweep (h : Shadows m a) : Agree (m.sweep now) (a.sweep now) := by
  have hk : (m.overdue now).foldl Store.erase a.sessions = a.sessions.filter fun _ s => !s.session.isExpired now := by
    rw [Store.eraseAll_eq_filter]
    refine Store.filter_congr fun k s hs => ?_
    simp [h.mem_overdue, hs]
  have hs := Shadows.evictAll (m.overdue now) h
  rw [Stacks.foldl_expire, hk, h.length_overdue] at hs
  exact ⟨h.length_overdue, hs⟩

theorem Stacks.undo_result (ha : a.Live now id s) (steps : Stack → Nat) : (a.undo now id steps).result =
    .ok { removed := (s.newest (steps s)).map Snapshot.id, current := (s.active.rdrop (steps s)).getLast? } := by
  unfold undo
  rw [onLive_of_live ha]
  rfl

/-- Nothing is left in force when everything is taken back. -/
theorem Shadows.reset_result (h : Shadows m a) :
    (m.reset now id).result = (a.undo now id fun s => s.active.length).result := by
  rcases h.stands now id with ⟨hm, ha⟩ | ⟨s, ha, hm⟩ | ⟨s, ha, hm⟩
  · unfold Stacks.undo
    rw [Manager.reset_eq, Stacks.onLive_of_none ha, Manager.takeBack_of_none hm]
    rfl
  · unfold Stacks.undo
    rw [Manager.reset_eq, Stacks.onLive_of_over ha, Manager.takeBack_of_over hm]
    rfl
  · have hall : m.historyLength id = s.active.length :=
      (Manager.historyLength_of_live hm).trans (List.length_map _)
    have hnone : s.active.rdrop s.active.length = [] := by
      rw [List.rdrop, Nat.sub_self, List.take_zero]
    rw [Manager.reset_result hm, Stacks.undo_result ha, s.entry_pop, hall, hnone]
    rfl

end SiteEdit.Session
