import SiteEdit.Proofs.Range
import SiteEdit.Proofs.Session.Effects
import Mathlib.Algebra.Ring.Nat
/-!
# Taking back in several steps

Taking back snapshots twice is taking them back once, with what the queue pushes out counted together: a queue that
keeps its newest ids keeps the same ones whether they come in two parts or in one.  A reset takes back the whole
history, as does an undo that asks for more than there is.
-/
namespace SiteEdit.Session

/-! ## A queue that keeps its newest ids -/

section Queue

variable {α : Type} (queue more : List α) (cap : Nat)

/-- What two cuts push out is as much as one pushes out. -/
theorem surplus_append :
    (queue.length - cap) + ((queue.drop (queue.length - cap) ++ more).length - cap) = (queue ++ more).length - cap := by
  simp only [List.length_append, List.length_drop]
  omega

theorem cut_append : queue.drop (queue.length - cap) ++ more = (queue ++ more).drop (queue.length - cap) :=
  (List.drop_append_of_le_length (Nat.sub_le _ _)).symm

/-- A queue keeps the same ids in two cuts as in one. -/
theorem drop_surplus_append :
    (queue.drop (queue.length - cap) ++ more).drop ((queue.drop (queue.length - cap) ++ more).length - cap) =
      (queue ++ more).drop ((queue ++ more).length - cap) := by
  rw [← surplus_append queue more cap, ← List.drop_drop, ← cut_append]

/-- What two cuts push out, in order, is what one pushes out. -/
theorem take_surplus_append :
    queue.take (queue.length - cap) ++
        (queue.drop (queue.length - cap) ++ more).take ((queue.drop (queue.length - cap) ++ more).length - cap) =
      (queue ++ more).take ((queue ++ more).length - cap) := by
  rw [← surplus_append queue more cap, List.take_add, ← cut_append, List.take_append_of_le_length (Nat.sub_le _ _)]

end Queue

/-! ## Entries -/

namespace Entry

variable (e : Entry) (cap j k : Nat) (now ttl : Millis)

/-- Read from its newest end, a history is popped from the front. -/
theorem pop_eq_reverse (n : Nat) :
    e.pop n = ({ e with history := (e.history.reverse.drop n).reverse }, e.history.reverse.take n) := by
  rw [pop_eq, List.drop_reverse, List.reverse_reverse, List.take_reverse]

/-- Takes up to `n` snapshots back into the detached queue; returns those that are pushed out of it. -/
def takeBack (n cap : Nat) : Entry × List String := (e.pop n).1.detach (e.pop n).2 cap

/-- What is popped in two steps, the newest first. -/
theorem pop_removed :
    (e.pop j).2 ++ ((((e.takeBack j cap).1.slide now ttl).pop k).2) = (e.pop (j + k)).2 := by
  simp only [takeBack, detach, slide, pop_eq_reverse, List.reverse_reverse, List.take_add]

theorem pop_current : (((e.takeBack j cap).1.slide now ttl).pop k).1.current? = (e.pop (j + k)).1.current? := by
  simp only [takeBack, detach, slide, current?, pop_eq_reverse, List.reverse_reverse, List.drop_drop]

/-- Two steps leave the entry that one leaves. -/
theorem takeBack_takeBack :
    (((e.takeBack j cap).1.slide now ttl).takeBack k cap).1.slide now ttl =
      (e.takeBack (j + k) cap).1.slide now ttl := by
  simp only [takeBack, detach, slide, pop_eq_reverse, List.reverse_reverse, List.drop_drop, drop_surplus_append,
    List.append_assoc, List.take_add]

theorem takeBack_takeBack_purged :
    (e.takeBack j cap).2 ++ (((e.takeBack j cap).1.slide now ttl).takeBack k cap).2 = (e.takeBack (j + k) cap).2 := by
  simp only [takeBack, detach, slide, pop_eq_reverse, List.reverse_reverse, take_surplus_append, List.append_assoc,
    List.take_add]

end Entry

/-! ## The manager -/

namespace Manager

variable {m : Manager} {now : Millis} {id : String} {e : Entry}

/-- The manager after the newest snapshots of a live session were taken back. -/
def takenBack (m : Manager) (now : Millis) (id : String) (e : Entry) (steps : Nat) : Manager :=
  let queued := e.takeBack steps m.settings.maxDetached.toNat
  { m with
    sessions := m.sessions.adjust id fun _ => queued.1.slide now m.settings.ttl
    snapshots := queued.2.foldl Store.erase m.snapshots
    snapshotsEvicted := m.snapshotsEvicted + queued.2.length }

theorem undo_state_of_live (h : m.Live now id e) (steps : Nat) :
    (m.undo now id steps).state = m.takenBack now id e steps := by
  rw [undo_state, takeBack_of_live h]
  rfl

/-- What an undo of a live session returns is what it takes back, and the snapshot that it leaves on top. -/
theorem undo_result_of_live (h : m.Live now id e) (steps : Nat) :
    (m.undo now id steps).result =
      .ok { removed := (e.pop steps).2
            current := (e.pop steps).1.current?.bind (m.takenBack now id e steps).snapshots.get? } := by
  rw [undo_result h, undo_state_of_live h]
  rfl

/-- An undo starts the time of its session anew, so it leaves it live unless sessions have no time at all. -/
theorem takenBack_live (h : m.Live now id e) (ht : 0 < m.settings.ttl) (steps : Nat) :
    (m.takenBack now id e steps).Live now id
      ((e.takeBack steps m.settings.maxDetached.toNat).1.slide now m.settings.ttl) := by
  refine ⟨?_, decide_eq_false (Int.not_le.2 (Int.lt_add_of_pos_right now ht))⟩
  show (m.sessions.adjust id _).get? id = _
  rw [Store.get?_adjust, if_pos rfl, h.1]
  rfl

theorem takenBack_takenBack (m : Manager) (now : Millis) (id : String) (e : Entry) (j k : Nat) :
    (m.takenBack now id e j).takenBack now id
        ((e.takeBack j m.settings.maxDetached.toNat).1.slide now m.settings.ttl) k =
      m.takenBack now id e (j + k) := by
  unfold takenBack
  dsimp only
  rw [Store.adjust_adjust, Entry.takeBack_takeBack, ← List.foldl_append, Nat.add_assoc, ← List.length_append,
    Entry.takeBack_takeBack_purged]

theorem undo_undo_state (h : m.Live now id e) (ht : 0 < m.settings.ttl) (j k : Nat) :
    ((m.undo now id j).state.undo now id k).state = (m.undo now id (j + k)).state := by
  rw [undo_state_of_live h, undo_state_of_live h, undo_state_of_live (takenBack_live h ht j), takenBack_takenBack]

/-- **Undo composes, and a reset is a full undo.**  Of a live session, two undos at one time are one undo of as many
steps as both, if sessions have any time and the end of it does not overflow: the session is live in between, both ways
leave the same manager, they take back the same snapshots in the same order, and the last one returns the same snapshot
on top.  A reset leaves what every undo leaves that asks for the whole history or more, and returns the same. -/
theorem undo_composes (m : Manager) (now : Millis) (id : String) (e : Entry) (h : m.Live now id e) :
    (0 < m.settings.ttl → InRange (now + m.settings.ttl) → ∀ j k, ∃ first second,
      (m.undo now id j).result = .ok first ∧
        (∃ between, (m.undo now id j).state.Live now id between ∧ InRange between.session.ttlAt) ∧
        ((m.undo now id j).state.undo now id k).result = .ok second ∧
        ((m.undo now id j).state.undo now id k).state = (m.undo now id (j + k)).state ∧
        (m.undo now id (j + k)).result =
          .ok { removed := first.removed ++ second.removed, current := second.current }) ∧
      ∀ n, e.history.length ≤ n →
        (m.reset now id).state = (m.undo now id n).state ∧ (m.reset now id).result = (m.undo now id n).result := by
  refine ⟨fun ht hrange j k => ?_, fun n hn => ?_⟩
  · have hl := takenBack_live h ht j
    rw [← undo_state_of_live h] at hl
    refine ⟨_, _, undo_result_of_live h j, ⟨_, hl, hrange⟩, undo_result_of_live hl k, undo_undo_state h ht j k, ?_⟩
    rw [undo_result_of_live h (j + k), undo_state_of_live h, takenBack_takenBack, Entry.pop_removed,
      Entry.pop_current]
  · have hlength : m.historyLength id = e.history.length := historyLength_of_live h
    have hpop : e.pop e.history.length = e.pop n := by rw [e.pop_of_le hn, e.pop_of_le (Nat.le_refl _)]
    refine ⟨?_, ?_⟩
    · rw [reset_state, ← undo_state, undo_state_of_live h, undo_state_of_live h, hlength]
      unfold takenBack Entry.takeBack
      rw [hpop]
    · rw [reset_result h, undo_result_of_live h, hlength, hpop, e.pop_of_le hn]
      rfl

/-- Three snapshots, and a queue with room for two. -/
def threefoldRun : Actions :=
  [(0, .createOrGet "a" none "192.0.2.1" "agent"), (1, .createSnapshot "u" "a" (.ofChanges []) none),
    (2, .createSnapshot "v" "a" (.ofChanges []) none), (3, .createSnapshot "w" "a" (.ofChanges []) none)]

theorem undo_composes_threefold :
    let m := (empty { ttlSecs := 1, maxDetached := 2 }).run threefoldRun
    ∃ e, m.Live 4 "a" e ∧ 0 < m.settings.ttl ∧ InRange (4 + m.settings.ttl) ∧ e.history.length ≤ 3 ∧
      ((m.undo 4 "a" 1).state.undo 4 "a" 2).state = (m.undo 4 "a" 3).state ∧
      (m.undo 4 "a" 3).state.snapshots.entries.map Prod.fst = ["v", "u"] ∧
      (m.reset 4 "a").result.toOption = some { removed := ["w", "v", "u"], current := none } := by
  intro m
  have hl : m.Live 4 "a" ((m.sessions.get? "a").get (by decide +kernel)) :=
    ⟨(Option.some_get _).symm, by decide +kernel⟩
  have ht : 0 < m.settings.ttl := by decide +kernel
  have hrange : InRange (4 + m.settings.ttl) := by decide +kernel
  have hn : ((m.sessions.get? "a").get (by decide +kernel)).history.length ≤ 3 := by decide +kernel
  obtain ⟨hundo, hreset⟩ := undo_composes m 4 "a" _ hl
  obtain ⟨-, -, -, -, -, hs, -⟩ := hundo ht hrange 1 2
  refine ⟨_, hl, ht, hrange, hn, hs, by decide +kernel, ?_⟩
  rw [(hreset 3 hn).2]
  decide +kernel

/-- When sessions have no time at all, a live session is over after its first undo: it was started later than now, by
a clock that was set back. -/
theorem undo_undo_timeless :
    let m := (empty { ttlSecs := 0 }).run [(1, .createOrGet "a" none "192.0.2.1" "agent")]
    (∃ e, m.Live 0 "a" e) ∧ ((m.undo 0 "a" 1).state.undo 0 "a" 1).state ≠ (m.undo 0 "a" 2).state ∧
      ((m.undo 0 "a" 1).state.undo 0 "a" 1).result.toOption = none := by
  intro m
  have hl : m.Live 0 "a" ((m.sessions.get? "a").get (by decide +kernel)) :=
    ⟨(Option.some_get _).symm, by decide +kernel⟩
  exact ⟨⟨_, hl⟩, by decide +kernel, by decide +kernel⟩

end Manager

end SiteEdit.Session
