import SiteEdit.Audit.Log
import Mathlib.Data.List.DropRight
/-!
# The log is a window

What was ever recorded is a list of numbered entries, the trail.  Every call makes the trail longer by one entry, and
the log holds the end of it, as much as there is room for (`Tracks.record`, `Tracks.after`).  The queries and the counts
are about that end.
-/
namespace SiteEdit.Audit

/-- Events, each with the time at which it is recorded. -/
abbrev Calls := List (Millis × Event)

/-- The entry of the event that is recorded as number `id`. -/
def Entry.recorded (id : Nat) (call : Millis × Event) : Entry :=
  { id := id
    level := call.2.level
    event := call.2.name
    session := call.2.session
    data := Policy.Redactor.builtin.redactJson call.2.data
    createdAt := call.1 }

/-- All entries that calls ever made, numbered from one. -/
def trail (calls : Calls) : List Entry := calls.mapIdx fun i call => .recorded (i + 1) call

theorem length_trail (calls : Calls) : (trail calls).length = calls.length := List.length_mapIdx

theorem trail_concat (calls : Calls) (call : Millis × Event) :
    trail (calls ++ [call]) = trail calls ++ [.recorded (calls.length + 1) call] := List.mapIdx_concat

theorem mem_trail {calls : Calls} {e : Entry} (h : e ∈ trail calls) :
    ∃ i call, calls[i]? = some call ∧ e = .recorded (i + 1) call := by
  obtain ⟨i, hi, rfl⟩ := List.mem_mapIdx.1 h
  exact ⟨i, calls[i], List.getElem?_eq_getElem hi, rfl⟩

theorem trail_ascending (calls : Calls) : (trail calls).Pairwise fun d e => d.id < e.id := by
  rw [List.pairwise_iff_getElem]
  intro i j hi hj hlt
  simpa [trail, Entry.recorded] using hlt

/-- To cut a list down each time that it grows comes to the same as to cut it down once. -/
theorem rtake_rtake_concat {α : Type} (l : List α) (a : α) (n : Nat) :
    (l.rtake n ++ [a]).rtake n = (l ++ [a]).rtake n := by
  cases n with
  | zero => simp
  | succ n =>
    rw [List.rtake_concat_succ, List.rtake_concat_succ]
    simp only [List.rtake, List.length_drop, List.drop_drop]
    congr 2
    omega

namespace Log

/-- The log after calls. -/
def after (log : Log) (calls : Calls) : Log := calls.foldl (fun log call => log.record call.1 call.2) log

theorem after_append (log : Log) (calls calls' : Calls) : log.after (calls ++ calls') = (log.after calls).after calls' :=
  List.foldl_append

theorem recordAll_eq_after (log : Log) (now : Millis) (events : List Event) :
    log.recordAll now events = log.after (events.map fun e => (now, e)) := by
  unfold recordAll after
  rw [List.foldl_map]

/-- The log is what these calls leave: the end of their trail that there is room for, and how much of it is gone. -/
structure Tracks (log : Log) (calls : Calls) : Prop where
  entries : log.entries = (trail calls).rtake log.settings.maxEntries.toNat
  recorded : log.recorded = calls.length
  dropped : log.dropped = calls.length - log.settings.maxEntries.toNat

variable {log : Log} {calls : Calls}

theorem tracks_empty (s : Settings) : (empty s).Tracks [] where
  entries := (List.rtake_nil _).symm
  recorded := rfl
  dropped := (Nat.zero_sub _).symm

namespace Tracks

theorem length (h : log.Tracks calls) : log.entries.length = min log.settings.maxEntries.toNat calls.length := by
  simp only [h.entries, List.rtake, List.length_drop, length_trail]
  omega

/-- A call adds its entry to the trail, and the log follows. -/
theorem record (h : log.Tracks calls) (now : Millis) (e : Event) :
    (log.record now e).Tracks (calls ++ [(now, e)]) where
  entries := by
    have hentry : (log.record now e).entries
        = (log.entries ++ [Entry.recorded (log.recorded + 1) (now, e)]).rtake log.settings.maxEntries.toNat := rfl
    rw [hentry, h.recorded, h.entries, rtake_rtake_concat, trail_concat]
    rfl
  recorded := by
    show log.recorded + 1 = _
    rw [h.recorded, List.length_append, List.length_singleton]
  dropped := by
    have hlength := h.length
    show log.dropped + ((log.entries ++ [_]).length - log.settings.maxEntries.toNat) = _ - log.settings.maxEntries.toNat
    simp only [h.dropped, List.length_append, List.length_singleton]
    omega

theorem after : ∀ (calls' : Calls) {log : Log} {calls : Calls}, log.Tracks calls →
    (log.after calls').Tracks (calls ++ calls')
  | [], _, _, h => by rwa [List.append_nil]
  | (now, e) :: calls', _, calls, h => by
    have h' := after calls' (h.record now e)
    rwa [List.append_assoc] at h'

theorem suffix (h : log.Tracks calls) : log.entries <:+ trail calls := by
  rw [h.entries]
  exact List.drop_suffix _ _

end Tracks

theorem after_settings : ∀ (calls : Calls) (log : Log), (log.after calls).settings = log.settings
  | [], _ => rfl
  | (now, e) :: calls, log => after_settings calls (log.record now e)

/-! ## Queries and counts -/

/-- The answer to a query: just the entries of which something holds, in their order. -/
def Selects (p : Entry → Prop) (entries answer : List Entry) : Prop :=
  answer.Sublist entries ∧ ∀ e, e ∈ answer ↔ e ∈ entries ∧ p e

theorem selects_filter {p : Entry → Prop} {q : Entry → Bool} (h : ∀ e, q e = true ↔ p e) (entries : List Entry) :
    Selects p entries (entries.filter q) :=
  ⟨List.filter_sublist, fun e => by rw [List.mem_filter, h]⟩

/-- Every entry has one of the three levels. -/
theorem count_levels (log : Log) : log.count .info + log.count .warning + log.count .critical = log.entries.length := by
  unfold count
  induction log.entries with
  | nil => rfl
  | cons e entries ih =>
    rw [List.length_cons, ← ih]
    cases h : e.level <;> simp [h] <;> omega

/-- What a log shows of the calls that it got: the end of their trail, as much as there is room for, with the numbers
that the entries have had from the start.  `recent` is an end of the log, the other queries select from it in its order.
The counts add up, by level to what is held, and with what was dropped to what was ever recorded. -/
structure Window (s : Settings) (calls : Calls) (log : Log) : Prop where
  newest : log.entries <:+ trail calls
  length : log.entries.length = min s.maxEntries.toNat calls.length
  ascending : log.entries.Pairwise fun d e => d.id < e.id
  recent : ∀ n, log.recent n <:+ log.entries ∧ (log.recent n).length = min n log.entries.length
  bySession : ∀ session, Selects (fun e => e.session = some session) log.entries (log.bySession session)
  byEvent : ∀ event, Selects (fun e => e.event = event) log.entries (log.byEvent event)
  atLeast : ∀ level : Level, Selects (fun e => level.rank ≤ e.level.rank) log.entries (log.atLeast level)
  retained : log.stats.retained = log.entries.length
  levels : log.stats.retained = log.stats.info + log.stats.warning + log.stats.critical
  dropped : log.stats.retained + log.stats.dropped = log.stats.recorded
  recorded : log.stats.recorded = calls.length

/-- **The log is a window on the trail**, after any calls and whatever its bound. -/
theorem window_after (s : Settings) (calls : Calls) : Window s calls ((empty s).after calls) := by
  have h : ((empty s).after calls).Tracks calls := (tracks_empty s).after calls
  have hs : ((empty s).after calls).settings = s := after_settings calls (empty s)
  have hlength := h.length
  have hdropped := h.dropped
  rw [hs] at hlength hdropped
  refine
    { newest := h.suffix
      length := hlength
      ascending := (trail_ascending calls).sublist h.suffix.sublist
      recent := fun n => ⟨List.drop_suffix _ _, ?_⟩
      bySession := fun session => selects_filter (fun e => by simp) _
      byEvent := fun event => selects_filter (fun e => by simp) _
      atLeast := fun level => selects_filter (fun e => by simp) _
      retained := rfl
      levels := (count_levels _).symm
      dropped := ?_
      recorded := h.recorded }
  · simp only [Log.recent, List.length_drop]
    omega
  · have hrecorded := h.recorded
    simp only [stats]
    omega

end Log

end SiteEdit.Audit
