import SiteEdit.Proofs.Session.Effects
import Mathlib.Data.List.Nodup
/-!
# Who owns a snapshot

The stored snapshots of a session are those that the session lists, in force or detached, each once; a session that is
not stored has none.  An operation touches the snapshots of one session, so it is enough to look at what that session
lists before and after (`Owned.replace`, `Owned.grow`, `Owned.drop`).
-/
namespace SiteEdit.Session

open Audit (Audited)

/-- The ids that a session lists, in force or detached. -/
def Entry.listed (e : Entry) : List String := e.history ++ e.detached

/-- The ids that the session under a key lists; none if there is no such session. -/
def listed (sessions : Store Entry) (k : String) : List String := ((sessions.get? k).map Entry.listed).getD []

/-- An entry has the id of its key and keeps to the bounds. -/
structure Entry.Fits (e : Entry) (s : Settings) (k : String) : Prop where
  id : e.session.id = k
  history : e.history.length ≤ s.maxHistory.toNat
  detached : e.detached.length ≤ s.maxDetached.toNat

/-- **The stored snapshots of every session are those that it lists**, each once. -/
structure Owned (sessions : Store Entry) (snapshots : Store Snapshot) : Prop where
  id : ∀ x s, snapshots.get? x = some s → s.id = x
  nodup : ∀ k, (listed sessions k).Nodup
  mem_iff : ∀ k x, x ∈ listed sessions k ↔ ∃ s, snapshots.get? x = some s ∧ s.sessionId = k

/-- What holds of the manager between operations. -/
structure Manager.Sound (m : Manager) : Prop where
  owned : Owned m.sessions m.snapshots
  fits : ∀ k e, m.sessions.get? k = some e → e.Fits m.settings k

variable {sessions : Store Entry} {snapshots : Store Snapshot} {id fresh : String} {e e' : Entry}

/-! ## What sessions list -/

theorem listed_of_some (h : sessions.get? id = some e) : listed sessions id = e.listed := by
  unfold listed
  rw [h]
  rfl

theorem listed_of_none (h : sessions.get? id = none) : listed sessions id = [] := by
  unfold listed
  rw [h]
  rfl

theorem listed_erase (sessions : Store Entry) (id k : String) :
    listed (sessions.erase id) k = if k = id then [] else listed sessions k := by
  unfold listed
  rw [Store.get?_erase]
  split <;> rfl

theorem listed_adjust (h : sessions.get? id = some e) (f : Entry → Entry) (k : String) :
    listed (sessions.adjust id f) k = if k = id then (f e).listed else listed sessions k := by
  unfold listed
  rw [Store.get?_adjust]
  split
  · rename_i hk
    rw [hk, h]
    rfl
  · rfl

/-! ## Snapshots change hands -/

namespace Owned

theorem stored (h : Owned sessions snapshots) (he : sessions.get? id = some e) {x : String} (hx : x ∈ e.listed) :
    ∃ s, snapshots.get? x = some s ∧ s.sessionId = id :=
  (h.mem_iff id x).1 (by rwa [listed_of_some he])

theorem of_listed (h : Owned sessions snapshots) {sessions' : Store Entry}
    (hl : ∀ k, listed sessions' k = listed sessions k) : Owned sessions' snapshots where
  id := h.id
  nodup k := by
    rw [hl]
    exact h.nodup k
  mem_iff k x := by
    rw [hl]
    exact h.mem_iff k x

/-- A session is dropped with all its snapshots. -/
theorem drop (h : Owned sessions snapshots) (id : String) :
    Owned (sessions.erase id) (snapshots.filter fun _ s => s.sessionId != id) where
  id x s hs := by
    rw [Store.get?_filter, Option.filter_eq_some_iff] at hs
    exact h.id x s hs.1
  nodup k := by
    rw [listed_erase]
    split
    · exact List.nodup_nil
    · exact h.nodup k
  mem_iff k x := by
    simp only [listed_erase, Store.get?_filter, Option.filter_eq_some_iff, bne_iff_ne]
    split
    · rename_i hk
      refine ⟨fun hx => absurd hx List.not_mem_nil, ?_⟩
      rintro ⟨s, ⟨-, hs⟩, rfl⟩
      exact absurd hk hs
    · rename_i hk
      rw [h.mem_iff k x]
      constructor
      · rintro ⟨s, hs, rfl⟩
        exact ⟨s, ⟨hs, hk⟩, rfl⟩
      · rintro ⟨s, ⟨hs, -⟩, hk⟩
        exact ⟨s, hs, hk⟩

/-- A session lists one more snapshot. -/
theorem grow (h : Owned sessions snapshots) (he : sessions.get? id = some e) (hf : snapshots.get? fresh = none)
    {s : Snapshot} (hs : s.id = fresh) (hi : s.sessionId = id) (hl : e'.listed.Perm (fresh :: e.listed)) :
    Owned (sessions.adjust id fun _ => e') (snapshots.insert fresh s) where
  id x t ht := by
    rw [Store.get?_insert] at ht
    split at ht
    · rename_i hx
      rw [← Option.some.inj ht, hs, hx]
    · exact h.id x t ht
  nodup k := by
    rw [listed_adjust he]
    split
    · refine hl.nodup_iff.2 (List.nodup_cons.2 ⟨fun hx => ?_, ?_⟩)
      · obtain ⟨t, ht, -⟩ := h.stored he hx
        rw [hf] at ht
        cases ht
      · rw [← listed_of_some he]
        exact h.nodup id
    · exact h.nodup k
  mem_iff k x := by
    rw [listed_adjust he, Store.get?_insert]
    by_cases hx : x = fresh
    · rw [if_pos hx]
      split
      · rename_i hk
        exact ⟨fun _ => ⟨s, rfl, hi.trans hk.symm⟩, fun _ => hl.mem_iff.2 (hx ▸ List.mem_cons_self)⟩
      · rename_i hk
        rw [h.mem_iff k x, hx, hf]
        constructor
        · rintro ⟨t, ht, -⟩
          cases ht
        · rintro ⟨t, ht, htk⟩
          obtain rfl := Option.some.inj ht
          exact absurd (htk.symm.trans hi) hk
    · rw [if_neg hx, ← h.mem_iff k x]
      split
      · rename_i hk
        rw [hl.mem_iff, List.mem_cons, or_iff_right hx, hk, listed_of_some he]
      · rfl

/-- A session lists fewer snapshots, and those that it gives up are dropped. -/
theorem replace (h : Owned sessions snapshots) (he : sessions.get? id = some e) {gone : List String}
    (hl : (gone ++ e'.listed).Perm e.listed) :
    Owned (sessions.adjust id fun _ => e') (gone.foldl Store.erase snapshots) := by
  have hnd : (gone ++ e'.listed).Nodup := by
    rw [hl.nodup_iff, ← listed_of_some he]
    exact h.nodup id
  rw [List.nodup_append'] at hnd
  refine ⟨fun x s hs => ?_, fun k => ?_, fun k x => ?_⟩
  · rw [Store.get?_eraseAll] at hs
    split at hs
    · cases hs
    · exact h.id x s hs
  · rw [listed_adjust he]
    split
    · exact hnd.2.1
    · exact h.nodup k
  · rw [listed_adjust he, Store.get?_eraseAll]
    have hm : x ∈ gone ∨ x ∈ e'.listed ↔ x ∈ listed sessions id := by
      rw [listed_of_some he, ← hl.mem_iff, List.mem_append]
    by_cases hx : x ∈ gone
    · -- what is given up belonged to this session, so no other one lists it
      obtain ⟨s, hs, hsi⟩ := (h.mem_iff id x).1 (hm.1 (.inl hx))
      rw [if_pos hx]
      refine ⟨fun hk => ?_, fun ⟨_, ht, _⟩ => by cases ht⟩
      split at hk
      · exact absurd hk (hnd.2.2 hx)
      · rename_i hne
        obtain ⟨t, ht, rfl⟩ := (h.mem_iff k x).1 hk
        obtain rfl := Option.some.inj (hs.symm.trans ht)
        exact absurd hsi hne
    · rw [if_neg hx, ← h.mem_iff k x]
      split
      · rename_i hk
        rw [hk, ← hm, or_iff_right hx]
      · rfl

end Owned

end SiteEdit.Session
