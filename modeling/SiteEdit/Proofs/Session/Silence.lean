import SiteEdit.Proofs.Session.Fresh
/-!
# Changes that nothing is reported of

Two operations change what is stored and report nothing: a live session is renewed, or its own client presents it and
the request is counted.  Every other operation that changes a session or a snapshot reports it (`changed_silently_iff`).
-/
namespace SiteEdit.Session

theorem Entry.slide_eq_self {e : Entry} {now ttl : Millis} (h : e.session.ttlAt = now + ttl) :
    e.slide now ttl = e := by
  unfold slide
  rw [← h]

theorem Entry.countRequest_ne (e : Entry) : e.countRequest ≠ e := fun h => by
  have hcount : e.session.quota.requestCount + 1 = e.session.quota.requestCount :=
    congrArg (fun e : Entry => e.session.quota.requestCount) h
  omega

namespace Manager

open Audit (Audited)

variable {m : Manager} {now : Millis} {id : String} {e : Entry}

/-- The same sessions and the same snapshots are stored. -/
def SameStores (m m' : Manager) : Prop := m'.sessions = m.sessions ∧ m'.snapshots = m.snapshots

theorem SameStores.refl (m : Manager) : m.SameStores m := ⟨rfl, rfl⟩

/-- A session whose entry changes is not stored as it was. -/
theorem not_sameStores_of_adjust {f : Entry → Entry} (he : m.sessions.get? id = some e) (hf : f e ≠ e) :
    ¬ m.SameStores { m with sessions := m.sessions.adjust id f } := by
  rintro ⟨hs, -⟩
  have hget := m.sessions.get?_adjust id id f
  rw [show m.sessions.adjust id f = m.sessions from hs, if_pos rfl, he, Option.map_some, Option.some.injEq] at hget
  exact hf hget.symm

/-- The changes that are not reported, with the state after them: the time of a live session starts anew, or a live
session is presented by the client that it belongs to.  Nothing else of the session changes, and no other one. -/
inductive Silent (m : Manager) (now : Millis) : Action → Manager → Prop where
  | renewed {id : String} {e : Entry} (h : m.Live now id e) (ht : e.session.ttlAt ≠ now + m.settings.ttl) :
    Silent m now (.renew id) { m with sessions := m.sessions.adjust id fun e => e.slide now m.settings.ttl }
  | reused {fresh id ip userAgent : String} {e : Entry} (h : m.Live now id e)
    (hi : e.session.identity = identityHash ip userAgent) :
    Silent m now (.createOrGet fresh (some id) ip userAgent)
      { m with sessions := m.sessions.adjust id Entry.countRequest }

theorem Silent.not_sameStores {act : Action} {m' : Manager} (h : m.Silent now act m') : ¬ m.SameStores m' := by
  cases h with
  | renewed h ht => exact not_sameStores_of_adjust h.1 fun hs => ht (hs ▸ rfl)
  | reused h hi => exact not_sameStores_of_adjust h.1 (Entry.countRequest_ne _)

/-! ## Operations that report what they change -/

/-- If nothing is reported, nothing changed. -/
def Reported {α : Type} (m : Manager) (a : Audited Manager α) : Prop := a.events = [] → m.SameStores a.state

namespace Reported

variable {α β : Type} {a : Audited Manager α}

theorem same (h : m.SameStores a.state) : m.Reported a := fun _ => h

theorem of_events (h : a.events ≠ []) : m.Reported a := fun hn => absurd hn h

/-- What is done first and reported stays reported. -/
theorem next (h : a.events ≠ []) (f : α → Manager → Audited Manager β) : m.Reported (a.next f) :=
  of_events (List.append_ne_nil_of_left_ne_nil h _)

/-- An operation that begins with an eviction. -/
theorem evicted (m' : Manager) (id : String) (f : Unit → α) (g : α → Manager → Audited Manager β) :
    m.Reported (((m'.evict id).map f).next g) := next (List.cons_ne_nil _ _) g

end Reported

theorem evict_events_ne_nil (m : Manager) (id : String) : (m.evict id).events ≠ [] := List.cons_ne_nil _ _

theorem view_reported {α : Type} (m : Manager) (now : Millis) (id : String) (f : Entry → α) :
    m.Reported (m.view now id f) := by
  unfold view
  rcases m.stands now id with h | ⟨e, h⟩ | ⟨e, h⟩
  · rw [withLive_of_none h]
    exact .same (.refl m)
  · rw [withLive_of_over h]
    exact .of_events (m.evict_events_ne_nil id)
  · rw [withLive_of_live h]
    exact .same ⟨Store.adjust_const h.1, rfl⟩

theorem createSnapshot_reported {fresh : String} (hf : m.snapshots.get? fresh = none) (document : Document)
    (text : Option String) : m.Reported (m.createSnapshot now fresh id document text) := by
  rcases m.stands now id with h | ⟨e, h⟩ | ⟨e, h⟩
  · rw [createSnapshot_of_none h hf]
    exact .same (.refl m)
  · -- the manager that holds the new snapshot already finds the session over, too
    let stored : Manager := { m with snapshots := m.snapshots.insert fresh (.taken now fresh id document text) }
    have hover : stored.Over now id e := h
    show m.Reported ((stored.withLive now id _).next _)
    rw [withLive_of_over hover]
    exact .evicted stored id _ _
  · refine .of_events ?_
    simp only [createSnapshot, withLive, h.1, h.2, Bool.false_eq_true, if_false, Audited.next, List.nil_append]
    exact List.cons_ne_nil _ _

theorem undo_reported (m : Manager) (now : Millis) (id : String) (steps : Nat) :
    m.Reported (m.undo now id steps) := by
  unfold undo
  rcases m.stands now id with h | ⟨e, h⟩ | ⟨e, h⟩
  · rw [takeBack_of_none h]
    exact .same (.refl m)
  · rw [takeBack_of_over h]
    exact .evicted m id _ _
  · rw [takeBack_of_live h]
    exact .of_events (List.cons_ne_nil _ _)

theorem reset_reported (m : Manager) (now : Millis) (id : String) : m.Reported (m.reset now id) := by
  rw [reset_eq]
  rcases m.stands now id with h | ⟨e, h⟩ | ⟨e, h⟩
  · rw [takeBack_of_none h]
    exact .same (.refl m)
  · rw [takeBack_of_over h]
    exact .evicted m id _ _
  · rw [takeBack_of_live h]
    exact .of_events (List.cons_ne_nil _ _)

theorem destroy_reported (m : Manager) (id : String) : m.Reported (m.destroy id) := by
  unfold destroy
  split
  · exact .same (.refl m)
  · exact .of_events (List.cons_ne_nil _ _)

theorem discardUnused_reported (m : Manager) (id : String) : m.Reported (m.discardUnused id) := by
  unfold discardUnused
  split
  · exact .of_events (List.cons_ne_nil _ _)
  · exact .same (.refl m)

theorem evictAll_reported (m : Manager) : ∀ ids : List String, m.Reported (m.evictAll ids)
  | [] => .same (.refl m)
  | id :: _ => .next (m.evict_events_ne_nil id) _

/-! ## Operations that may not -/

/-- A session is started with a report, and all that leads to it only adds to the report. -/
theorem createOrGet_events_ne_nil {fresh ip userAgent : String} {presented : Option String}
    (h : ∀ id e, presented = some id → m.Live now id e → e.session.identity ≠ identityHash ip userAgent) :
    (m.createOrGet now fresh presented ip userAgent).events ≠ [] := by
  have hstarts : ∀ m : Manager, (m.create now fresh (identityHash ip userAgent)).events ≠ [] :=
    fun _ => List.cons_ne_nil _ _
  unfold createOrGet
  dsimp only
  split
  · exact hstarts m
  · rename_i id e hfound
    obtain ⟨k, rfl, hk⟩ := Option.bind_eq_some_iff.1 hfound
    obtain ⟨e', he, hpair⟩ := Option.map_eq_some_iff.1 hk
    obtain ⟨rfl, rfl⟩ := Prod.mk.inj hpair
    split
    · exact List.append_ne_nil_of_right_ne_nil _ (hstarts _)
    · rename_i hx
      split
      · rename_i hi
        exact absurd hi (h k e' rfl ⟨he, Bool.eq_false_iff.2 hx⟩)
      · exact List.append_ne_nil_of_right_ne_nil _ (hstarts _)

theorem createOrGet_silently {fresh ip userAgent : String} {presented : Option String}
    (he : (m.createOrGet now fresh presented ip userAgent).events = []) :
    m.Silent now (.createOrGet fresh presented ip userAgent)
      (m.createOrGet now fresh presented ip userAgent).state := by
  rcases m.createOrGet_cases now fresh presented ip userAgent with ⟨id, e, rfl, hl, hi, hr⟩ | ⟨hno, -⟩
  · rw [hr]
    exact .reused hl hi
  · exact absurd he (createOrGet_events_ne_nil hno)

theorem renew_of_live (h : m.Live now id e) : m.renew now id =
    { result := .ok (e.slide now m.settings.ttl).session
      state := { m with sessions := m.sessions.adjust id fun e => e.slide now m.settings.ttl } } := by
  have hslide : (m.sessions.adjust id fun _ => e.slide now m.settings.ttl) =
      m.sessions.adjust id fun e => e.slide now m.settings.ttl := Store.adjust_congr h.1 rfl
  rw [renew, withLive_of_live h]
  dsimp only
  rw [hslide]

theorem renew_silently (he : (m.renew now id).events = []) (hs : ¬ m.SameStores (m.renew now id).state) :
    m.Silent now (.renew id) (m.renew now id).state := by
  rcases m.stands now id with h | ⟨e, h⟩ | ⟨e, h⟩
  · rw [renew, withLive_of_none h] at hs
    exact absurd (.refl m) hs
  · rw [renew, withLive_of_over h] at he
    exact absurd he (m.evict_events_ne_nil id)
  · rw [renew_of_live h] at hs ⊢
    refine .renewed h fun ht => hs ⟨?_, rfl⟩
    calc
      m.sessions.adjust id (fun e => e.slide now m.settings.ttl) = m.sessions.adjust id fun _ => e :=
        Store.adjust_congr h.1 (Entry.slide_eq_self ht)
      _ = m.sessions := Store.adjust_const h.1

/-! ## All operations -/

theorem Silent.events_eq_nil {act : Action} {m' : Manager} (h : m.Silent now act m') :
    (m.perform now act).events = [] ∧ (m.perform now act).state = m' := by
  cases h with
  | renewed h _ =>
    simp only [perform, renew_of_live h, Audited.map, and_self]
  | reused h hi =>
    simp only [perform, createOrGet, Option.bind_some, h.1, Option.map_some, h.2, Bool.false_eq_true, if_false, hi,
      if_true, Audited.map, and_self]

theorem perform_silently {act : Action} (hn : ∀ id ∈ act.snapshotId?, m.snapshots.get? id = none)
    (he : (m.perform now act).events = []) (hs : ¬ m.SameStores (m.perform now act).state) :
    m.Silent now act (m.perform now act).state := by
  have hquiet {α : Type} {a : Audited Manager α} (h : m.Reported a) (hae : a.events = [])
      (has : ¬ m.SameStores a.state) : m.Silent now act (m.perform now act).state := absurd (h hae) has
  cases act with
  | createOrGet fresh presented ip userAgent => exact createOrGet_silently he
  | renew id => exact renew_silently he hs
  | createSnapshot fresh id document text => exact hquiet (createSnapshot_reported (hn fresh rfl) document text) he hs
  | undo id steps => exact hquiet (m.undo_reported now id steps) he hs
  | reset id => exact hquiet (m.reset_reported now id) he hs
  | session id => exact hquiet (m.view_reported now id _) he hs
  | state id => exact hquiet (m.view_reported now id _) he hs
  | history id => exact hquiet (m.view_reported now id Entry.history) he hs
  | snapshot id => exact absurd (.refl m) hs
  | stats => exact absurd (.refl m) hs
  | destroy id => exact hquiet (m.destroy_reported id) he hs
  | discardUnused id => exact hquiet (m.discardUnused_reported id) he hs
  | sweep => exact hquiet (m.evictAll_reported (m.overdue now)) he hs

/-- **All changes are reported but two.**  After every run, an operation at any time leaves other sessions or snapshots
than it found and reports nothing exactly if it renews a live session whose time was to end at another moment, or finds
a live session that is presented by its own client. -/
theorem changed_silently_iff (s : Settings) (acts : Actions) (now : Millis) (act : Action)
    (hf : Actions.Fresh (acts ++ [(now, act)])) :
    let m := (empty s).run acts
    let a := m.perform now act
    (a.events = [] ∧ ¬ m.SameStores a.state) ↔ m.Silent now act a.state := by
  intro m a
  have hfree : m.Free [(now, act)] := (free_empty s hf).run
  constructor
  · rintro ⟨he, hs⟩
    exact perform_silently hfree.snapshot he hs
  · intro h
    exact ⟨h.events_eq_nil.1, h.not_sameStores⟩

/-- A session is presented by its client and renewed a second after it was started; to look at it after its time
reports that it is over. -/
theorem changed_silently_iff_returning :
    let acts : Actions := [(0, .createOrGet "a" none "192.0.2.1" "agent")]
    let m := (empty {}).run acts
    let reuse : Action := .createOrGet "b" (some "a") "192.0.2.1" "agent"
    (Actions.Fresh (acts ++ [(1000, reuse)]) ∧ (m.perform 1000 reuse).events = [] ∧
        ¬ m.SameStores (m.perform 1000 reuse).state) ∧
      (Actions.Fresh (acts ++ [(1000, .renew "a")]) ∧ (m.perform 1000 (.renew "a")).events = [] ∧
        ¬ m.SameStores (m.perform 1000 (.renew "a")).state) ∧
      (Actions.Fresh (acts ++ [(1800000, .history "a")]) ∧
        ¬ m.Silent 1800000 (.history "a") (m.perform 1800000 (.history "a")).state) := by
  intro acts m reuse
  have hreuse : Actions.Fresh (acts ++ [(1000, reuse)]) := ⟨by decide, by decide⟩
  have hrenew : Actions.Fresh (acts ++ [(1000, .renew "a")]) := ⟨by decide, by decide⟩
  have hlook : Actions.Fresh (acts ++ [(1800000, .history "a")]) := ⟨by decide, by decide⟩
  let e : Entry := .ofSession ⟨"a", identityHash "192.0.2.1" "agent", 0, 1800000, ⟨1, 0⟩⟩
  have hl : m.Live 1000 "a" e := ⟨by decide +kernel, by decide +kernel⟩
  have hreused : m.Silent 1000 reuse { m with sessions := m.sessions.adjust "a" Entry.countRequest } := .reused hl rfl
  have hrenewed := Silent.renewed hl (by decide +kernel)
  refine ⟨⟨hreuse, (changed_silently_iff {} acts 1000 reuse hreuse).2 ?_⟩,
    ⟨hrenew, (changed_silently_iff {} acts 1000 (.renew "a") hrenew).2 ?_⟩, hlook, fun h => ?_⟩
  · exact hreused.events_eq_nil.2.symm ▸ hreused
  · exact hrenewed.events_eq_nil.2.symm ▸ hrenewed
  · have hevents := ((changed_silently_iff {} acts 1800000 (.history "a") hlook).2 h).1
    exact absurd hevents (by decide +kernel)

/-- To renew a session changes it, and nothing is reported. -/
theorem renewal_unreported :
    ¬ ∀ (s : Settings) (acts : Actions) (now : Millis) (act : Action), Actions.Fresh (acts ++ [(now, act)]) →
      let m := (empty s).run acts
      ¬ m.SameStores (m.perform now act).state → (m.perform now act).events ≠ [] := by
  intro h
  let acts : Actions := [(0, .createOrGet "a" none "192.0.2.1" "agent")]
  have hf : Actions.Fresh (acts ++ [(1000, .renew "a")]) := ⟨by decide, by decide⟩
  let m := (empty {}).run acts
  have hchanged : (m.perform 1000 (.renew "a")).state.sessions ≠ m.sessions := by decide +kernel
  exact h {} acts 1000 (.renew "a") hf (fun hs => hchanged hs.1) (by decide +kernel)

end Manager

end SiteEdit.Session
