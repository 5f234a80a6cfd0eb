import SiteEdit.Proofs.Session.Errors
/-!
# The times at which sessions end

Every action starts the time of a session anew or leaves it.  So a stored session ends its full time after one of the
times of the run (`EndsAfter.run`), whatever ids the actions bring, and no sum overflows if the times and the full time
are small enough (`staysInRange_of_isNear`).
-/
namespace SiteEdit.Session.Manager

variable {m m' : Manager} {now : Millis} {id k : String} {e : Entry}

/-- Each session ends its full time from now, or when it was to end before. -/
def Ends (m : Manager) (now : Millis) (sessions : Store Entry) : Prop :=
  ∀ k e', sessions.get? k = some e' →
    e'.session.ttlAt = now + m.settings.ttl ∨ ∃ e, m.sessions.get? k = some e ∧ e'.session.ttlAt = e.session.ttlAt

namespace Ends

theorem of_within {sessions : Store Entry} (h : sessions.Within m.sessions) : m.Ends now sessions :=
  fun k e' he' => .inr ⟨e', h k e' he', rfl⟩

theorem adjust {f : Entry → Entry}
    (hf : ∀ e, m.sessions.get? id = some e →
      (f e).session.ttlAt = now + m.settings.ttl ∨ (f e).session.ttlAt = e.session.ttlAt) :
    m.Ends now (m.sessions.adjust id f) := by
  intro k e' he'
  rw [Store.get?_adjust] at he'
  split at he'
  · next hk =>
    obtain ⟨e, he, rfl⟩ := Option.map_eq_some_iff.1 he'
    exact (hf e (hk ▸ he)).imp_right fun h => ⟨e, he, h⟩
  · exact .inr ⟨e', he', rfl⟩

theorem withLive {α : Type} {f : Entry → Entry × α}
    (hf : ∀ e, (f e).1.session.ttlAt = now + m.settings.ttl ∨ (f e).1.session.ttlAt = e.session.ttlAt) :
    m.Ends now (m.withLive now id f).state.sessions := by
  rcases m.stands now id with h | ⟨e, h⟩ | ⟨e, h⟩
  · rw [withLive_of_none h]
    exact .of_within (.refl _)
  · rw [withLive_of_over h]
    exact .of_within (.filter _ _)
  · rw [withLive_of_live h]
    refine .adjust fun d hd => ?_
    obtain rfl := Option.some.inj (h.1.symm.trans hd)
    exact hf e

theorem createSnapshot (m : Manager) (now : Millis) (fresh id : String) (d : Document) (text : Option String) :
    m.Ends now (m.createSnapshot now fresh id d text).state.sessions := by
  -- Only the snapshots differ from what the change of the entry leaves.
  have hstored : ∀ (f : Entry → Entry × List String) (t : Snapshot),
      (∀ e, (f e).1.session.ttlAt = now + m.settings.ttl ∨ (f e).1.session.ttlAt = e.session.ttlAt) →
        m.Ends now (({ m with snapshots := m.snapshots.insert fresh t } : Manager).withLive now id f).state.sessions :=
    fun f t hf => withLive (m := { m with snapshots := m.snapshots.insert fresh t }) hf
  simp only [Manager.createSnapshot, Audit.Audited.next]
  split
  · exact hstored _ _ fun _ => .inl rfl
  · exact hstored _ _ fun _ => .inl rfl

theorem takeBack (m : Manager) (now : Millis) (id : String) (steps : Nat) :
    m.Ends now (m.takeBack now id steps).state.sessions := by
  simp only [Manager.takeBack, Audit.Audited.next]
  split
  · exact withLive fun _ => .inl rfl
  · exact withLive fun _ => .inl rfl

theorem createOrGet (m : Manager) (now : Millis) (fresh : String) (presented : Option String) (ip userAgent : String) :
    m.Ends now (m.createOrGet now fresh presented ip userAgent).state.sessions := by
  rcases m.createOrGet_cases now fresh presented ip userAgent with ⟨id, e, -, -, -, hr⟩ | ⟨-, -, hr⟩
  · rw [hr]
    exact .adjust fun _ _ => .inr rfl
  · rw [hr]
    intro k e' he'
    have he' : ((m.lapsed now presented).sessions.insert fresh _).get? k = some e' := he'
    rw [Store.get?_insert] at he'
    split at he'
    · rw [← Option.some.inj he', ← m.lapsed_settings now presented]
      exact .inl rfl
    · rw [lapsed_sessions] at he'
      exact .inr ⟨e', Store.Within.filter _ _ k e' he', rfl⟩

end Ends

theorem ends_perform (m : Manager) (now : Millis) (act : Action) : m.Ends now (m.perform now act).state.sessions := by
  cases act with
  | createOrGet fresh presented ip userAgent => exact .createOrGet m now fresh presented ip userAgent
  | renew id => exact .withLive fun _ => .inl rfl
  | createSnapshot fresh id document text => exact .createSnapshot m now fresh id document text
  | undo id steps =>
    show m.Ends now (m.undo now id steps).state.sessions
    rw [undo_state]
    exact .takeBack m now id steps
  | reset id =>
    show m.Ends now (m.reset now id).state.sessions
    rw [reset_state]
    exact .takeBack m now id _
  | session id => exact .withLive fun _ => .inr rfl
  | state id => exact .withLive fun _ => .inr rfl
  | history id =>
    show m.Ends now (m.view now id Entry.history).state.sessions
    exact .withLive fun _ => .inr rfl
  | destroy id =>
    show m.Ends now (m.destroy id).state.sessions
    unfold destroy
    split
    · exact .of_within (.refl _)
    · exact .of_within (.filter _ _)
  | discardUnused id =>
    show m.Ends now (m.discardUnused id).state.sessions
    unfold discardUnused
    split
    · exact .of_within (.filter _ _)
    · exact .of_within (.refl _)
  | sweep => exact .of_within (evictAll_sessions_within _ m)
  | snapshot id => exact .of_within (.refl _)
  | stats => exact .of_within (.refl _)

/-- Every stored session ends its full time after one of certain times. -/
def EndsAfter (m : Manager) (times : Millis → Prop) : Prop :=
  ∀ k e, m.sessions.get? k = some e → ∃ t, times t ∧ e.session.ttlAt = t + m.settings.ttl

variable {times : Millis → Prop}

theorem EndsAfter.perform (h : m.EndsAfter times) (hnow : times now) (act : Action) :
    (m.perform now act).state.EndsAfter times := by
  intro k e' he'
  rw [m.perform_settings now act]
  rcases m.ends_perform now act k e' he' with he | ⟨e, he, heq⟩
  · exact ⟨now, hnow, he⟩
  · obtain ⟨t, htime, hte⟩ := h k e he
    exact ⟨t, htime, heq.trans hte⟩

theorem EndsAfter.run : ∀ (acts : Actions) {m : Manager}, m.EndsAfter times → (∀ a ∈ acts, times a.1) →
    (m.run acts).EndsAfter times
  | [], _, h, _ => h
  | (now, act) :: acts, m, h, ht => by
    rw [List.forall_mem_cons] at ht
    exact EndsAfter.run acts (h.perform ht.1 act) ht.2

/-! ## Sums of small times -/

theorem inRange_sums (h : m.EndsAfter IsNear) (httl : IsNear m.settings.ttl) (hnow : IsNear now) (act : Action) :
    ∀ t ∈ m.sums now act, InRange t := by
  refine List.forall_mem_append.2 ⟨fun t ht => ?_, ?_⟩
  · obtain ⟨-, -, rfl⟩ := List.mem_map.1 ht
    exact hnow.inRange_add httl
  · cases act with
    | state id =>
      intro t ht
      obtain ⟨s, hs, rfl⟩ := List.mem_map.1 ht
      rcases m.stands now id with hm | ⟨e, ho⟩ | ⟨e, hl⟩
      · rw [session, view, withLive_of_none hm] at hs
        cases hs
      · rw [session, view, withLive_of_over ho] at hs
        cases hs
      · rw [session, view, withLive_of_live hl] at hs
        obtain rfl : e.session = s := Option.some.inj (Option.mem_toList.1 hs)
        obtain ⟨u, hu, hend⟩ := h id e hl.1
        rw [hend]
        rw [← IsNear.iff] at hu httl hnow
        unfold InRange
        omega
    | _ => nofun

/-- No sum overflows if the times of a run are small and sessions short. -/
theorem staysInRange_of_isNear (acts : Actions) (h : m.EndsAfter IsNear) (httl : IsNear m.settings.ttl)
    (ha : ∀ a ∈ acts, IsNear a.1) : m.StaysInRange acts := by
  induction acts generalizing m with
  | nil => simp [StaysInRange, runSums]
  | cons a acts ih =>
    obtain ⟨now, act⟩ := a
    rw [List.forall_mem_cons] at ha
    have hrest := ih (h.perform ha.1 act) (by rwa [m.perform_settings now act]) ha.2
    exact List.forall_mem_append.2 ⟨inRange_sums h httl ha.1 act, hrest⟩

end SiteEdit.Session.Manager
