import SiteEdit.Proofs.Engine.Run
import SiteEdit.Proofs.Policy.Tables
import SiteEdit.Proofs.Session.Sound
/-!
# What the operations of the engine do

For a request `transform_cases` says what becomes of the sessions.  What a run does to them is a run of the manager that
brings no other ids (`after_sessions`), so the sessions of an engine are sound (`sound_after`).
-/
namespace SiteEdit.Engine

open Audit (Audited)

/-! ## Stages of a request -/

namespace State

variable {s : State} {screen : Policy.Screen} {now : Millis} {session text : String}

theorem record_cases (s : State) (screen : Policy.Screen) (now : Millis) (fresh session text : String) (d : Document)
    (n : Nat) :
    let c := s.sessions.createSnapshot now fresh session d (some (screen.redactor.redact text).text)
    let p := s.record screen now fresh session text d n
    p.state.sessions = c.state ∧
      ((∃ e, c.result = .error e ∧ p.result = .error (.session e)) ∨
        ∃ a, c.result = .ok a.snapshot ∧ p.result = .ok a ∧ a.sessionId = session) := by
  unfold record onSessions Audited.next
  dsimp only
  cases (s.sessions.createSnapshot now fresh session d (some (screen.redactor.redact text).text)).result with
  | error e => exact ⟨rfl, .inl ⟨e, rfl, rfl⟩⟩
  | ok snapshot => exact ⟨rfl, .inr ⟨_, rfl, rfl, rfl⟩⟩

/-- A request that has a session is refused without a change of the sessions, or its document is recorded. -/
theorem proceed_cases (s : State) (screen : Policy.Screen) (now : Millis) (fresh session text : String) (n : Nat) :
    let p := s.proceed screen now fresh session text n
    (∃ refusal, p.result = .error refusal ∧ p.state.sessions = s.sessions) ∨
      ∃ d note, let c := s.sessions.createSnapshot now fresh session d note
        p.state.sessions = c.state ∧
          ((∃ e, c.result = .error e ∧ p.result = .error (.session e)) ∨
            ∃ a, c.result = .ok a.snapshot ∧ p.result = .ok a ∧ a.sessionId = session) := by
  unfold proceed Audited.next
  dsimp only
  split
  · exact .inl ⟨_, rfl, rfl⟩
  · split
    · exact .inl ⟨_, rfl, rfl⟩
    · exact .inr ⟨_, _, record_cases _ screen now fresh session text _ _⟩

/-- The sessions when a request is refused that has the session `id`, which goes again unless it was presented. -/
def withoutIssued (presented : Option String) (id : String) (m : Session.Manager) : Session.Manager :=
  if presented = some id then m else (m.discardUnused id).state

/-- A request is refused for its address, or it gets a session and goes on. -/
theorem transform_proceed (s : State) (screen : Policy.Screen) (now : Millis) (fresh : FreshIds) (r : Request) :
    let c := s.sessions.createOrGet now fresh.session r.session r.ip r.userAgent
    let t := s.transform screen now fresh r
    (∃ refusal, t.result = .error refusal ∧ t.state.sessions = s.sessions) ∨
      ∃ (s' : State) (n : Nat), let p := s'.proceed screen now fresh.snapshot c.result.id r.text n
        s'.sessions = c.state ∧
          ((∃ a, p.result = .ok a ∧ t.result = .ok a ∧ t.state.sessions = p.state.sessions) ∨
            ∃ refusal, p.result = .error refusal ∧ t.result = .error refusal ∧
              t.state.sessions = withoutIssued r.session c.result.id p.state.sessions) := by
  unfold transform Audited.next
  dsimp only
  split
  · exact .inl ⟨_, rfl, rfl⟩
  · rename_i n _
    let s' : State :=
      { limiter := (s.limiter.check now (.ip r.ip)).state
        sessions := (s.sessions.createOrGet now fresh.session r.session r.ip r.userAgent).state }
    refine .inr ⟨s', n, rfl, ?_⟩
    dsimp only
    split
    · rename_i a hp
      exact .inl ⟨a, hp, rfl, rfl⟩
    · rename_i refusal hp
      refine .inr ⟨refusal, hp, ?_⟩
      split
      · rename_i hid
        exact ⟨rfl, (if_pos hid).symm⟩
      · rename_i hid
        exact ⟨rfl, (if_neg hid).symm⟩

/-- What a request does to the sessions.  It is refused for its address, or with the session that it gets, before its
document is recorded or when it is; or its document is recorded. -/
theorem transform_cases (s : State) (screen : Policy.Screen) (now : Millis) (fresh : FreshIds) (r : Request) :
    let c := s.sessions.createOrGet now fresh.session r.session r.ip r.userAgent
    let t := s.transform screen now fresh r
    (∃ refusal, t.result = .error refusal ∧
      (t.state.sessions = s.sessions ∨ t.state.sessions = withoutIssued r.session c.result.id c.state)) ∨
      ∃ d note, let p := c.state.createSnapshot now fresh.snapshot c.result.id d note
        (∃ e, p.result = .error e ∧ t.result = .error (.session e) ∧
          t.state.sessions = withoutIssued r.session c.result.id p.state) ∨
          ∃ a, p.result = .ok a.snapshot ∧ t.result = .ok a ∧ a.sessionId = c.result.id ∧
            t.state.sessions = p.state := by
  intro c t
  rcases s.transform_proceed screen now fresh r with ⟨refusal, ht, hm⟩ | ⟨s', n, hs', h⟩
  · exact .inl ⟨refusal, ht, .inl hm⟩
  · rcases s'.proceed_cases screen now fresh.snapshot c.result.id r.text n with ⟨refusal, hp, hm⟩ | ⟨d, note, hm, hp⟩
    · rcases h with ⟨a, hp', -⟩ | ⟨refusal', -, ht, ht'⟩
      · rw [hp] at hp'
        cases hp'
      · rw [hm, hs'] at ht'
        exact .inl ⟨refusal', ht, .inr ht'⟩
    · rw [hs'] at hm hp
      refine .inr ⟨d, note, ?_⟩
      rcases hp with ⟨e, hc, hp⟩ | ⟨a, hc, hp, ha⟩
      · rcases h with ⟨a, hp', -⟩ | ⟨refusal', hp', ht, ht'⟩
        · rw [hp] at hp'
          cases hp'
        · rw [hp, Except.error.injEq] at hp'
          subst hp'
          rw [hm] at ht'
          exact .inl ⟨e, hc, ht, ht'⟩
      · rcases h with ⟨a', hp', ht, ht'⟩ | ⟨refusal', hp', -⟩
        · rw [hp, Except.ok.injEq] at hp'
          subst hp'
          exact .inr ⟨a, hc, ht, ha, ht'.trans hm⟩
        · rw [hp] at hp'
          cases hp'

end State

/-! ## Sessions -/

/-- The sessions change by a run of the manager that brings no other ids. -/
def ChangesBy (m m' : Session.Manager) (sessionIds snapshotIds : List String) : Prop :=
  ∃ acts : Session.Actions, m' = m.run acts ∧ acts.sessionIds.Sublist sessionIds ∧
    acts.snapshotIds.Sublist snapshotIds

namespace ChangesBy

variable {m m' m'' : Session.Manager} {a b a' b' : List String} {now : Millis}

theorem refl (m : Session.Manager) : ChangesBy m m [] [] := ⟨[], rfl, List.Sublist.refl _, List.Sublist.refl _⟩

theorem trans (h : ChangesBy m m' a b) (h' : ChangesBy m' m'' a' b') : ChangesBy m m'' (a ++ a') (b ++ b') := by
  obtain ⟨acts, rfl, hs, hn⟩ := h
  obtain ⟨acts', rfl, hs', hn'⟩ := h'
  refine ⟨acts ++ acts', (m.run_append acts acts').symm, ?_, ?_⟩
  · unfold Session.Actions.sessionIds at *
    rw [List.filterMap_append]
    exact hs.append hs'
  · unfold Session.Actions.snapshotIds at *
    rw [List.filterMap_append]
    exact hn.append hn'

theorem mono (h : ChangesBy m m' a b) (ha : a.Sublist a') (hb : b.Sublist b') : ChangesBy m m' a' b' := by
  obtain ⟨acts, hr, hs, hn⟩ := h
  exact ⟨acts, hr, hs.trans ha, hn.trans hb⟩

theorem perform (m : Session.Manager) (now : Millis) (act : Session.Action) :
    ChangesBy m (m.perform now act).state act.sessionId?.toList act.snapshotId?.toList := by
  refine ⟨[(now, act)], rfl, ?_, ?_⟩
  · rw [Session.Actions.sessionIds_cons, show Session.Actions.sessionIds [] = [] from rfl, List.append_nil]
  · rw [Session.Actions.snapshotIds_cons, show Session.Actions.snapshotIds [] = [] from rfl, List.append_nil]

theorem createOrGet (m : Session.Manager) (now : Millis) (fresh : String) (presented : Option String)
    (ip userAgent : String) :
    ChangesBy m (m.createOrGet now fresh presented ip userAgent).state [fresh] [] :=
  perform m now (.createOrGet fresh presented ip userAgent)

theorem createSnapshot (m : Session.Manager) (now : Millis) (fresh id : String) (d : Document) (note : Option String) :
    ChangesBy m (m.createSnapshot now fresh id d note).state [] [fresh] :=
  perform m now (.createSnapshot fresh id d note)

theorem withoutIssued (presented : Option String) (id : String) (m : Session.Manager) :
    ChangesBy m (State.withoutIssued presented id m) [] [] := by
  unfold State.withoutIssued
  split
  · exact refl m
  · exact perform m 0 (.discardUnused id)

theorem transform (s : State) (screen : Policy.Screen) (now : Millis) (fresh : FreshIds) (r : Request) :
    ChangesBy s.sessions (s.transform screen now fresh r).state.sessions [fresh.session] [fresh.snapshot] := by
  have hstart := createOrGet s.sessions now fresh.session r.session r.ip r.userAgent
  rcases s.transform_cases screen now fresh r with ⟨-, -, h | h⟩ | ⟨d, note, ⟨-, -, -, h⟩ | ⟨-, -, -, -, h⟩⟩
  · rw [h]
    exact (refl _).mono (List.nil_sublist _) (List.nil_sublist _)
  · rw [h]
    exact (hstart.trans (withoutIssued _ _ _)).mono (List.Sublist.refl _) (List.nil_sublist _)
  · rw [h]
    exact (hstart.trans (createSnapshot _ now fresh.snapshot _ d note)).trans (withoutIssued _ _ _)
  · rw [h]
    exact hstart.trans (createSnapshot _ now fresh.snapshot _ d note)

end ChangesBy

theorem perform_sessions (e : Engine) (now : Millis) (act : Action) :
    ChangesBy e.state.sessions (e.perform now act).1.state.sessions act.sessionId?.toList act.snapshotId?.toList := by
  cases act with
  | transform fresh r => exact .transform e.state e.screen now fresh r
  | undo id steps => exact .perform e.state.sessions now (.undo id steps)
  | reset id => exact .perform e.state.sessions now (.reset id)
  | state id => exact .perform e.state.sessions now (.state id)
  | history id => exact .perform e.state.sessions now (.history id)
  | ban key reason secs => exact .refl _
  | unban key => exact .refl _
  | sweep => exact .perform e.state.sessions now .sweep
  | sessions act => exact .perform e.state.sessions now act
  | limits act => exact .refl _

/-- What a run does to the sessions is a run of the manager that brings no other ids. -/
theorem after_sessions : ∀ (acts : Actions) (e : Engine),
    ChangesBy e.state.sessions (e.after acts).state.sessions acts.sessionIds acts.snapshotIds
  | [], _ => .refl _
  | (now, act) :: acts, e => by
    rw [Actions.sessionIds_cons, Actions.snapshotIds_cons]
    exact (e.perform_sessions now act).trans (after_sessions acts (e.perform now act).1)

/-! ## Starting -/

theorem toNat_pos {n : UInt64} (h : n ≠ 0) : 0 < n.toNat :=
  Nat.pos_of_ne_zero fun hz => h (UInt64.toNat_inj.1 hz)

theorem seconds_pos {n : UInt64} (h : n ≠ 0) : 0 < seconds n := by
  have := toNat_pos h
  exact Int.lt_min.2 ⟨by omega, by unfold longestDuration; omega⟩

/-- Settings without a first fault have none. -/
theorem has_eq_false {s : Settings} (h : s.fault? = none) (f : Settings.Fault) : s.has f = false := by
  have hall : f ∈ Settings.allFaults := by
    cases f with
    | ceiling d => cases d <;> decide
    | _ => decide
  simpa using List.find?_eq_none.1 h f hall

/-- An engine can be started with settings that have no fault. -/
theorem exists_start {s : Settings} (h : s.fault? = none) : ∃ e, start s = .ok e := by
  have hz : (s.policy.maxInputLength == 0) = false := has_eq_false h .inputLength
  obtain ⟨screen, hscreen⟩ := s.policy.exists_screen (ne_of_beq_false hz)
  unfold start
  rw [h, hscreen]
  exact ⟨_, rfl⟩

/-- An engine that was just started has its settings, a screen of their tables, and nothing else yet. -/
theorem start_eq_ok {s : Settings} {e : Engine} (h : start s = .ok e) :
    s.fault? = none ∧ Policy.Screen.ofTables s.policy.tables = .ok e.screen ∧
      e = { settings := s, screen := e.screen, state := .empty s, log := .empty s.audit } := by
  unfold start at h
  split at h
  · cases h
  · rename_i hfault
    split at h
    · cases h
    · rename_i hscreen
      cases h
      exact ⟨hfault, hscreen, rfl⟩

theorem exists_screen_of_start {s : Settings} (h : s.fault? = none) : ∃ screen,
    start s = .ok { settings := s, screen := screen, state := .empty s, log := .empty s.audit } := by
  obtain ⟨e, he⟩ := exists_start h
  exact ⟨e.screen, he.trans (congrArg Except.ok (start_eq_ok he).2.2)⟩

/-- The engine that starts with settings that have no fault. -/
noncomputable def started (s : Settings) (h : s.fault? = none) : Engine :=
  { settings := s, screen := (exists_screen_of_start h).choose, state := .empty s, log := .empty s.audit }

theorem start_eq_started {s : Settings} (h : s.fault? = none) : start s = .ok (started s h) :=
  (exists_screen_of_start h).choose_spec

theorem state_of_start {s : Settings} {e : Engine} (h : start s = .ok e) : e.state = .empty s :=
  congrArg Engine.state (start_eq_ok h).2.2

/-- Settings with which an engine can be started have no fault, and it starts without sessions. -/
theorem of_start {s : Settings} {e : Engine} (h : start s = .ok e) :
    s.fault? = none ∧ e.state.sessions = .empty s.sessions :=
  ⟨(start_eq_ok h).1, congrArg State.sessions (state_of_start h)⟩

/-- The sessions of an engine before actions that bring new ids. -/
theorem sound_after {s : Settings} {e : Engine} (h : start s = .ok e) {acts acts' : Actions}
    (hf : Actions.Fresh (acts ++ acts')) :
    let m := (e.after acts).state.sessions
    m.Sound ∧ m.settings = s.sessions ∧ (∀ id ∈ acts'.sessionIds, m.sessions.get? id = none) ∧
      ∀ id ∈ acts'.snapshotIds, m.snapshots.get? id = none := by
  intro m
  obtain ⟨run, hr, hs, hn⟩ := e.after_sessions acts
  have hsessions := hf.sessions
  have hsnapshots := hf.snapshots
  unfold Actions.sessionIds at hsessions
  unfold Actions.snapshotIds at hsnapshots
  rw [List.filterMap_append, List.nodup_append] at hsessions hsnapshots
  have hfree : (Session.Manager.empty s.sessions).Free run :=
    Session.Manager.free_empty _ ⟨hsessions.1.sublist hs, hsnapshots.1.sublist hn⟩
  have hm : m = (Session.Manager.empty s.sessions).run run := by
    show (e.after acts).state.sessions = _
    rw [hr, (of_start h).2]
  rw [hm]
  refine ⟨.run run (Session.Manager.sound_empty _) hfree, Session.Manager.run_settings run _, fun id hid => ?_,
    fun id hid => ?_⟩
  · exact hfree.session_none run rfl fun hi => hsessions.2.2 id (hs.subset hi) id hid rfl
  · exact hfree.snapshot_none run rfl fun hi => hsnapshots.2.2 id (hn.subset hi) id hid rfl

end SiteEdit.Engine
