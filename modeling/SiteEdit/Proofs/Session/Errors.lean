import SiteEdit.Proofs.Range
import SiteEdit.Proofs.Session.Sound
/-!
# When an operation is refused

Seven operations need a live session.  Each of them is refused for one of two reasons, and a refusal leaves what is
stored as it is, without the session if its time is over.  When the time of a session is over is told by the last
operation that started it anew.
-/
namespace SiteEdit.Session

open Audit (Audited)

/-! ## Refusals -/

namespace Action

/-- The session that must be live for an operation. -/
def needs? : Action → Option String
  | renew id => some id
  | createSnapshot _ id _ _ => some id
  | undo id _ => some id
  | reset id => some id
  | session id => some id
  | state id => some id
  | history id => some id
  | _ => none

/-- Whether an operation on a live session starts its time anew. -/
def prolongs : Action → Bool
  | renew _ | createSnapshot .. | undo .. | reset _ => true
  | _ => false

theorem sessionId?_of_needs (act : Action) {id : String} (h : act.needs? = some id) : act.sessionId? = none := by
  cases act <;> first | rfl | cases h

end Action

/-- Why there is no result. -/
def errorOf {α : Type} : Except Error α → Option Error
  | .error e => some e
  | .ok _ => none

/-- Why an operation was refused, if it was. -/
def Answer.error? : Answer → Option Error
  | session r => errorOf r
  | snapshot r => errorOf r
  | undone r => errorOf r
  | state r => errorOf r
  | history r => errorOf r
  | _ => none

namespace Manager

variable {m : Manager} {now : Millis} {id fresh : String} {act : Action} {prolongs : Bool}

/-- What an operation that needs a live session does, by how the session stands: the error that it returns, and the
manager that it leaves. -/
structure Handled (m : Manager) (now : Millis) (id : String) (prolongs : Bool) (error : Option Error)
    (m' : Manager) : Prop where
  missing : m.sessions.get? id = none → error = some (.notFound id) ∧ m' = m
  lapsed : ∀ e, m.Over now id e → error = some (.expired id) ∧ m' = (m.evict id).state
  live : ∀ e, m.Live now id e → error = none ∧ ∃ e' : Entry,
    m'.sessions = (m.sessions.adjust id fun _ => e') ∧
      e'.session.ttlAt = if prolongs then now + m.settings.ttl else e.session.ttlAt

namespace Handled

theorem withLive {α : Type} {f : Entry → Entry × α}
    (hf : ∀ e, (f e).1.session.ttlAt = if prolongs then now + m.settings.ttl else e.session.ttlAt) :
    m.Handled now id prolongs (errorOf (m.withLive now id f).result) (m.withLive now id f).state where
  missing h := by
    rw [withLive_of_none h]
    exact ⟨rfl, rfl⟩
  lapsed e h := by
    rw [withLive_of_over h]
    exact ⟨rfl, rfl⟩
  live e h := by
    rw [withLive_of_live h]
    exact ⟨rfl, (f e).1, rfl, hf e⟩

theorem view {α : Type} (f : Entry → α) :
    m.Handled now id false (errorOf (m.view now id f).result) (m.view now id f).state := withLive fun _ => rfl

theorem takeBack (steps : Nat) :
    m.Handled now id true (errorOf (m.takeBack now id steps).result) (m.takeBack now id steps).state where
  missing h := by
    rw [takeBack_of_none h]
    exact ⟨rfl, rfl⟩
  lapsed e h := by
    rw [takeBack_of_over h]
    exact ⟨rfl, rfl⟩
  live e h := by
    rw [takeBack_of_live h]
    exact ⟨rfl, _, rfl, rfl⟩

theorem createSnapshot (hf : m.snapshots.get? fresh = none) (document : Document) (text : Option String) :
    m.Handled now id true (errorOf (m.createSnapshot now fresh id document text).result)
      (m.createSnapshot now fresh id document text).state where
  missing h := by
    rw [createSnapshot_of_none h hf]
    exact ⟨rfl, rfl⟩
  lapsed e h := by
    obtain ⟨hr, hs⟩ := createSnapshot_of_over h hf document text
    rw [hr, hs]
    exact ⟨rfl, rfl⟩
  live e h := by
    obtain ⟨hr, hs⟩ := @createSnapshot_of_live m now id fresh e h document text
    rw [hr, hs]
    exact ⟨rfl, _, rfl, rfl⟩

end Handled

theorem undo_error (m : Manager) (now : Millis) (id : String) (steps : Nat) :
    errorOf (m.undo now id steps).result = errorOf (m.takeBack now id steps).result := by
  simp only [undo, Audited.next]
  cases (m.takeBack now id steps).result <;> rfl

theorem reset_error (m : Manager) (now : Millis) (id : String) :
    errorOf (m.reset now id).result = errorOf (m.takeBack now id (m.historyLength id)).result := by
  simp only [reset_eq, Audited.next]
  cases (m.takeBack now id (m.historyLength id)).result <;> rfl

theorem history_error (m : Manager) (now : Millis) (id : String) :
    errorOf (m.history now id).result = errorOf (m.view now id Entry.history).result := by
  simp only [history, Audited.map]
  cases (m.view now id Entry.history).result <;> rfl

theorem perform_handled (now : Millis) (hn : ∀ x ∈ act.snapshotId?, m.snapshots.get? x = none)
    (h : act.needs? = some id) :
    m.Handled now id act.prolongs (m.perform now act).result.error? (m.perform now act).state := by
  cases act with
  | renew k =>
    cases h
    exact .withLive fun _ => rfl
  | createSnapshot fresh k document text =>
    cases h
    exact .createSnapshot (hn fresh rfl) document text
  | undo k steps =>
    cases h
    show m.Handled now id true (errorOf (m.undo now id steps).result) (m.undo now id steps).state
    rw [undo_error, undo_state]
    exact .takeBack steps
  | reset k =>
    cases h
    show m.Handled now id true (errorOf (m.reset now id).result) (m.reset now id).state
    rw [reset_error, reset_state]
    exact .takeBack _
  | session k =>
    cases h
    exact .view _
  | state k =>
    cases h
    exact .view _
  | history k =>
    cases h
    show m.Handled now id false (errorOf (m.history now id).result) (m.view now id Entry.history).state
    rw [history_error]
    exact .view _
  | _ => cases h

/-- What an operation on a session returns and leaves.  It is refused for what holds of the session and for nothing
else, and it never touches another session or a snapshot of another session. -/
structure Exact (m : Manager) (now : Millis) (id : String) (error : Option Error) (m' : Manager) : Prop where
  notFound : error = some (.notFound id) ↔ m.sessions.get? id = none
  expired : error = some (.expired id) ↔ ∃ e, m.sessions.get? id = some e ∧ e.session.ttlAt ≤ now
  accepted : error = none ↔ ∃ e, m.sessions.get? id = some e ∧ now < e.session.ttlAt
  untouched : error = some (.notFound id) → m' = m
  /-- The session is gone with all its snapshots, and one more is counted as expired. -/
  evicted : error = some (.expired id) →
    m' = { m with
      sessions := m.sessions.erase id
      snapshots := m.snapshots.filter fun _ t => t.sessionId != id
      expired := m.expired + 1 }
  /-- The other sessions stay as they are. -/
  sessions : error = none → ∀ k, k ≠ id → m'.sessions.get? k = m.sessions.get? k
  /-- So do their snapshots. -/
  snapshots : error = none → ∀ x t, t.sessionId ≠ id → (m'.snapshots.get? x = some t ↔ m.snapshots.get? x = some t)

/-! ## The snapshots of other sessions -/

/-- Where the other sessions keep their entries, they keep their snapshots. -/
theorem Sound.snapshots_kept (h : m.Sound) (h' : (m.perform now act).state.Sound) (ha : act.needs? = some id)
    (hk : ∀ k, k ≠ id → (m.perform now act).state.sessions.get? k = m.sessions.get? k) (x : String) (t : Snapshot)
    (ht : t.sessionId ≠ id) :
    (m.perform now act).state.snapshots.get? x = some t ↔ m.snapshots.get? x = some t := by
  have hback : ∀ u : Snapshot, u.sessionId = t.sessionId →
      (m.perform now act).state.snapshots.get? x = some u → m.snapshots.get? x = some u := fun u hu hx => by
    rcases snapshot_of_perform hx with hb | ⟨k, document, text, rfl, rfl⟩
    · exact hb
    · exact absurd (hu.symm.trans (Option.some.inj ha)) ht
  refine ⟨hback t rfl, fun hx => ?_⟩
  have hl : x ∈ listed (m.perform now act).state.sessions t.sessionId := by
    unfold listed
    rw [hk t.sessionId ht]
    exact (h.owned.mem_iff t.sessionId x).2 ⟨t, hx, rfl⟩
  obtain ⟨u, hu, hut⟩ := (h'.owned.mem_iff t.sessionId x).1 hl
  rwa [Option.some.inj ((hback u hut hu).symm.trans hx)] at hu

theorem live_iff {e : Entry} : m.Live now id e ↔ m.sessions.get? id = some e ∧ now < e.session.ttlAt := by
  simp only [Live, isExpired, decide_eq_false_iff_not, Int.not_le]

theorem over_iff {e : Entry} : m.Over now id e ↔ m.sessions.get? id = some e ∧ e.session.ttlAt ≤ now := by
  simp only [Over, isExpired, decide_eq_true_eq]

theorem Sound.perform_exact (h : m.Sound) (hn : ∀ x ∈ act.snapshotId?, m.snapshots.get? x = none)
    (ha : act.needs? = some id) : m.Exact now id (m.perform now act).result.error? (m.perform now act).state := by
  have hh := perform_handled now hn ha
  have h' : (m.perform now act).state.Sound := h.perform now act (by simp [act.sessionId?_of_needs ha]) hn
  have hkept := h.snapshots_kept h' ha
  revert hh hkept
  generalize (m.perform now act).result.error? = error
  generalize (m.perform now act).state = m'
  intro hh hkept
  rcases m.stands now id with hm | ⟨e, ho⟩ | ⟨e, hl⟩
  · obtain ⟨rfl, rfl⟩ := hh.missing hm
    exact
      { notFound := iff_of_true rfl hm
        expired := iff_of_false nofun fun ⟨e, he, _⟩ => by rw [hm] at he; cases he
        accepted := iff_of_false nofun fun ⟨e, he, _⟩ => by rw [hm] at he; cases he
        untouched := fun _ => rfl
        evicted := nofun
        sessions := nofun
        snapshots := nofun }
  · obtain ⟨rfl, rfl⟩ := hh.lapsed e ho
    have hx := over_iff.1 ho
    exact
      { notFound := iff_of_false nofun fun hm => by rw [hm] at hx; cases hx.1
        expired := iff_of_true rfl ⟨e, hx⟩
        accepted := iff_of_false nofun fun ⟨d, hd, ht⟩ => by
          rw [hx.1] at hd
          obtain rfl := Option.some.inj hd
          exact Int.not_le.2 ht hx.2
        untouched := nofun
        evicted := fun _ => rfl
        sessions := nofun
        snapshots := nofun }
  · obtain ⟨rfl, e', hs, -⟩ := hh.live e hl
    have hx := live_iff.1 hl
    have hsessions : ∀ k, k ≠ id → m'.sessions.get? k = m.sessions.get? k := fun k hk => by
      rw [hs, Store.get?_adjust, if_neg hk]
    exact
      { notFound := iff_of_false nofun fun hm => by rw [hm] at hx; cases hx.1
        expired := iff_of_false nofun fun ⟨d, hd, ht⟩ => by
          rw [hx.1] at hd
          obtain rfl := Option.some.inj hd
          exact Int.not_le.2 hx.2 ht
        accepted := iff_of_true rfl ⟨e, hx⟩
        untouched := nofun
        evicted := nofun
        sessions := fun _ => hsessions
        snapshots := fun _ => hkept hsessions }

/-! ## When the time of a session was started -/

end Manager

/-- The session whose time an operation started anew, if it did: the one that it created, or the one that it was done
on. -/
def Action.restarted? : Action → Answer → Option String
  | .createOrGet fresh _ _ _, .started s => if s.id = fresh then some fresh else none
  | act, r => if act.prolongs && r.error?.isNone then act.needs? else none

theorem Action.restarted?_of_needs {act : Action} {id : String} (h : act.needs? = some id) (r : Answer) :
    act.restarted? r = if act.prolongs && r.error?.isNone then some id else none := by
  cases act with
  | createOrGet => cases h
  | _ => rw [← h]; rfl

namespace Manager

variable {m : Manager} {now : Millis} {id fresh k : String} {act : Action} {acts : Actions} {start? : Option Millis}

/-- When the time of a session was last started anew, in a run of actions. -/
def lastStart (m : Manager) (id : String) : Actions → Option Millis
  | [] => none
  | (now, act) :: acts =>
    let p := m.perform now act
    (p.state.lastStart id acts).or (if act.restarted? p.result = some id then some now else none)

/-- A session has its full time from when it was last started anew. -/
def Dated (m : Manager) (id : String) (start? : Option Millis) : Prop :=
  ∀ e, m.sessions.get? id = some e → ∃ t, start? = some t ∧ e.session.ttlAt = t + m.settings.ttl

/-- The time of every session that is stored after an operation is the one that the operation started, or it is as it
was before. -/
def Keeps (m : Manager) (now : Millis) (restarted : Option String) (sessions : Store Entry) : Prop :=
  ∀ k e', sessions.get? k = some e' →
    if restarted = some k then e'.session.ttlAt = now + m.settings.ttl
    else ∃ e, m.sessions.get? k = some e ∧ e'.session.ttlAt = e.session.ttlAt

theorem Keeps.of_within {sessions : Store Entry} (h : sessions.Within m.sessions) : m.Keeps now none sessions :=
  fun k e' he' => ⟨e', h k e' he', rfl⟩

theorem evictAll_sessions_within : ∀ (ids : List String) (m : Manager),
    (m.evictAll ids).state.sessions.Within m.sessions
  | [], _ => .refl _
  | id :: ids, m => (evictAll_sessions_within ids (m.evict id).state).trans (.filter _ _)

theorem Handled.keeps {prolongs : Bool} {error : Option Error} {m' : Manager}
    (h : m.Handled now id prolongs error m') :
    m.Keeps now (if prolongs && error.isNone then some id else none) m'.sessions := by
  rcases m.stands now id with hm | ⟨e, ho⟩ | ⟨e, hl⟩
  · obtain ⟨rfl, rfl⟩ := h.missing hm
    simpa using Keeps.of_within (.refl m'.sessions)
  · obtain ⟨rfl, rfl⟩ := h.lapsed e ho
    have hwithin : (m.evict id).state.sessions.Within m.sessions := .filter _ _
    simpa using Keeps.of_within hwithin
  · obtain ⟨rfl, e', hs, ht⟩ := h.live e hl
    intro k d hd
    rw [hs, Store.get?_adjust] at hd
    by_cases hk : k = id
    · subst hk
      rw [if_pos rfl, hl.1] at hd
      obtain rfl := Option.some.inj hd
      cases prolongs with
      | true => simpa using ht
      | false => simpa using ⟨e, hl.1, ht⟩
    · rw [if_neg hk] at hd
      have hne : (if prolongs && (none : Option Error).isNone then some id else none) ≠ some k := by
        split
        · exact fun hi => hk (Option.some.inj hi).symm
        · nofun
      rw [if_neg hne]
      exact ⟨d, hd, rfl⟩

theorem createOrGet_keeps (h : m.Sound) (hf : m.sessions.get? fresh = none) (presented : Option String)
    (ip userAgent : String) :
    let p := m.createOrGet now fresh presented ip userAgent
    m.Keeps now (if p.result.id = fresh then some fresh else none) p.state.sessions := by
  intro p
  rcases m.createOrGet_cases now fresh presented ip userAgent with ⟨id, e, -, hl, -, hr⟩ | ⟨-, hr, hs⟩
  · have hne : p.result.id ≠ fresh := by
      show (m.createOrGet now fresh presented ip userAgent).result.id ≠ fresh
      rw [hr]
      rintro rfl
      rw [show e.countRequest.session.id = id from (h.fits id e hl.1).id, hl.1] at hf
      cases hf
    rw [if_neg hne]
    intro k e' he'
    change (m.createOrGet now fresh presented ip userAgent).state.sessions.get? k = some e' at he'
    rw [hr] at he'
    change (m.sessions.adjust id Entry.countRequest).get? k = some e' at he'
    rw [Store.get?_adjust] at he'
    split at he'
    · obtain ⟨d, hd, rfl⟩ := Option.map_eq_some_iff.1 he'
      exact ⟨d, hd, rfl⟩
    · exact ⟨e', he', rfl⟩
  · have hid : p.result.id = fresh := by
      show (m.createOrGet now fresh presented ip userAgent).result.id = fresh
      rw [hr]
      rfl
    rw [if_pos hid]
    intro k e' he'
    change (m.createOrGet now fresh presented ip userAgent).state.sessions.get? k = some e' at he'
    rw [hs] at he'
    change ((m.lapsed now presented).sessions.insert fresh _).get? k = some e' at he'
    rw [Store.get?_insert] at he'
    split at he'
    · next hk =>
      rw [if_pos (congrArg some hk.symm), ← Option.some.inj he', ← m.lapsed_settings now presented]
      rfl
    · next hk =>
      rw [if_neg fun hi => hk (Option.some.inj hi).symm]
      rw [lapsed_sessions] at he'
      exact ⟨e', Store.Within.filter _ _ k e' he', rfl⟩

theorem Sound.perform_keeps (h : m.Sound) (now : Millis) (hs : ∀ id ∈ act.sessionId?, m.sessions.get? id = none)
    (hn : ∀ x ∈ act.snapshotId?, m.snapshots.get? x = none) :
    m.Keeps now (act.restarted? (m.perform now act).result) (m.perform now act).state.sessions := by
  cases hact : act.needs? with
  | some id =>
    rw [Action.restarted?_of_needs hact]
    exact (perform_handled now hn hact).keeps
  | none =>
    cases act with
    | createOrGet fresh presented ip userAgent => exact createOrGet_keeps h (hs fresh rfl) presented ip userAgent
    | snapshot x => exact .of_within (.refl _)
    | stats => exact .of_within (.refl _)
    | destroy id =>
      show m.Keeps now none (m.destroy id).state.sessions
      refine .of_within ?_
      unfold Manager.destroy
      split
      · exact .refl _
      · exact .filter _ _
    | discardUnused id =>
      show m.Keeps now none (m.discardUnused id).state.sessions
      refine .of_within ?_
      unfold Manager.discardUnused
      split
      · exact .filter _ _
      · exact .refl _
    | sweep => exact Keeps.of_within (evictAll_sessions_within _ m)
    | _ => cases hact

/-! ## Sums of times -/

/-- The sums for an action: the end of a time that it starts anew, and the time that it says is left. -/
def sums (m : Manager) (now : Millis) (act : Action) : List Int :=
  (act.restarted? (m.perform now act).result).toList.map (fun _ => now + m.settings.ttl) ++
    match act with
    | .state id => (m.session now id).result.toOption.toList.map fun s => s.ttlAt - now
    | _ => []

/-- The sums for actions, one after the other. -/
def runSums (m : Manager) : Actions → List Int
  | [] => []
  | (now, act) :: acts => m.sums now act ++ (m.perform now act).state.runSums acts

/-- **No sum of a run overflows** 64 bits. -/
def StaysInRange (m : Manager) (acts : Actions) : Prop := ∀ t ∈ m.runSums acts, InRange t

instance : Decidable (m.StaysInRange acts) := inferInstanceAs (Decidable (∀ t ∈ m.runSums acts, InRange t))

theorem runSums_append : ∀ (acts acts' : Actions) (m : Manager),
    m.runSums (acts ++ acts') = m.runSums acts ++ (m.run acts).runSums acts'
  | [], _, _ => rfl
  | (now, act) :: acts, acts', m => by
    rw [List.cons_append, runSums, runSums_append acts acts', runSums, List.append_assoc]
    rfl

theorem staysInRange_append {acts' : Actions} :
    m.StaysInRange (acts ++ acts') ↔ m.StaysInRange acts ∧ (m.run acts).StaysInRange acts' := by
  unfold StaysInRange
  rw [runSums_append, List.forall_mem_append]

/-- The sessions end in range. -/
def EndsInRange (m : Manager) : Prop := ∀ k e, m.sessions.get? k = some e → InRange e.session.ttlAt

theorem EndsInRange.perform (he : m.EndsInRange)
    (h : m.Keeps now (act.restarted? (m.perform now act).result) (m.perform now act).state.sessions)
    (hsums : ∀ t ∈ m.sums now act, InRange t) : (m.perform now act).state.EndsInRange := by
  intro k e' he'
  have hk := h k e' he'
  split at hk
  · next hrestarted =>
    rw [hk]
    exact hsums _ (List.mem_append_left _ (by simp [hrestarted]))
  · obtain ⟨e, hm, ht⟩ := hk
    rw [ht]
    exact he k e hm

/-- If no sum of a run overflows, the sessions end in range after it. -/
theorem EndsInRange.run : ∀ (acts : Actions) {m : Manager}, m.EndsInRange → m.Sound → m.Free acts →
    m.StaysInRange acts → (m.run acts).EndsInRange
  | [], _, he, _, _, _ => he
  | (now, act) :: acts, m, he, h, hf, hr => by
    obtain ⟨hsums, hrest⟩ := List.forall_mem_append.1 hr
    have hends := he.perform (h.perform_keeps now hf.session hf.snapshot) hsums
    exact EndsInRange.run acts hends (h.perform now act hf.session hf.snapshot) hf.perform hrest

/-! ## The last start -/

theorem Dated.perform (hd : m.Dated k start?) {p : Audited Manager Answer} {restarted : Option String}
    (h : m.Keeps now restarted p.state.sessions) (hset : p.state.settings = m.settings) :
    p.state.Dated k ((if restarted = some k then some now else none).or start?) := by
  intro e' he'
  have he := h k e' he'
  rw [hset]
  split at he
  · next hk => exact ⟨now, by rw [if_pos hk]; rfl, he⟩
  · next hk =>
    obtain ⟨e, hm, ht⟩ := he
    obtain ⟨t, hst, hte⟩ := hd e hm
    exact ⟨t, by rw [if_neg hk]; exact hst, ht.trans hte⟩

theorem Dated.run : ∀ {m : Manager} {start? : Option Millis}, m.Dated k start? → ∀ acts : Actions, m.Sound →
    m.Free acts → (m.run acts).Dated k ((m.lastStart k acts).or start?)
  | _, _, hd, [], _, _ => hd
  | m, start?, hd, (now, act) :: acts, h, hf => by
    have hstep := hd.perform (h.perform_keeps now hf.session hf.snapshot) (m.perform_settings now act)
    have hrun := hstep.run acts (h.perform now act hf.session hf.snapshot) hf.perform
    rwa [← Option.or_assoc] at hrun

/-- **Errors are exact and clean.**  After every run, an operation that needs a live session returns and leaves what
`Exact` says, at every time, for every id.  The time of a stored session is over when its full time has passed since
the last operation that created it, renewed it, added to it or took back from it; that is a sum, exact and in range as
long as no sum of the run overflows. -/
theorem errors_exact (s : Settings) (acts : Actions) (hf : acts.Fresh) :
    let m := (empty s).run acts
    (∀ now act id, act.needs? = some id → (∀ x ∈ act.snapshotId?, x ∉ acts.snapshotIds) →
      m.Exact now id (m.perform now act).result.error? (m.perform now act).state) ∧
    ((empty s).StaysInRange acts → ∀ k e, m.sessions.get? k = some e →
      ∃ t, (empty s).lastStart k acts = some t ∧ e.session.ttlAt = t + s.ttl ∧ InRange (t + s.ttl)) := by
  intro m
  have hfree := free_empty s hf
  have hm : m.Sound := .run acts (sound_empty s) hfree
  refine ⟨fun now act id ha hn => hm.perform_exact (fun x hx => hfree.snapshot_none acts rfl (hn x hx)) ha,
    fun hrange k e he => ?_⟩
  have hd : (empty s).Dated k none := nofun
  have hends : m.EndsInRange := .run acts nofun (sound_empty s) hfree hrange
  obtain ⟨t, hst, ht⟩ := hd.run acts (sound_empty s) hfree e he
  rw [run_settings] at ht
  exact ⟨t, by rwa [Option.or_none] at hst, ht, ht ▸ hends k e he⟩

/-- Two sessions with a snapshot each.  The first one was started anew by its snapshot. -/
def twofoldRun : Actions :=
  [(0, .createOrGet "a" none "192.0.2.1" "agent"), (1, .createSnapshot "u" "a" (.ofChanges []) none),
    (2, .createOrGet "b" none "192.0.2.2" "agent"), (3, .createSnapshot "v" "b" (.ofChanges []) none)]

/-- The session is over at the very instant, and goes alone. -/
theorem errors_exact_instant :
    let m := (empty { ttlSecs := 1 }).run twofoldRun
    twofoldRun.Fresh ∧ (empty { ttlSecs := 1 }).StaysInRange twofoldRun ∧
      (empty { ttlSecs := 1 }).lastStart "a" twofoldRun = some 1 ∧
      (m.perform 1001 (.undo "a" 1)).result.error? = some (.expired "a") ∧
      (m.perform 1001 (.undo "a" 1)).state.sessions.entries.map Prod.fst = ["b"] ∧
      (m.perform 1001 (.undo "a" 1)).state.snapshots.entries.map Prod.fst = ["v"] := by
  intro m
  have hf : twofoldRun.Fresh := ⟨by decide, by decide⟩
  have hrange : (empty { ttlSecs := 1 }).StaysInRange twofoldRun := by decide +kernel
  obtain ⟨hexact, hstart⟩ := errors_exact { ttlSecs := 1 } twofoldRun hf
  have ha : ∃ e, m.sessions.get? "a" = some e :=
    ⟨(m.sessions.get? "a").get (by decide +kernel), (Option.some_get _).symm⟩
  obtain ⟨e, he⟩ := ha
  obtain ⟨t, ht, hte, -⟩ := hstart hrange "a" e he
  have hlast : (empty { ttlSecs := 1 }).lastStart "a" twofoldRun = some 1 := by decide +kernel
  have hover : e.session.ttlAt ≤ 1001 := by
    rw [hte, ← Option.some.inj (hlast.symm.trans ht)]
    decide
  have hx := hexact 1001 (.undo "a" 1) "a" rfl nofun
  have hexpired := hx.expired.2 ⟨e, he, hover⟩
  rw [hx.evicted hexpired]
  exact ⟨hf, hrange, hlast, hexpired, by decide +kernel, by decide +kernel⟩

end Manager

end SiteEdit.Session
