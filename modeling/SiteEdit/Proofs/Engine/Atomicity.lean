import SiteEdit.Proofs.Engine.Harmless
import SiteEdit.Proofs.Engine.Range
import Mathlib.Data.List.DropRight
import Mathlib.Tactic.Linarith
/-!
# A request is carried out or not

A request that is refused leaves the sessions and snapshots as they were (`Refused`); one that is accepted adds one
snapshot to one session (`Recorded`).  Either way a presented session whose time is over is dropped with its snapshots.
The session that a request gets is live when its document is recorded, so recording does not fail.
-/
namespace SiteEdit.Engine

open Audit (Audited)
open Session (Manager Entry)

/-- **The sessions after a request that was refused.**  The session that was started for it is gone again.  The stores
are as before, or without the presented session whose time is over, or the presented session has one more request. -/
structure Refused (m m' : Manager) (now : Millis) (fresh : String) (r : Request) : Prop where
  gone : m'.sessions.get? fresh = none
  stores : (m'.sessions = m.sessions ∧ m'.snapshots = m.snapshots) ∨
    (m'.sessions = (m.sessions.filter fun k _ => !m.lapses now r.session k) ∧
      m'.snapshots = m.snapshots.filter fun _ s => !m.lapses now r.session s.sessionId) ∨
    ∃ id e, r.session = some id ∧ m.Live now id e ∧ e.session.identity = identityHash r.ip r.userAgent ∧
      m'.sessions = m.sessions.adjust id Entry.countRequest ∧ m'.snapshots = m.snapshots

/-- The history of a session, none if it is not stored, with one more snapshot. -/
def extended (before : Option Entry) (snapshot : String) : List String :=
  before.elim [] Entry.history ++ [snapshot]

/-- **The sessions after a request that was accepted.**  Its session has one snapshot more, keeps the newest and ends its
full time from now, in range.  Those that are pushed out are dropped; the other sessions and snapshots are as before, but
for a presented session whose time is over. -/
structure Recorded (s : Session.Settings) (m m' : Manager) (now : Millis) (r : Request) (a : Accepted) : Prop where
  new : m.snapshots.get? a.snapshot.id = none
  owner : a.snapshot.sessionId = a.sessionId
  session : let before := m.sessions.get? a.sessionId
    ∃ e, m'.sessions.get? a.sessionId = some e ∧
      e.history = (extended before a.snapshot.id).rtake s.maxHistory.toNat ∧
      e.detached = before.elim [] Entry.detached ∧ e.session.ttlAt = now + s.ttl ∧ InRange (now + s.ttl) ∧
      e.session.quota.transformCount = before.elim 0 (fun e => e.session.quota.transformCount) + 1
  sessions : ∀ k, k ≠ a.sessionId →
    m'.sessions.get? k = (m.sessions.get? k).filter fun _ => !m.lapses now r.session k
  snapshots : ∀ x, m'.snapshots.get? x =
    if x = a.snapshot.id then some a.snapshot
    else if x ∈ (extended (m.sessions.get? a.sessionId) a.snapshot.id).rdrop s.maxHistory.toNat then none
    else (m.snapshots.get? x).filter fun s => !m.lapses now r.session s.sessionId

/-! ## The session of a request -/

/-- The sessions when a request got its session `id`: the session is live, and apart from that nothing happened but that
a presented session whose time is over was dropped. -/
structure Opened (m m₁ : Manager) (now : Millis) (r : Request) (id : String) (e : Entry) : Prop where
  live : m₁.Live now id e
  history : e.history = (m.sessions.get? id).elim [] Entry.history
  detached : e.detached = (m.sessions.get? id).elim [] Entry.detached
  count : e.session.quota.transformCount = (m.sessions.get? id).elim 0 fun e => e.session.quota.transformCount
  settings : m₁.settings = m.settings
  sessions : ∀ k, k ≠ id → m₁.sessions.get? k = (m.sessions.get? k).filter fun _ => !m.lapses now r.session k
  snapshots : m₁.snapshots = m.snapshots.filter fun _ s => !m.lapses now r.session s.sessionId

variable {m : Manager} {now : Millis} {fresh : String} {r : Request}

/-- A live session does not lapse, and no other than the presented one does. -/
theorem lapses_eq_false {id : String} {e : Entry} (hp : r.session = some id) (hl : m.Live now id e) (k : String) :
    m.lapses now r.session k = false := by
  by_cases hk : k = id
  · rw [hk, hp]
    exact Manager.lapses_of_live hl
  · refine Manager.lapses_of_ne fun h => hk ?_
    rw [hp] at h
    exact (Option.some.inj h).symm

theorem opened_reused {id : String} {e : Entry} (hp : r.session = some id) (hl : m.Live now id e) :
    Opened m { m with sessions := m.sessions.adjust id Entry.countRequest } now r id e.countRequest := by
  have hkeep := lapses_eq_false hp hl
  refine ⟨⟨?_, hl.2⟩, ?_, ?_, ?_, rfl, fun k hk => ?_, ?_⟩
  · rw [Store.get?_adjust, if_pos rfl, hl.1]
    rfl
  · rw [hl.1]
    rfl
  · rw [hl.1]
    rfl
  · rw [hl.1]
    rfl
  · rw [Store.get?_adjust, if_neg hk, hkeep]
    cases m.sessions.get? k <;> rfl
  · rw [Store.filter_eq_self fun _ s _ => by rw [hkeep, Bool.not_false]]

theorem opened_started (hf : m.sessions.get? fresh = none) (ht : 0 < m.settings.ttl) (identity : String) :
    let c := (m.lapsed now r.session).create now fresh identity
    Opened m c.state now r fresh (.ofSession c.result) := by
  intro c
  have hs : c.state.sessions = (m.sessions.filter fun k _ => !m.lapses now r.session k).insert fresh
      (.ofSession c.result) := by
    rw [← m.lapsed_sessions now r.session]
    rfl
  refine ⟨⟨?_, ?_⟩, ?_, ?_, ?_, m.lapsed_settings now r.session, fun k hk => ?_, m.lapsed_snapshots now r.session⟩
  · rw [hs, Store.get?_insert, if_pos rfl]
  · show decide (now + (m.lapsed now r.session).settings.ttl ≤ now) = false
    rw [m.lapsed_settings, decide_eq_false_iff_not]
    linarith
  · rw [hf]
    rfl
  · rw [hf]
    rfl
  · rw [hf]
    rfl
  · rw [hs, Store.get?_insert, if_neg hk, Store.get?_filter]

/-- A request gets a session that is live. -/
theorem opened (r : Request) (now : Millis) (hm : m.Sound) (hf : m.sessions.get? fresh = none)
    (ht : 0 < m.settings.ttl) :
    let c := m.createOrGet now fresh r.session r.ip r.userAgent
    ∃ e, Opened m c.state now r c.result.id e := by
  intro c
  rcases m.createOrGet_cases now fresh r.session r.ip r.userAgent with ⟨id, e, hp, hl, -, hc⟩ | ⟨-, hr, hs⟩
  · have hid : c.result.id = id := (congrArg (fun c => c.result.id) hc).trans (hm.fits id e hl.1).id
    have hstate : c.state = { m with sessions := m.sessions.adjust id Entry.countRequest } := congrArg Audited.state hc
    rw [hid, hstate]
    exact ⟨_, opened_reused hp hl⟩
  · have hid : c.result.id = fresh := congrArg Session.id hr
    have hstate : c.state = _ := hs
    rw [hid, hstate]
    exact ⟨_, opened_started hf ht (identityHash r.ip r.userAgent)⟩

/-! ## A refused request -/

/-- A session that was started and not used goes again. -/
theorem discardUnused_created {m : Manager} (hf : m.sessions.get? fresh = none) (now : Millis) (identity : String) :
    let d := ((m.create now fresh identity).state.discardUnused fresh).state
    d.sessions = m.sessions ∧ d.snapshots = m.snapshots := by
  intro d
  have hstored : (m.create now fresh identity).state.sessions
      = m.sessions.insert fresh (.ofSession (m.create now fresh identity).result) := rfl
  have hunused : ((m.create now fresh identity).state.sessions.get? fresh).any Entry.isUnused = true := by
    rw [hstored, Store.get?_insert, if_pos rfl]
    rfl
  have hd : d = ((m.create now fresh identity).state.discardUnused fresh).state := rfl
  unfold Manager.discardUnused at hd
  rw [if_pos hunused] at hd
  rw [hd]
  exact ⟨Store.erase_insert _ hf, rfl⟩

theorem refused_withoutIssued (r : Request) (now : Millis) (hm : m.Sound) (hf : m.sessions.get? fresh = none)
    (hp : r.session ≠ some fresh) :
    let c := m.createOrGet now fresh r.session r.ip r.userAgent
    Refused m (State.withoutIssued r.session c.result.id c.state) now fresh r := by
  intro c
  rcases m.createOrGet_cases now fresh r.session r.ip r.userAgent with ⟨id, e, hid, hl, hi, hc⟩ | ⟨-, hr, hs⟩
  · have hid' : c.result.id = id := (congrArg (fun c => c.result.id) hc).trans (hm.fits id e hl.1).id
    have hstate : c.state = { m with sessions := m.sessions.adjust id Entry.countRequest } := congrArg Audited.state hc
    unfold State.withoutIssued
    rw [hid', if_pos hid, hstate]
    exact ⟨Manager.adjust_session_none id _ hf, .inr (.inr ⟨id, e, hid, hl, hi, rfl, rfl⟩)⟩
  · have hid : c.result.id = fresh := congrArg Session.id hr
    have hstate : c.state = _ := hs
    have hgone : (m.lapsed now r.session).sessions.get? fresh = none := by
      rw [m.lapsed_sessions, Store.get?_filter, hf]
      rfl
    unfold State.withoutIssued
    rw [hid, if_neg hp, hstate]
    obtain ⟨hsessions, hsnapshots⟩ := discardUnused_created hgone now (identityHash r.ip r.userAgent)
    refine ⟨hsessions ▸ hgone, .inr (.inl ⟨?_, ?_⟩)⟩
    · rw [hsessions, m.lapsed_sessions]
    · rw [hsnapshots, m.lapsed_snapshots]

/-! ## An accepted request -/

/-- What the bound pushes out of a history is not the snapshot that was added. -/
theorem notMem_rdrop {history : List String} {x : String} {n : Nat} (hn : 0 < n) (hx : x ∉ history) :
    x ∉ (history ++ [x]).rdrop n := by
  intro h
  unfold List.rdrop at h
  rw [List.length_append, List.length_singleton, List.take_append_of_le_length (by omega)] at h
  exact hx (List.mem_of_mem_take h)

/-- A snapshot of the session that a request got. -/
theorem recorded {m₁ : Manager} {id snapshot : String} {e : Entry} {a : Accepted} {d : Document}
    {note : Option String} (h : Opened m m₁ now r id e) (hm : m₁.Sound) (hn : 0 < m.settings.maxHistory.toNat)
    (hf : m.snapshots.get? snapshot = none)
    (ha : (m₁.createSnapshot now snapshot id d note).result = .ok a.snapshot) (hid : a.sessionId = id)
    (hends : (m₁.createSnapshot now snapshot id d note).state.EndsInRange) :
    Recorded m.settings m (m₁.createSnapshot now snapshot id d note).state now r a := by
  obtain ⟨hr, hs⟩ := Manager.createSnapshot_of_live h.live d note
  rw [hr, Except.ok.injEq] at ha
  have hold : m₁.snapshots.get? snapshot = none := by
    rw [h.snapshots, Store.get?_filter, hf]
    rfl
  have hnew : snapshot ∉ e.history := by
    intro hx
    obtain ⟨s, hs, -⟩ := hm.owned.stored h.live.1 (List.mem_append_left _ hx)
    rw [hold] at hs
    cases hs
  have hext : extended (m.sessions.get? id) snapshot = e.history ++ [snapshot] := by
    rw [extended, h.history]
  subst hid
  rw [hs] at hends ⊢
  have hpushed : (e.push snapshot m₁.settings.maxHistory.toNat).2
      = (extended (m.sessions.get? a.sessionId) snapshot).rdrop m.settings.maxHistory.toNat := by
    rw [hext, h.settings]
    rfl
  refine ⟨?_, ?_, ?_, fun k hk => ?_, fun x => ?_⟩
  · rw [← ha]
    exact hf
  · rw [← ha]
    rfl
  · let kept := ((e.push snapshot m₁.settings.maxHistory.toNat).1.slide now m₁.settings.ttl).countTransform
    have hkept : (m₁.sessions.adjust a.sessionId fun _ => kept).get? a.sessionId = some kept := by
      rw [Store.get?_adjust, if_pos rfl, h.live.1]
      rfl
    have hend : kept.session.ttlAt = now + m.settings.ttl := by
      rw [← h.settings]
      rfl
    refine ⟨kept, hkept, ?_, h.detached, hend, hend ▸ hends _ kept hkept, congrArg (· + 1) h.count⟩
    rw [← ha]
    show _ = (extended (m.sessions.get? a.sessionId) snapshot).rtake m.settings.maxHistory.toNat
    rw [hext, ← h.settings]
    rfl
  · rw [Store.get?_adjust, if_neg hk, h.sessions k hk]
  · rw [← ha]
    show (((e.push snapshot m₁.settings.maxHistory.toNat).2).foldl Store.erase _).get? x = _
    rw [Store.get?_eraseAll, Store.get?_insert, hpushed, h.snapshots, Store.get?_filter]
    show _ = if x = snapshot then _ else _
    by_cases hx : x = snapshot
    · rw [if_pos hx, if_pos hx, if_neg]
      rw [hx, hext]
      exact notMem_rdrop hn hnew
    · rw [if_neg hx, if_neg hx]
      rfl

/-! ## Requests of a run -/

theorem maxHistory_pos {s : Settings} (h : s.fault? = none) : 0 < s.sessions.maxHistory.toNat := by
  have hz : (s.sessions.maxHistory == 0) = false := has_eq_false h .history
  exact toNat_pos (ne_of_beq_false hz)

theorem ttl_pos {s : Settings} (h : s.fault? = none) : 0 < s.sessions.ttl := by
  have hz : (s.sessions.ttlSecs == 0) = false := has_eq_false h .sessionTtl
  exact seconds_pos (ne_of_beq_false hz)

section Requests

variable {s : Settings} {e : Engine} {acts : Actions} {fresh : FreshIds} (hstart : start s = .ok e)
  (hf : Actions.Fresh (acts ++ [(now, .transform fresh r)]))

include hstart hf

theorem refused_of_error {refusal : Refusal} (hp : r.session ≠ some fresh.session)
    (h : ((e.after acts).transform now fresh r).2 = .error refusal) :
    Refused (e.after acts).state.sessions ((e.after acts).transform now fresh r).1.state.sessions now fresh.session
      r := by
  obtain ⟨hm, hset, hs, -⟩ := sound_after hstart hf
  have hs := hs fresh.session (List.mem_singleton.2 rfl)
  have h : ((e.after acts).state.transform (e.after acts).screen now fresh r).result = .error refusal := h
  show Refused _ ((e.after acts).state.transform (e.after acts).screen now fresh r).state.sessions now fresh.session r
  rcases (e.after acts).state.transform_cases (e.after acts).screen now fresh r with
    ⟨_, -, hkept | hopened⟩ | ⟨d, note, ⟨error, hc, -, -⟩ | ⟨a, -, hr, -, -⟩⟩
  · rw [hkept]
    exact ⟨hs, .inl ⟨rfl, rfl⟩⟩
  · rw [hopened]
    exact refused_withoutIssued r now hm hs hp
  · obtain ⟨_, ho⟩ := opened r now hm hs (hset ▸ ttl_pos (of_start hstart).1)
    rw [(Manager.createSnapshot_of_live ho.live d note).1] at hc
    cases hc
  · rw [h] at hr
    cases hr

theorem recorded_of_accepted (hrange : e.StaysInRange (acts ++ [(now, .transform fresh r)])) {a : Accepted}
    (h : ((e.after acts).transform now fresh r).2 = .ok a) :
    Recorded s.sessions (e.after acts).state.sessions ((e.after acts).transform now fresh r).1.state.sessions now r
      a := by
  obtain ⟨hm, hset, hs, hn⟩ := sound_after hstart hf
  have hfault := (of_start hstart).1
  have hs := hs fresh.session (List.mem_singleton.2 rfl)
  have hn := hn fresh.snapshot (List.mem_singleton.2 rfl)
  obtain ⟨_, ho⟩ := opened r now hm hs (hset ▸ ttl_pos hfault)
  have hends := endsInRange_after hstart hf hrange
  rw [after_append] at hends
  have hends : ((e.after acts).state.transform (e.after acts).screen now fresh r).state.sessions.EndsInRange := hends
  have h : ((e.after acts).state.transform (e.after acts).screen now fresh r).result = .ok a := h
  show Recorded _ _ ((e.after acts).state.transform (e.after acts).screen now fresh r).state.sessions now r a
  rcases (e.after acts).state.transform_cases (e.after acts).screen now fresh r with
    ⟨_, hr, -⟩ | ⟨d, note, ⟨_, -, hr, -⟩ | ⟨a', hc, hr, ha, hrecorded⟩⟩
  · rw [h] at hr
    cases hr
  · rw [h] at hr
    cases hr
  · rw [h, Except.ok.injEq] at hr
    subst hr
    rw [hrecorded] at hends ⊢
    rw [← hset]
    exact recorded ho (hm.createOrGet hs r.session r.ip r.userAgent) (hset ▸ maxHistory_pos hfault) hn hc ha hends

end Requests

/-- **A request is carried out or not.**  After every run of an engine, a request that is refused leaves the sessions
and snapshots as `Refused` says, and one that is accepted as `Recorded` says.  The ids that the operations bring are
new, also to the client of the request, and no sum of times overflows. -/
theorem transform_atomic (s : Settings) (e : Engine) (hstart : start s = .ok e) (acts : Actions) (now : Millis)
    (fresh : FreshIds) (r : Request) (hf : Actions.Fresh (acts ++ [(now, .transform fresh r)]))
    (hp : r.session ≠ some fresh.session) (hrange : e.StaysInRange (acts ++ [(now, .transform fresh r)])) :
    let m := (e.after acts).state.sessions
    let t := (e.after acts).transform now fresh r
    match t.2 with
    | .error _ => Refused m t.1.state.sessions now fresh.session r
    | .ok a => Recorded s.sessions m t.1.state.sessions now r a := by
  intro m t
  cases h : t.2 with
  | error refusal => exact refused_of_error hstart hf hp h
  | ok a => exact recorded_of_accepted hstart hf hrange h

/-- A history with room for one snapshot. -/
def openingSettings : Settings := { sessions := { maxHistory := 1 } }

theorem openingSettings_isShort : openingSettings.IsShort :=
  ⟨by decide, fun d => by cases d <;> decide, by decide⟩

/-- A session with a full history. -/
def openingRun : Actions := [(0, .transform ⟨"a", "u"⟩ ⟨"hide the banner", "192.0.2.1", "agent", none⟩)]

/-- A request of its client, and one of another client that presents the same session. -/
def ownRequest : Request := ⟨"hide the banner", "192.0.2.1", "agent", some "a"⟩
def otherRequest : Request := ⟨"", "192.0.2.2", "", some "a"⟩

theorem transform_atomic_opening :
    ∃ e a refusal, start openingSettings = .ok e ∧
      let m := (e.after openingRun).state.sessions
      let own := (e.after openingRun).transform 1 ⟨"b", "v"⟩ ownRequest
      let other := (e.after openingRun).transform 1 ⟨"c", "w"⟩ otherRequest
      e.StaysInRange (openingRun ++ [(1, .transform ⟨"b", "v"⟩ ownRequest)]) ∧
        own.2 = .ok a ∧ a.sessionId = "a" ∧ a.snapshot.id = "v" ∧
        Recorded openingSettings.sessions m own.1.state.sessions 1 ownRequest a ∧
        other.2 = .error refusal ∧ Refused m other.1.state.sessions 1 "c" otherRequest := by
  obtain ⟨e, he⟩ := exists_start (s := openingSettings) (by decide)
  have hrun : ((((lenientEngine openingSettings).after openingRun).transform 1 ⟨"b", "v"⟩ ownRequest).2.toOption.any
        fun a => a.sessionId == "a" && a.snapshot.id == "v") = true ∧
      (((lenientEngine openingSettings).after openingRun).transform 1 ⟨"c", "w"⟩ otherRequest).2.toOption.isNone
        = true := by decide +kernel
  have hlenient := fun fresh r => transform_lenient he rfl openingRun (by decide) 1 fresh (r := r)
  rw [← hlenient ⟨"b", "v"⟩ ownRequest (by decide), ← hlenient ⟨"c", "w"⟩ otherRequest (by decide)] at hrun
  obtain ⟨hown, hother⟩ := hrun
  obtain ⟨a, ha, hown⟩ := Policy.exists_ok hown
  rw [Bool.and_eq_true, beq_iff_eq, beq_iff_eq] at hown
  obtain ⟨hid, hsnapshot⟩ := hown
  have hatomic := fun fresh r hf hp hrange =>
    transform_atomic openingSettings e he openingRun 1 fresh r hf hp hrange
  have hrange : ∀ fresh r, e.StaysInRange (openingRun ++ [(1, .transform fresh r)]) := fun fresh r =>
    staysInRange_of_isNear he openingSettings_isShort (by simp [openingRun, Action.duration?]; decide)
  have hown := hatomic ⟨"b", "v"⟩ ownRequest ⟨by decide, by decide⟩ (by decide) (hrange _ _)
  dsimp only at hown
  rw [ha] at hown
  cases hrefused : ((e.after openingRun).transform 1 ⟨"c", "w"⟩ otherRequest).2 with
  | ok b =>
    rw [hrefused] at hother
    cases hother
  | error refusal =>
    have hforeign := hatomic ⟨"c", "w"⟩ otherRequest ⟨by decide, by decide⟩ (by decide) (hrange _ _)
    dsimp only at hforeign
    rw [hrefused] at hforeign
    exact ⟨e, a, refusal, he, hrange _ _, ha, hid, hsnapshot, hown, hrefused, hforeign⟩

end SiteEdit.Engine
