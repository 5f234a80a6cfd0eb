import SiteEdit.Proofs.Engine.Outcome
import SiteEdit.Proofs.Limit.Bans
/-!
# Presenting the session of another

A request that presents a live session with another identity gets a session of its own.  Each stage of such a request
leaves alone whatever belongs to the presented one (`Spares`): its entry, its snapshots, the record and the ban of its
key.  So any number of such requests does (`presented_in_vain`).
-/
namespace SiteEdit

open Audit (Audited Event)

/-! ## The limiter -/

namespace Limit.Limiter

variable {l : Limiter} {now : Millis} {key : Key}

/-- What is refused and reported is so for this key. -/
structure Concerns (key : Key) (a : Audited Limiter Decision) : Prop where
  denial : ∀ denial, a.result = .deny denial → denial.key = key.text
  events : ∀ event ∈ a.events, event.session = key.session?

theorem count_concerns (l : Limiter) (now : Millis) (key : Key) : Concerns key (l.count now key) := by
  by_cases hc : (l.nextRecord now key).count ≤ (l.settings.ceiling key.dimension).maxRequests.toNat
  · rw [count_of_within hc]
    constructor <;> simp
  · rw [count_of_exceeded (Nat.not_le.1 hc)]
    dsimp only
    split_ifs
    · constructor <;> simp +contextual [escalate, eq_comm]
    · constructor <;> simp +contextual [refuseExceeded, eq_comm]

theorem check_concerns (l : Limiter) (now : Millis) (key : Key) : Concerns key (l.check now key) := by
  cases hb : l.activeBan? now key with
  | some ban =>
    rw [check_of_banned hb]
    constructor <;> simp +contextual [refuseBanned, eq_comm]
  | none =>
    have hdropped : ∀ event ∈ (l.dropEnded key).events, event.session = key.session? := by
      unfold dropEnded
      split <;> simp
    have hcount := (l.dropEnded key).state.count_concerns now key
    unfold check
    rw [hb]
    exact ⟨hcount.denial, List.forall_mem_append.2 ⟨hdropped, hcount.events⟩⟩

end Limit.Limiter

/-! ## The sessions -/

namespace Session.Manager

variable {m : Manager} {now : Millis} {id k fresh : String} {e : Entry}

/-- An operation leaves a session and its snapshots alone.  It reports nothing of the session, unless it is that someone
else has presented it. -/
structure Spares (m : Manager) (id : String) {α : Type} (a : Audited Manager α) : Prop where
  entry : a.state.sessions.get? id = m.sessions.get? id
  snapshots : ∀ x s, s.sessionId = id → (a.state.snapshots.get? x = some s ↔ m.snapshots.get? x = some s)
  events : ∀ event ∈ a.events, event.session = some id → event.name = "session_identity_mismatch"

/-- The session that someone else presents stays, and a new one is started. -/
theorem createOrGet_of_other (h : m.Live now id e) {ip userAgent : String}
    (hi : identityHash ip userAgent ≠ e.session.identity) (fresh : String) :
    let started := m.create now fresh (identityHash ip userAgent)
    m.createOrGet now fresh (some id) ip userAgent =
      { started with
        events :=
          { level := .warning
            name := "session_identity_mismatch"
            session := some id
            data := Json.object [("presented_session", .str id)] } :: started.events } := by
  simp only [createOrGet, Option.bind_some, h.1, Option.map_some, h.2, Bool.false_eq_true, if_false, hi.symm,
    Audited.next, List.singleton_append]

theorem createOrGet_spares (h : m.Live now id e) {ip userAgent : String}
    (hi : identityHash ip userAgent ≠ e.session.identity) (hk : fresh ≠ id) :
    m.Spares id (m.createOrGet now fresh (some id) ip userAgent) := by
  rw [createOrGet_of_other h hi]
  refine ⟨?_, fun x s _ => Iff.rfl, ?_⟩
  · exact (Store.get?_insert _ _ _ _).trans (if_neg hk.symm)
  · simp [create, note, hk]

theorem discardUnused_spares (m : Manager) (hk : k ≠ id) : m.Spares id (m.discardUnused k) := by
  unfold discardUnused
  split_ifs
  · refine ⟨?_, fun x s _ => Iff.rfl, by simp [note, hk]⟩
    exact (Store.get?_erase _ _ _).trans (if_neg hk.symm)
  · exact ⟨rfl, fun x s _ => Iff.rfl, by simp⟩

/-- What a session reports when it takes a snapshot, or when its time is over. -/
theorem createSnapshot_events (m : Manager) (now : Millis) (fresh k : String) (d : Document) (text : Option String) :
    ∀ event ∈ (m.createSnapshot now fresh k d text).events, event.session = some k := by
  rcases m.stands now k with hm | ⟨e, ho⟩ | ⟨e, hl⟩
  · simp [createSnapshot, withLive, hm, Audited.next]
  · simp [createSnapshot, withLive, ho.1, ho.2, Audited.next, Audited.map, evict, note]
  · simp [createSnapshot, withLive, hl.1, hl.2, Audited.next, note]

theorem createSnapshot_spares (h : m.Sound) (hf : m.snapshots.get? fresh = none) (hk : k ≠ id) (d : Document)
    (text : Option String) : m.Spares id (m.createSnapshot now fresh k d text) := by
  have hevents : ∀ event ∈ (m.createSnapshot now fresh k d text).events, event.session = some id →
      event.name = "session_identity_mismatch" := fun event hevent hid => by
    rw [m.createSnapshot_events now fresh k d text event hevent] at hid
    exact absurd (Option.some.inj hid) hk
  rcases m.stands now k with hm | ⟨e, ho⟩ | ⟨e, hl⟩
  · refine ⟨?_, fun x s _ => ?_, hevents⟩
    · rw [createSnapshot_of_none hm hf]
    · rw [createSnapshot_of_none hm hf]
  · have hs := (createSnapshot_of_over ho hf d text).2
    refine ⟨?_, fun x s hs' => ?_, hevents⟩
    · rw [hs, evict_sessions, Store.get?_erase, if_neg hk.symm]
    · rw [hs, evict_snapshots, Store.get?_filter, Option.filter_eq_some_iff, hs', bne_iff_ne]
      exact and_iff_left hk.symm
  · have hs : (m.createSnapshot now fresh k d text).state = _ := (createSnapshot_of_live hl d text).2
    refine ⟨?_, fun x s hs' => ?_, hevents⟩
    · rw [hs]
      exact (Store.get?_adjust _ _ _ _).trans (if_neg hk.symm)
    · -- what is pushed out belongs to this session, and so does the snapshot that is new
      have hown : ∀ x ∈ e.history ++ [fresh], m.snapshots.get? x ≠ some s := fun x hx hx' => by
        rcases List.mem_append.1 hx with hx | hx
        · obtain ⟨t, ht, htk⟩ := h.owned.stored hl.1 (List.mem_append_left _ hx)
          rw [hx', Option.some.injEq] at ht
          exact hk (htk.symm.trans (ht ▸ hs'))
        · rw [List.mem_singleton.1 hx, hf] at hx'
          cases hx'
      rw [hs]
      dsimp only
      rw [Store.get?_eraseAll, Store.get?_insert]
      split_ifs with hpushed hfresh
      · exact iff_of_false nofun (hown x (List.mem_of_mem_take hpushed))
      · refine iff_of_false (fun ht => ?_) (hown x (List.mem_append_right _ (List.mem_singleton.2 hfresh)))
        obtain rfl := Option.some.inj ht
        exact hk hs'
      · rfl

end Session.Manager

/-! ## The stages of a request -/

namespace Engine

open Limit (Key)

/-- **What belongs to a session is as it was**: its entry, its snapshots, and the record and the ban of its key. -/
structure Untouched (id : String) (s s' : State) : Prop where
  entry : s'.sessions.sessions.get? id = s.sessions.sessions.get? id
  snapshots : ∀ x t, t.sessionId = id → (s'.sessions.snapshots.get? x = some t ↔ s.sessions.snapshots.get? x = some t)
  record : s'.limiter.record? (.session id) = s.limiter.record? (.session id)
  ban : s'.limiter.bans.get? (Key.session id).text = s.limiter.bans.get? (Key.session id).text

namespace Untouched

variable {id : String} {s s' s'' : State}

theorem refl (id : String) (s : State) : Untouched id s s := ⟨rfl, fun _ _ _ => Iff.rfl, rfl, rfl⟩

theorem trans (h : Untouched id s s') (h' : Untouched id s' s'') : Untouched id s s'' where
  entry := h'.entry.trans h.entry
  snapshots x t ht := (h'.snapshots x t ht).trans (h.snapshots x t ht)
  record := h'.record.trans h.record
  ban := h'.ban.trans h.ban

end Untouched

namespace State

/-- An operation leaves alone what belongs to a session.  It reports nothing of the session, unless it is that someone
else has presented it. -/
structure Spares (s : State) (id : String) {α : Type} (a : Audited State α) : Prop where
  state : Untouched id s a.state
  events : ∀ event ∈ a.events, event.session = some id → event.name = "session_identity_mismatch"

variable {s : State} {id session fresh : String} {now : Millis} {screen : Policy.Screen} {α β : Type}
  {a : Audited State α}

theorem Spares.next {f : α → State → Audited State β} (h : s.Spares id a)
    (hf : a.state.Spares id (f a.result a.state)) : s.Spares id (a.next f) where
  state := h.state.trans hf.state
  events := List.forall_mem_append.2 ⟨h.events, hf.events⟩

theorem Spares.map (h : s.Spares id a) (f : α → β) : s.Spares id (a.map f) := ⟨h.state, h.events⟩

/-- Nothing is done, and all that is reported is reported of another session. -/
theorem spares_of_events {events : List Event} (r : α) (h : ∀ event ∈ events, event.session = some session)
    (hk : session ≠ id) : s.Spares id { result := r, state := s, events := events } where
  state := .refl id s
  events event hevent hid := by
    rw [h event hevent] at hid
    exact absurd (Option.some.inj hid) hk

theorem check_spares (s : State) (now : Millis) {key : Key} (hk : key ≠ .session id) :
    s.Spares id (s.onLimiter fun l => l.check now key) := by
  have hne : some key ≠ some (Key.session id) := fun h => hk (Option.some.inj h)
  have hframe : (s.limiter.perform now (.check key)).state.bans.get? (Key.session id).text = _ ∧
      (s.limiter.perform now (.check key)).state.record? (.session id) = _ := Limit.Limiter.perform_frame hne nofun
  refine ⟨⟨rfl, fun _ _ _ => Iff.rfl, hframe.2, hframe.1⟩, fun event hevent hid => ?_⟩
  rw [(s.limiter.check_concerns now key).events event hevent] at hid
  obtain ⟨d, v⟩ := key
  cases d with
  | ip => cases hid
  | session =>
    cases hid
    exact absurd rfl hk

theorem onSessions_spares {f : Session.Manager → Audited Session.Manager α} (h : s.sessions.Spares id (f s.sessions)) :
    s.Spares id (s.onSessions f) :=
  ⟨⟨h.entry, h.snapshots, rfl, rfl⟩, h.events⟩

theorem refuse_spares (s : State) (text : String) (r : Refusal) (hk : session ≠ id) :
    s.Spares id (s.refuse session text r : Audited State (Except Refusal α)) :=
  spares_of_events _ (by cases r <;> simp [Refusal.event?]) hk

theorem record_spares (h : s.sessions.Sound) (hf : s.sessions.snapshots.get? fresh = none) (hk : session ≠ id)
    (text : String) (d : Document) (n : Nat) : s.Spares id (s.record screen now fresh session text d n) := by
  have hcreated : s.sessions.Spares id (s.sessions.createSnapshot now fresh session d _) :=
    Session.Manager.createSnapshot_spares h hf hk d (some (screen.redactor.redact text).text)
  unfold record
  refine Spares.next (onSessions_spares hcreated) ?_
  split
  · exact spares_of_events _ nofun hk
  · exact spares_of_events _ (by simp) hk

/-- A request that has another session leaves this one alone. -/
theorem proceed_spares (h : s.sessions.Sound) (hf : s.sessions.snapshots.get? fresh = none) (hk : session ≠ id)
    (text : String) (n : Nat) : s.Spares id (s.proceed screen now fresh session text n) := by
  have hkey : Key.session session ≠ .session id := fun he => hk (congrArg Key.value he)
  refine (s.check_spares now hkey).next ?_
  split
  · exact refuse_spares _ text _ hk
  · split
    · exact refuse_spares _ text _ hk
    · exact record_spares (s := (s.onLimiter fun l => l.check now (.session session)).state) h hf hk text _ _

end State

/-! ## Requests that present the session of another -/

/-- A request and its time, with the ids that are brought for it. -/
structure Post where
  now : Millis
  fresh : FreshIds
  request : Request

def Post.action (p : Post) : Millis × Action := (p.now, .transform p.fresh p.request)

/-- The request presents the session, which is live, with an identity that is not the session's. -/
structure Post.Foreign (p : Post) (id : String) (entry : Session.Entry) : Prop where
  presented : p.request.session = some id
  live : p.now < entry.session.ttlAt
  other : identityHash p.request.ip p.request.userAgent ≠ entry.session.identity

/-- A request is given its session. -/
def State.given (s : State) (p : Post) : Audited Session.Manager Session :=
  s.sessions.createOrGet p.now p.fresh.session p.request.session p.request.ip p.request.userAgent

/-- The session that a request is carried out under, unless it is refused for its address. -/
def State.sessionOf (s : State) (p : Post) : String := (s.given p).result.id

/-- **A request is carried out under another session.**  That is the one that it gets, whose snapshot it leaves if it is
accepted; no quota that refuses it is this one's; and of this one it is only reported that someone else presented it. -/
structure CarriedOutApart (e : Engine) (p : Post) (id : String) : Prop where
  session : e.state.sessionOf p ≠ id
  accepted : ∀ a, (e.transform p.now p.fresh p.request).2 = .ok a →
    a.sessionId = e.state.sessionOf p ∧ a.snapshot.sessionId = e.state.sessionOf p
  denied : ∀ denial, (e.transform p.now p.fresh p.request).2 = .error (.quota denial) →
    denial.key ≠ (Key.session id).text
  events : ∀ event ∈ (e.state.transform e.screen p.now p.fresh p.request).events, event.session = some id →
    event.name = "session_identity_mismatch"

variable {e : Engine} {p : Post} {id : String} {entry : Session.Entry}

namespace State

variable {s : State} {screen : Policy.Screen}

theorem live_of_foreign (hid : s.sessions.sessions.get? id = some entry) (hp : p.Foreign id entry) :
    s.sessions.Live p.now id entry :=
  ⟨hid, decide_eq_false (Int.not_le.2 hp.live)⟩

theorem sessionOf_foreign (hid : s.sessions.sessions.get? id = some entry) (hp : p.Foreign id entry) :
    s.sessionOf p = p.fresh.session := by
  rw [sessionOf, given, hp.presented, Session.Manager.createOrGet_of_other (live_of_foreign hid hp) hp.other]
  rfl

theorem transform_spares (h : s.sessions.Sound) (hs : s.sessions.sessions.get? p.fresh.session = none)
    (hn : s.sessions.snapshots.get? p.fresh.snapshot = none) (hid : s.sessions.sessions.get? id = some entry)
    (hp : p.Foreign id entry) : s.Spares id (s.transform screen p.now p.fresh p.request) := by
  have hk : p.fresh.session ≠ id := by
    rintro rfl
    rw [hs] at hid
    cases hid
  have hkey : Key.ip p.request.ip ≠ .session id := nofun
  have hgiven : s.sessions.Spares id (s.given p) := by
    have hstarted := Session.Manager.createOrGet_spares (live_of_foreign hid hp) hp.other hk
    rwa [← hp.presented] at hstarted
  have hsession : s.sessionOf p ≠ id := fun he => hk ((sessionOf_foreign hid hp).symm.trans he)
  have hsound : (s.given p).state.Sound := h.createOrGet hs p.request.session p.request.ip p.request.userAgent
  have hwithin : (s.given p).state.snapshots.Within s.sessions.snapshots := Session.Manager.createOrGet_within _ _ _ _ _ _
  have hnew : (s.given p).state.snapshots.get? p.fresh.snapshot = none :=
    Option.eq_none_iff_forall_ne_some.2 fun t ht => by
      rw [hwithin _ t ht] at hn
      cases hn
  unfold transform
  refine (s.check_spares p.now hkey).next ?_
  split
  · exact spares_of_events _ nofun hk
  · refine (onSessions_spares hgiven).next ((proceed_spares hsound hnew hsession _ _).next ?_)
    split
    · exact spares_of_events _ nofun hk
    · split_ifs
      · exact spares_of_events _ nofun hk
      · exact (onSessions_spares (Session.Manager.discardUnused_spares _ hsession)).map _

theorem transform_accepted {e : Session.Entry} (hl : (s.given p).state.Live p.now (s.sessionOf p) e) {a : Accepted}
    (h : (s.transform screen p.now p.fresh p.request).result = .ok a) :
    a.sessionId = s.sessionOf p ∧ a.snapshot.sessionId = s.sessionOf p := by
  rcases s.transform_cases screen p.now p.fresh p.request with
    ⟨refusal, hr, -⟩ | ⟨d, note, ⟨error, -, hr, -⟩ | ⟨b, hc, hr, hb, -⟩⟩
  · rw [h] at hr
    cases hr
  · rw [h] at hr
    cases hr
  · obtain rfl := Except.ok.inj (h.symm.trans hr)
    have hsnapshot : a.snapshot = _ :=
      Except.ok.inj (hc.symm.trans (Session.Manager.createSnapshot_of_live hl d note).1)
    exact ⟨hb, by rw [hsnapshot]; rfl⟩

/-- A quota that refuses a request is that of its address or that of the session that it gets. -/
theorem transform_denied {e : Session.Entry} (hl : (s.given p).state.Live p.now (s.sessionOf p) e)
    {denial : Limit.Denial} (h : (s.transform screen p.now p.fresh p.request).result = .error (.quota denial)) :
    denial.key = (Key.ip p.request.ip).text ∨ denial.key = (Key.session (s.sessionOf p)).text := by
  have houtcome := s.transform_outcome_of_live screen p.now p.fresh p.request hl
  rcases (houtcome.quota denial).1 h with hip | ⟨-, hown⟩
  · exact .inl ((s.limiter.check_concerns p.now _).denial denial hip)
  · exact .inr ((Limit.Limiter.check_concerns _ p.now _).denial denial hown)

end State

/-! ## Any number of requests -/

/-- One request of someone else, after a run. -/
theorem transform_foreign {s : Settings} (hstart : start s = .ok e) {acts later : Actions}
    (hf : Actions.Fresh (acts ++ p.action :: later)) (hid : (e.after acts).state.sessions.sessions.get? id = some entry)
    (hp : p.Foreign id entry) :
    Untouched id (e.after acts).state (e.after (acts ++ [p.action])).state ∧ CarriedOutApart (e.after acts) p id := by
  obtain ⟨hm, hset, hs, hn⟩ := sound_after hstart hf
  have hs : (e.after acts).state.sessions.sessions.get? p.fresh.session = none := hs _ List.mem_cons_self
  have hn : (e.after acts).state.sessions.snapshots.get? p.fresh.snapshot = none := hn _ List.mem_cons_self
  have ht : 0 < (e.after acts).state.sessions.settings.ttl := hset ▸ ttl_pos (of_start hstart).1
  have hspares : (e.after acts).state.Spares id
      ((e.after acts).state.transform (e.after acts).screen p.now p.fresh p.request) :=
    State.transform_spares hm hs hn hid hp
  have hsession : (e.after acts).state.sessionOf p ≠ id := fun he => by
    rw [State.sessionOf_foreign hid hp] at he
    rw [he, hid] at hs
    cases hs
  obtain ⟨e₁, hopened⟩ := opened p.request p.now hm hs ht
  rw [after_append]
  refine ⟨hspares.state, hsession, fun a ha => State.transform_accepted hopened.live ha, fun denial hd => ?_,
    hspares.events⟩
  rcases State.transform_denied hopened.live hd with hkey | hkey
  · rw [hkey]
    exact fun h => nomatch Key.text_inj.1 h
  · rw [hkey]
    exact fun h => hsession (congrArg Key.value (Key.text_inj.1 h))

theorem untouched_after {s : Settings} (hstart : start s = .ok e) : ∀ (posts : List Post) (acts : Actions),
    Actions.Fresh (acts ++ posts.map Post.action) → (e.after acts).state.sessions.sessions.get? id = some entry →
      (∀ p ∈ posts, p.Foreign id entry) →
        Untouched id (e.after acts).state (e.after (acts ++ posts.map Post.action)).state
  | [], acts, _, _, _ => by
    rw [List.map_nil, List.append_nil]
    exact .refl id _
  | p :: posts, acts, hf, hid, hp => by
    rw [List.forall_mem_cons] at hp
    have hstep := (transform_foreign hstart hf hid hp.1).1
    have hcons : acts ++ (p :: posts).map Post.action = (acts ++ [p.action]) ++ posts.map Post.action := by
      rw [List.map_cons, List.append_assoc, List.singleton_append]
    rw [hcons] at hf ⊢
    exact hstep.trans (untouched_after hstart posts _ hf (hstep.entry.trans hid) hp.2)

/-- **Whoever presents the session of another does it no harm.**  After every run of an engine, any number of requests
that present a live session with another identity leave its entry, all its snapshots, and the record and the ban of its
key as they were, and every one of them is carried out under another session. -/
theorem presented_in_vain (s : Settings) (e : Engine) (hstart : start s = .ok e) (acts : Actions) (posts : List Post)
    (hf : Actions.Fresh (acts ++ posts.map Post.action)) (id : String) (entry : Session.Entry)
    (hid : (e.after acts).state.sessions.sessions.get? id = some entry) (hp : ∀ p ∈ posts, p.Foreign id entry) :
    Untouched id (e.after acts).state (e.after (acts ++ posts.map Post.action)).state ∧
      ∀ before p later, posts = before ++ p :: later →
        CarriedOutApart (e.after (acts ++ before.map Post.action)) p id := by
  refine ⟨untouched_after hstart posts acts hf hid hp, ?_⟩
  rintro before p later rfl
  -- the requests before this one have left the session as it was
  rw [List.map_append, List.map_cons, ← List.append_assoc] at hf
  have hbefore := untouched_after hstart before acts hf.left hid fun q hq => hp q (List.mem_append_left _ hq)
  have hmem : p ∈ before ++ p :: later := List.mem_append_right _ List.mem_cons_self
  exact (transform_foreign hstart hf (hbefore.entry.trans hid) (hp p hmem)).2

/-- A session with a snapshot in force, a detached one and a request that is counted. -/
def ownedRun : Actions :=
  [(0, .sessions (.createOrGet "a" none "192.0.2.1" "agent")), (1, .limits (.check (.session "a"))),
    (2, .sessions (.createSnapshot "u" "a" (.ofChanges []) none)),
    (3, .sessions (.createSnapshot "v" "a" (.ofChanges []) none)), (4, .undo "a" 1)]

/-- Two others who present it, one from the same address. -/
def strangers : List Post :=
  [⟨5, ⟨"b", "w"⟩, ⟨"hide the banner", "192.0.2.2", "agent", some "a"⟩⟩,
    ⟨6, ⟨"c", "x"⟩, ⟨"make it nice", "192.0.2.1", "", some "a"⟩⟩]

theorem presented_in_vain_owned :
    let entry : Session.Entry :=
      { session := ⟨"a", identityHash "192.0.2.1" "agent", 0, 1800004, ⟨1, 2⟩⟩, history := ["u"], detached := ["v"] }
    ∃ e, start {} = .ok e ∧ Actions.Fresh (ownedRun ++ strangers.map Post.action) ∧
      (e.after ownedRun).state.sessions.sessions.get? "a" = some entry ∧ (∀ p ∈ strangers, p.Foreign "a" entry) ∧
        Untouched "a" (e.after ownedRun).state (e.after (ownedRun ++ strangers.map Post.action)).state ∧
          ∀ before p later, strangers = before ++ p :: later →
            CarriedOutApart (e.after (ownedRun ++ before.map Post.action)) p "a" := by
  intro entry
  obtain ⟨e, he⟩ := exists_start (s := {}) (by decide)
  have hf : Actions.Fresh (ownedRun ++ strangers.map Post.action) := ⟨by decide, by decide⟩
  have hrun : (e.after ownedRun).state.sessions = e.state.sessions.run
      [(0, .createOrGet "a" none "192.0.2.1" "agent"), (2, .createSnapshot "u" "a" (.ofChanges []) none),
        (3, .createSnapshot "v" "a" (.ofChanges []) none), (4, .undo "a" 1)] := rfl
  have hid : (e.after ownedRun).state.sessions.sessions.get? "a" = some entry := by
    rw [hrun, (of_start he).2]
    decide +kernel
  have hother : identityHash "192.0.2.2" "agent" ≠ identityHash "192.0.2.1" "agent" ∧
      identityHash "192.0.2.1" "" ≠ identityHash "192.0.2.1" "agent" := by decide +kernel
  have hp : ∀ p ∈ strangers, p.Foreign "a" entry := by
    simp only [strangers, List.forall_mem_cons]
    exact ⟨⟨rfl, by decide, hother.1⟩, ⟨rfl, by decide, hother.2⟩, nofun⟩
  exact ⟨e, he, hf, hid, hp, presented_in_vain {} e he ownedRun strangers hf "a" entry hid hp⟩

end Engine

end SiteEdit
