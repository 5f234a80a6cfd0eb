import SiteEdit.Proofs.Engine.Effects
import SiteEdit.Proofs.Limit.Balance
import SiteEdit.Proofs.Session.Balance
/-!
# The counters of the engine balance

An operation of the engine is made of operations of its parts.  These are written down as jobs, and the state after a run
is the state after its jobs (`after_jobs`).  So the counters that the engine returns balance as those of its parts do:
against the requests that the limiter has decided on, the bans that it has placed and the snapshots that sessions held
when they ended.
-/
namespace SiteEdit.Engine

open Audit (Audited)

/-- What the engine has one of its parts do. -/
inductive Job where
  | limits (act : Limit.Action)
  | sessions (act : Session.Action)
  deriving DecidableEq, Repr

namespace Job

/-- The operation of the limiter. -/
def limits? : Job → Option Limit.Action
  | limits act => some act
  | sessions _ => none

/-- The operation of the sessions. -/
def sessions? : Job → Option Session.Action
  | limits _ => none
  | sessions act => some act

end Job

/-- Jobs, each with its time. -/
abbrev Jobs := List (Millis × Job)

namespace Jobs

/-- What the limiter does. -/
def limits (jobs : Jobs) : Limit.Actions := jobs.filterMap fun j => j.2.limits?.map fun act => (j.1, act)

/-- What the sessions do. -/
def sessions (jobs : Jobs) : Session.Actions := jobs.filterMap fun j => j.2.sessions?.map fun act => (j.1, act)

theorem limits_append (jobs jobs' : Jobs) : limits (jobs ++ jobs') = jobs.limits ++ jobs'.limits :=
  List.filterMap_append

theorem sessions_append (jobs jobs' : Jobs) : sessions (jobs ++ jobs') = jobs.sessions ++ jobs'.sessions :=
  List.filterMap_append

theorem mem_limits_iff {jobs : Jobs} {a : Millis × Limit.Action} :
    a ∈ jobs.limits ↔ (a.1, Job.limits a.2) ∈ jobs := by
  unfold limits
  rw [List.mem_filterMap]
  constructor
  · rintro ⟨⟨now, job⟩, hj, ha⟩
    cases job with
    | limits act =>
      cases ha
      exact hj
    | sessions act => cases ha
  · exact fun h => ⟨_, h, rfl⟩

theorem mem_sessions_iff {jobs : Jobs} {a : Millis × Session.Action} :
    a ∈ jobs.sessions ↔ (a.1, Job.sessions a.2) ∈ jobs := by
  unfold sessions
  rw [List.mem_filterMap]
  constructor
  · rintro ⟨⟨now, job⟩, hj, ha⟩
    cases job with
    | limits act => cases ha
    | sessions act =>
      cases ha
      exact hj
  · exact fun h => ⟨_, h, rfl⟩

end Jobs

/-! ## The jobs of a request -/

namespace State

/-- The state after jobs. -/
def run (s : State) : Jobs → State
  | [] => s
  | (now, .limits act) :: jobs => run { s with limiter := (s.limiter.perform now act).state } jobs
  | (now, .sessions act) :: jobs => run { s with sessions := (s.sessions.perform now act).state } jobs

/-- The jobs of a request that has a session. -/
def proceedJobs (s : State) (screen : Policy.Screen) (now : Millis) (fresh session text : String) : Jobs :=
  let note := (screen.redactor.redact text).text
  (now, .limits (.check (.session session))) ::
    match (s.limiter.check now (.session session)).result, understand screen text with
    | .allow _, .ok d => [(now, .sessions (.createSnapshot fresh session d (some note)))]
    | _, _ => []

/-- The jobs of a request. -/
def transformJobs (s : State) (screen : Policy.Screen) (now : Millis) (fresh : FreshIds) (r : Request) : Jobs :=
  let ip := s.limiter.check now (.ip r.ip)
  (now, .limits (.check (.ip r.ip))) ::
    match ip.result with
    | .deny _ => []
    | .allow n =>
      let given := s.sessions.createOrGet now fresh.session r.session r.ip r.userAgent
      let id := given.result.id
      let s' : State := { limiter := ip.state, sessions := given.state }
      (now, .sessions (.createOrGet fresh.session r.session r.ip r.userAgent)) ::
        (s'.proceedJobs screen now fresh.snapshot id r.text ++
          match (s'.proceed screen now fresh.snapshot id r.text n).result with
          | .ok _ => []
          | .error _ => if r.session = some id then [] else [(now, .sessions (.discardUnused id))])

theorem run_append : ∀ (jobs jobs' : Jobs) (s : State), s.run (jobs ++ jobs') = (s.run jobs).run jobs'
  | [], _, _ => rfl
  | (_, .limits _) :: jobs, jobs', _ => run_append jobs jobs' _
  | (_, .sessions _) :: jobs, jobs', _ => run_append jobs jobs' _

/-- The limiter does its jobs and no others. -/
theorem run_limiter : ∀ (jobs : Jobs) (s : State), (s.run jobs).limiter = s.limiter.run jobs.limits
  | [], _ => rfl
  | (_, .limits _) :: jobs, _ => run_limiter jobs _
  | (_, .sessions _) :: jobs, _ => run_limiter jobs _

/-- The sessions do their jobs and no others. -/
theorem run_sessions : ∀ (jobs : Jobs) (s : State), (s.run jobs).sessions = s.sessions.run jobs.sessions
  | [], _ => rfl
  | (_, .limits _) :: jobs, _ => run_sessions jobs _
  | (_, .sessions _) :: jobs, _ => run_sessions jobs _

theorem proceed_jobs (s : State) (screen : Policy.Screen) (now : Millis) (fresh session text : String) (n : Nat) :
    (s.proceed screen now fresh session text n).state = s.run (s.proceedJobs screen now fresh session text) := by
  unfold proceed proceedJobs onLimiter Audited.next
  dsimp only
  cases (s.limiter.check now (.session session)).result with
  | deny denial => rfl
  | allow k =>
    cases understand screen text with
    | error refusal => rfl
    | ok d =>
      dsimp only
      unfold record onSessions Audited.next
      dsimp only
      split <;> rfl

theorem transform_jobs (s : State) (screen : Policy.Screen) (now : Millis) (fresh : FreshIds) (r : Request) :
    (s.transform screen now fresh r).state = s.run (s.transformJobs screen now fresh r) := by
  unfold transform transformJobs onLimiter onSessions Audited.next
  dsimp only
  cases (s.limiter.check now (.ip r.ip)).result with
  | deny denial => rfl
  | allow n =>
    let given := s.sessions.createOrGet now fresh.session r.session r.ip r.userAgent
    let s' : State := { limiter := (s.limiter.check now (.ip r.ip)).state, sessions := given.state }
    have hproceed := s'.proceed_jobs screen now fresh.snapshot given.result.id r.text n
    dsimp only
    cases (s'.proceed screen now fresh.snapshot given.result.id r.text n).result with
    | ok accepted =>
      dsimp only
      rw [List.append_nil]
      exact hproceed
    | error refusal =>
      dsimp only
      split_ifs
      · rw [List.append_nil]
        exact hproceed
      · show _ = s'.run (_ ++ _)
        rw [run_append, ← hproceed]
        rfl

end State

/-! ## The jobs of a run -/

/-- The jobs of an action. -/
def jobsOf (e : Engine) (now : Millis) : Action → Jobs
  | .transform fresh r => e.state.transformJobs e.screen now fresh r
  | .undo id steps => [(now, .sessions (.undo id steps))]
  | .reset id => [(now, .sessions (.reset id))]
  | .state id => [(now, .sessions (.state id))]
  | .history id => [(now, .sessions (.history id))]
  | .ban key reason secs => [(now, .limits (.ban key reason (secs.map seconds)))]
  | .unban key => [(now, .limits (.unban key))]
  | .sweep => [(now, .sessions .sweep), (now, .limits .sweep)]
  | .sessions act => [(now, .sessions act)]
  | .limits act => [(now, .limits act)]

/-- The jobs of actions. -/
def jobs (e : Engine) : Actions → Jobs
  | [] => []
  | (now, act) :: acts => e.jobsOf now act ++ (e.perform now act).1.jobs acts

theorem perform_jobs (e : Engine) (now : Millis) (act : Action) :
    (e.perform now act).1.state = e.state.run (e.jobsOf now act) := by
  cases act with
  | transform fresh r => exact e.state.transform_jobs e.screen now fresh r
  | _ => rfl

/-- The state after actions is the state after their jobs. -/
theorem after_jobs : ∀ (acts : Actions) (e : Engine), (e.after acts).state = e.state.run (e.jobs acts)
  | [], _ => rfl
  | (now, act) :: acts, e => by
    rw [jobs, State.run_append, ← perform_jobs]
    exact after_jobs acts (e.perform now act).1

/-- The limiter of an engine has made a run of its own. -/
theorem limiter_after {s : Settings} {e : Engine} (h : start s = .ok e) (acts : Actions) :
    (e.after acts).state.limiter = (Limit.Limiter.empty s.limits).run (e.jobs acts).limits := by
  rw [after_jobs, State.run_limiter, state_of_start h]
  rfl

/-- So have its sessions. -/
theorem sessions_after {s : Settings} {e : Engine} (h : start s = .ok e) (acts : Actions) :
    (e.after acts).state.sessions = (Session.Manager.empty s.sessions).run (e.jobs acts).sessions := by
  rw [after_jobs, State.run_sessions, state_of_start h]
  rfl

/-- The ids that jobs bring are among those. -/
structure Jobs.Bring (jobs : Jobs) (sessionIds snapshotIds : List String) : Prop where
  sessions : jobs.sessions.sessionIds.Sublist sessionIds
  snapshots : jobs.sessions.snapshotIds.Sublist snapshotIds

namespace Jobs.Bring

variable {jobs jobs' : Jobs} {a b a' b' : List String}

theorem append (h : jobs.Bring a b) (h' : jobs'.Bring a' b') : Bring (jobs ++ jobs') (a ++ a') (b ++ b') := by
  constructor
  · rw [sessions_append, Session.Actions.sessionIds, List.filterMap_append]
    exact h.sessions.append h'.sessions
  · rw [sessions_append, Session.Actions.snapshotIds, List.filterMap_append]
    exact h.snapshots.append h'.snapshots

theorem of_sessions (now : Millis) (act : Session.Action) :
    Bring [(now, .sessions act)] act.sessionId?.toList act.snapshotId?.toList where
  sessions := by
    show (Session.Actions.sessionIds [(now, act)]).Sublist _
    rw [Session.Actions.sessionIds_cons, show Session.Actions.sessionIds [] = [] from rfl, List.append_nil]
  snapshots := by
    show (Session.Actions.snapshotIds [(now, act)]).Sublist _
    rw [Session.Actions.snapshotIds_cons, show Session.Actions.snapshotIds [] = [] from rfl, List.append_nil]

theorem limits (now : Millis) (act : Limit.Action) (h : jobs.Bring a b) : Bring ((now, .limits act) :: jobs) a b :=
  ⟨h.sessions, h.snapshots⟩

theorem nil : Bring [] a b := ⟨List.nil_sublist a, List.nil_sublist b⟩

theorem proceed (s : State) (screen : Policy.Screen) (now : Millis) (fresh session text : String) :
    (s.proceedJobs screen now fresh session text).Bring [] [fresh] := by
  unfold State.proceedJobs
  refine .limits now _ ?_
  split
  · exact .of_sessions now _
  · exact .nil

theorem transform (s : State) (screen : Policy.Screen) (now : Millis) (fresh : FreshIds) (r : Request) :
    (s.transformJobs screen now fresh r).Bring [fresh.session] [fresh.snapshot] := by
  unfold State.transformJobs
  refine .limits now _ ?_
  split
  · exact .nil
  · have hgiven := of_sessions now (.createOrGet fresh.session r.session r.ip r.userAgent)
    refine hgiven.append ((proceed _ screen now fresh.snapshot _ r.text).append (?_ : Bring _ [] []))
    split
    · exact .nil
    · split
      · exact .nil
      · exact .of_sessions now _

end Jobs.Bring

theorem jobsOf_bring (e : Engine) (now : Millis) (act : Action) :
    (e.jobsOf now act).Bring act.sessionId?.toList act.snapshotId?.toList := by
  cases act with
  | transform fresh r => exact .transform e.state e.screen now fresh r
  | undo id steps => exact .of_sessions now _
  | reset id => exact .of_sessions now _
  | state id => exact .of_sessions now _
  | history id => exact .of_sessions now _
  | ban key reason secs => exact .limits now _ .nil
  | unban key => exact .limits now _ .nil
  | sweep => exact (Jobs.Bring.of_sessions now .sweep).append (.limits now .sweep .nil)
  | sessions act => exact .of_sessions now act
  | limits act => exact .limits now act .nil

/-- No job brings an id that its action does not. -/
theorem jobs_bring : ∀ (acts : Actions) (e : Engine), (e.jobs acts).Bring acts.sessionIds acts.snapshotIds
  | [], _ => .nil
  | (now, act) :: acts, e => by
    rw [Actions.sessionIds_cons, Actions.snapshotIds_cons]
    exact (e.jobsOf_bring now act).append (jobs_bring acts (e.perform now act).1)

/-! ## The balance -/

/-- Counts balance against jobs that were done from the start: by sessions that were stored, over, destroyed or
discarded, by snapshots that are stored, were pushed out or went with their sessions, and by requests and bans. -/
structure Balanced (stats : Stats) (s : Settings) (jobs : Jobs) : Prop where
  sessions : stats.sessions.sessionsCreated =
    stats.sessions.activeSessions + stats.sessions.sessionsExpired + stats.sessions.sessionsDestroyed +
      stats.sessions.sessionsDiscarded
  snapshots : stats.sessions.snapshotsCreated =
    stats.sessions.storedSnapshots + stats.sessions.snapshotsEvicted +
      (Session.Manager.empty s.sessions).heldAtEnd jobs.sessions
  checks : jobs.limits.checks =
    stats.limits.allowed + stats.limits.rateLimited + stats.limits.bannedRejections +
      Limit.bansBy .automatic ((Limit.Limiter.empty s.limits).newBans jobs.limits)
  bans : stats.limits.bansCreated =
    Limit.bansBy .automatic ((Limit.Limiter.empty s.limits).newBans jobs.limits) +
      Limit.bansBy .admin ((Limit.Limiter.empty s.limits).newBans jobs.limits)

/-- **The counters balance.**  After every run of an engine, its sessions and its limiter in which no id is brought
twice, every session that was started is stored, or its time was over, or it was destroyed or discarded; every snapshot
that was taken is stored, or it was pushed out, or its session held it when the session ended; every request that the
limiter decided on was allowed, refused as one too many or by a ban, or answered by a new ban for its violations; and
every ban was placed so or by an operator. -/
theorem stats_balanced (s : Settings) (e : Engine) (hstart : start s = .ok e) (acts : Actions) (hf : acts.Fresh)
    (now : Millis) :
    (e.after acts).state = (State.empty s).run (e.jobs acts) ∧
      Balanced ((e.after acts).stats now) s (e.jobs acts) := by
  have hstate : (e.after acts).state = (State.empty s).run (e.jobs acts) := by
    rw [after_jobs, state_of_start hstart]
  have hbring := e.jobs_bring acts
  have hfree : (Session.Manager.empty s.sessions).Free (e.jobs acts).sessions :=
    Session.Manager.free_empty s.sessions ⟨hf.sessions.sublist hbring.sessions, hf.snapshots.sublist hbring.snapshots⟩
  have hlimiter : (e.after acts).state.limiter = (Limit.Limiter.empty s.limits).run (e.jobs acts).limits := by
    rw [hstate]
    exact State.run_limiter _ _
  have hsessions : (e.after acts).state.sessions = (Session.Manager.empty s.sessions).run (e.jobs acts).sessions := by
    rw [hstate]
    exact State.run_sessions _ _
  have hsound : (e.after acts).state.sessions.Sound := hsessions ▸ .run _ (Session.Manager.sound_empty _) hfree
  have hkept := Session.Manager.run_balances _ hfree
  have hchecked := Limit.Limiter.run_balances (e.jobs acts).limits (.empty s.limits)
  rw [← hsessions] at hkept
  rw [← hlimiter] at hchecked
  -- at the start all counters are zero
  refine ⟨hstate, ?_⟩
  constructor
  · exact hkept.sessions.trans (Nat.zero_add _)
  · have hsnapshots := hkept.snapshots
    rw [← hsound.size_snapshots] at hsnapshots
    exact hsnapshots.trans (Nat.zero_add _)
  · exact (hchecked.checks.trans (Nat.zero_add _)).symm
  · exact hchecked.bans.trans (Nat.zero_add _)

/-- Queues for one snapshot, and one request in a minute. -/
def balancedSettings : Settings :=
  { sessions := { ttlSecs := 60, maxHistory := 1, maxDetached := 1 },
    limits := { banThreshold := 2, ip := { maxRequests := 1, windowSecs := 60 } } }

theorem balancedSettings_fault : balancedSettings.fault? = none := by decide

/-- An engine with such queues and such a limit. -/
noncomputable def balancedEngine : Engine := started balancedSettings balancedSettings_fault

/-- Sessions of all four fates, snapshots of all three, and requests of all four. -/
def balancedRun : Actions :=
  [(0, .sessions (.createOrGet "a" none "192.0.2.1" "agent")),
    (1, .sessions (.createSnapshot "u" "a" (.ofChanges []) none)),
    (2, .sessions (.createSnapshot "v" "a" (.ofChanges []) none)), (3, .undo "a" 1),
    (4, .sessions (.createSnapshot "w" "a" (.ofChanges []) none)),
    (5, .ban (.session "b") "spam" none), (6, .transform ⟨"b", "x"⟩ ⟨"make it nice", "192.0.2.2", "", none⟩),
    (7, .limits (.check (.ip "192.0.2.3"))), (8, .limits (.check (.ip "192.0.2.3"))),
    (9, .limits (.check (.ip "192.0.2.3"))), (10, .limits (.check (.ip "192.0.2.3"))),
    (11, .sessions (.createOrGet "c" none "192.0.2.1" "agent")),
    (12, .sessions (.createSnapshot "y" "c" (.ofChanges []) none)), (13, .sessions (.destroy "c")), (60005, .sweep),
    (60006, .sessions (.createOrGet "d" none "192.0.2.1" "agent")),
    (60007, .sessions (.createSnapshot "z" "d" (.ofChanges []) none))]

/-- What the sessions have counted then. -/
def balancedSessions : Session.Stats :=
  { activeSessions := 1, storedSnapshots := 1, sessionsCreated := 4, sessionsExpired := 1, sessionsDestroyed := 1,
    sessionsDiscarded := 1, snapshotsCreated := 5, snapshotsEvicted := 1 }

theorem stats_balanced_fates :
    let stats := (balancedEngine.after balancedRun).stats 60008
    let jobs := balancedEngine.jobs balancedRun
    start balancedSettings = .ok balancedEngine ∧ balancedRun.Fresh ∧ stats.sessions = balancedSessions ∧
      (stats.limits.allowed, stats.limits.rateLimited, stats.limits.bannedRejections) = (2, 1, 2) ∧
      (Session.Manager.empty balancedSettings.sessions).heldAtEnd jobs.sessions = 3 ∧
      (Limit.Limiter.empty balancedSettings.limits).newBans jobs.limits =
        [{ reason := "spam", bannedAt := 5, expiresAt := none, source := .admin },
          { reason := "2 rate-limit violations", bannedAt := 9, expiresAt := some 900009, source := .automatic }] ∧
      (balancedEngine.after balancedRun).state = (State.empty balancedSettings).run jobs ∧
      Balanced stats balancedSettings jobs := by
  intro stats jobs
  have hstart : start balancedSettings = .ok balancedEngine := start_eq_started balancedSettings_fault
  have hfresh : balancedRun.Fresh := ⟨by decide, by decide⟩
  exact ⟨hstart, hfresh, by decide +kernel, by decide +kernel, by decide +kernel, by decide +kernel,
    stats_balanced balancedSettings balancedEngine hstart balancedRun hfresh 60008⟩

end SiteEdit.Engine
