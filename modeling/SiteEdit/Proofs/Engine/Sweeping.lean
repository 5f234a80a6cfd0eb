import SiteEdit.Proofs.Engine.Bans
import SiteEdit.Proofs.Limit.Eviction
import SiteEdit.Proofs.Session.Overdue
/-!
# What a sweep does to an engine

A sweep drops what is over at its time: sessions with their snapshots, bans, and the records of keys that have not been
seen for long.  It touches nothing else (`Drops`), and when it is done there is nothing left for another sweep at the
same time (`sweep_again`).  So a sweeper may come as often as it likes (`sweepTimes_succ`).
-/
namespace SiteEdit.Engine

open Limit (Limiter Key)

/-- **What is over goes, and nothing else.**  A session is kept before its time is over, a snapshot with its session, a
ban before it ends, and a record as long as its key was last seen less than the idle time and less than a window of its
dimension ago.  The summary counts what goes. -/
structure Drops (s s' : State) (now : Millis) (summary : SweepSummary) : Prop where
  sessions : s'.sessions.sessions = s.sessions.sessions.filter fun _ e => decide (now < e.session.ttlAt)
  snapshots : s'.sessions.snapshots = s.sessions.snapshots.filter fun _ t =>
    (s.sessions.sessions.get? t.sessionId).all fun e => decide (now < e.session.ttlAt)
  bans : s'.limiter.bans = s.limiter.bans.filter fun _ b => b.expiresAt.all fun t => decide (now < t)
  records : ∀ k r, s'.limiter.records.get? k = some r ↔
    s.limiter.records.get? k = some r ∧ ∃ key : Key, key.text = k ∧ now - r.lastSeen <
      max (seconds s.limiter.settings.idleRecordTtlSecs) (s.limiter.settings.ceiling key.dimension).window
  rest : s' =
    { limiter := { s.limiter with bans := s'.limiter.bans, records := s'.limiter.records }
      sessions :=
        { s.sessions with
          sessions := s'.sessions.sessions
          snapshots := s'.sessions.snapshots
          expired := s.sessions.expired + summary.sessionsExpired } }
  sessionsExpired : summary.sessionsExpired + s'.sessions.sessions.size = s.sessions.sessions.size
  expiredBans : summary.limits.expiredBans + s'.limiter.bans.size = s.limiter.bans.size
  idleRecords : summary.limits.idleRecords + s'.limiter.records.size = s.limiter.records.size

/-- The summary of a sweep that finds nothing. -/
def SweepSummary.idle : SweepSummary := { sessionsExpired := 0, limits := { expiredBans := 0, idleRecords := 0 } }

/-- The events of a sweep: one for each session that goes, with the number of its snapshots, and one for each ban. -/
def expiries (s : State) (now : Millis) : List Audit.Event :=
  let sessions := s.sessions.sessions.filter fun _ e => decide (e.session.ttlAt ≤ now)
  let bans := s.limiter.bans.filter fun _ b => b.expiresAt.any fun t => decide (t ≤ now)
  sessions.entries.map (fun p => s.sessions.expiry p.1) ++ bans.entries.map fun p => p.2.expiry p.1 none

namespace State

variable {s : State}

theorem sweep_eq (s : State) (now : Millis) : s.sweep now =
    { result := { sessionsExpired := (s.sessions.sweep now).result, limits := (s.limiter.sweep now).result }
      state := { limiter := (s.limiter.sweep now).state, sessions := (s.sessions.sweep now).state }
      events := (s.sessions.sweep now).events ++ (s.limiter.sweep now).events } := rfl

theorem drops_sweep (h : s.limiter.Keyed) (now : Millis) : Drops s (s.sweep now).state now (s.sweep now).result := by
  have hsessions : (s.sweep now).state.sessions = _ := s.sessions.sweep_state now
  obtain ⟨hbans, hrecords⟩ := s.limiter.sweep_result now
  constructor
  case sessions => rw [hsessions]
  case snapshots => rw [hsessions]
  case bans => exact s.limiter.sweep_bans now
  case records =>
    intro k r
    show (s.limiter.records.filter (s.limiter.keeps now)).get? k = some r ↔ _
    rw [Store.get?_filter, Option.filter_eq_some_iff]
    refine and_congr_right fun hr => ⟨fun hk => ?_, ?_⟩
    · obtain ⟨key, rfl⟩ := h.exists_of_record hr
      exact ⟨key, rfl, (s.limiter.keeps_text now key r).1 hk⟩
    · rintro ⟨key, rfl, hk⟩
      exact (s.limiter.keeps_text now key r).2 hk
  case rest =>
    refine congrArg₂ State.mk rfl ?_
    show (s.sweep now).state.sessions = _
    rw [hsessions]
    rfl
  case sessionsExpired => exact s.sessions.sweep_result now
  case expiredBans => exact hbans
  case idleRecords => exact hrecords

theorem sweep_events (s : State) (now : Millis) : (s.sweep now).events.Perm (expiries s now) :=
  (s.sessions.sweep_events now).append (s.limiter.sweep_events_perm now)

theorem sweep_sweep (s : State) (now : Millis) :
    (s.sweep now).state.sweep now = { result := .idle, state := (s.sweep now).state } := by
  -- what each part keeps passes its test again
  have hsessions : (s.sessions.sweep now).state.sweep now = { result := 0, state := (s.sessions.sweep now).state } := by
    refine Session.Manager.sweep_of_live fun id e he => ?_
    rw [Session.Manager.sweep_state, Store.get?_filter, Option.filter_eq_some_iff] at he
    exact of_decide_eq_true he.2
  have hlimiter : (s.limiter.sweep now).state.sweep now =
      { result := { expiredBans := 0, idleRecords := 0 }, state := (s.limiter.sweep now).state } := by
    refine Limiter.sweep_of_current (fun k b hb => ?_) fun k r hr => ?_
    · exact (Option.filter_eq_some_iff.1 ((Store.get?_filter _ _ _).symm.trans hb)).2
    · exact (Option.filter_eq_some_iff.1 ((Store.get?_filter _ _ _).symm.trans hr)).2
  rw [sweep_eq, sweep_eq]
  dsimp only
  rw [hsessions, hlimiter]
  rfl

end State

theorem sweep_again (e : Engine) (now : Millis) : (e.sweep now).1.sweep now = ((e.sweep now).1, .idle) := by
  have hagain := e.state.sweep_sweep now
  unfold sweep run
  dsimp only
  rw [hagain]
  rfl

/-- While the clock stands still, all sweeps but the first are idle. -/
theorem sweepTimes_succ (now : Millis) : ∀ (n : Nat) (e : Engine), e.sweepTimes now (n + 1) = (e.sweep now).1
  | 0, _ => rfl
  | n + 1, e => by
    rw [sweepTimes, sweepTimes_succ now n, sweep_again]

/-- **A sweep is complete, precise and idempotent.**  After every run of an engine a sweep drops what is over at its
time and nothing else, and counts it.  It records one event for each session and each ban that goes, and no other.  A
second sweep at the same time changes nothing, records nothing and counts nothing. -/
theorem sweep_exact (s : Settings) (e : Engine) (hstart : start s = .ok e) (acts : Actions) (now : Millis) :
    let before := e.after acts
    let swept := before.sweep now
    Drops before.state swept.1.state now swept.2 ∧
      (∃ events : List Audit.Event, events.Perm (expiries before.state now) ∧
        swept.1 = { before with state := swept.1.state, log := before.log.recordAll now events }) ∧
      swept.1.sweep now = (swept.1, .idle) := by
  intro before swept
  have hdrops : Drops before.state swept.1.state now swept.2 := State.drops_sweep (keyed_after hstart acts) now
  exact ⟨hdrops, ⟨_, before.state.sweep_events now, rfl⟩, before.sweep_again now⟩

/-- Records of addresses are kept for ten seconds, those of sessions for a hundred. -/
def sweptSettings : Settings :=
  { sessions := { ttlSecs := 60 }
    limits := { idleRecordTtlSecs := 1, ip := { maxRequests := 5, windowSecs := 10 },
                session := { maxRequests := 5, windowSecs := 100 } } }

/-- Of two sessions with a snapshot, of two bans and of two records, one is over after a minute. -/
def sweptRun : Actions :=
  [(0, .sessions (.createOrGet "a" none "192.0.2.1" "agent")),
    (0, .sessions (.createSnapshot "u" "a" (.ofChanges []) none)), (0, .ban (.ip "192.0.2.2") "abuse" (some 60)),
    (0, .ban (.session "c") "abuse" none), (0, .limits (.check (.ip "192.0.2.1"))),
    (0, .limits (.check (.session "a"))), (1, .sessions (.createOrGet "b" none "192.0.2.1" "agent")),
    (1, .sessions (.createSnapshot "v" "b" (.ofChanges []) none))]

theorem sweep_exact_minute :
    let e := started sweptSettings (by decide)
    let swept := (e.after sweptRun).sweep 60000
    start sweptSettings = .ok e ∧ swept.2.sessionsExpired = 1 ∧ swept.2.limits.expiredBans = 1 ∧
      swept.2.limits.idleRecords = 1 ∧ swept.1.state.sessions.snapshots.entries.map Prod.fst = ["v"] ∧
      swept.1.sweep 60000 = (swept.1, .idle) := by
  intro e swept
  have hstart : start sweptSettings = .ok e := start_eq_started _
  obtain ⟨hdrops, -, hagain⟩ : Drops (e.after sweptRun).state swept.1.state 60000 swept.2 ∧ _ ∧ _ :=
    sweep_exact sweptSettings e hstart sweptRun 60000
  have hstored : (e.after sweptRun).state.sessions.sessions.size = 2 ∧ (e.after sweptRun).state.limiter.bans.size = 2 ∧
      (e.after sweptRun).state.limiter.records.size = 2 := by decide +kernel
  have hsessions : swept.1.state.sessions.sessions.size = 1 := by
    rw [hdrops.sessions]
    decide +kernel
  have hsnapshots : swept.1.state.sessions.snapshots.entries.map Prod.fst = ["v"] := by
    rw [hdrops.snapshots]
    decide +kernel
  have hkept : swept.1.state.limiter.bans.size = 1 ∧ swept.1.state.limiter.records.size = 1 := by decide +kernel
  have hexpired := hdrops.sessionsExpired
  have hended := hdrops.expiredBans
  have hidle := hdrops.idleRecords
  exact ⟨hstart, by omega, by omega, by omega, hsnapshots, hagain⟩

end SiteEdit.Engine
