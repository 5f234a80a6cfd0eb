import SiteEdit.Proofs.Engine.Balance
import SiteEdit.Proofs.Limit.Times
import SiteEdit.Proofs.Session.Times
/-!
# Sums of times in the engine

The sums that an engine takes are those of its sessions and of its limiter.  If none of a run overflows, the sessions end
in range after it (`endsInRange_after`).  None does while the clock and the durations are small
(`staysInRange_of_isNear`).
-/
namespace SiteEdit

/-- Sessions, windows and bans for violations are short. -/
structure Settings.IsShort (s : Settings) : Prop where
  ttl : IsNear s.sessions.ttl
  limits : s.limits.IsShort

namespace Engine

variable {s : Settings} {e : Engine} {acts acts' : Actions}

/-- **No sum of a run overflows** 64 bits. -/
structure StaysInRange (e : Engine) (acts : Actions) : Prop where
  sessions : e.state.sessions.StaysInRange (e.jobs acts).sessions
  limiter : e.state.limiter.StaysInRange (e.jobs acts).limits

theorem jobs_append : ∀ (acts acts' : Actions) (e : Engine),
    e.jobs (acts ++ acts') = e.jobs acts ++ (e.after acts).jobs acts'
  | [], _, _ => rfl
  | (now, act) :: acts, acts', e => by
    rw [List.cons_append, jobs, jobs_append acts acts', jobs, List.append_assoc]
    rfl

theorem staysInRange_append :
    e.StaysInRange (acts ++ acts') ↔ e.StaysInRange acts ∧ (e.after acts).StaysInRange acts' := by
  have hsessions := Jobs.sessions_append (e.jobs acts) ((e.after acts).jobs acts')
  have hlimits := Jobs.limits_append (e.jobs acts) ((e.after acts).jobs acts')
  rw [← jobs_append] at hsessions hlimits
  have hstate := after_jobs acts e
  constructor
  · rintro ⟨hs, hl⟩
    rw [hsessions, Session.Manager.staysInRange_append, ← State.run_sessions, ← hstate] at hs
    rw [hlimits, Limit.Limiter.staysInRange_append, ← State.run_limiter, ← hstate] at hl
    exact ⟨⟨hs.1, hl.1⟩, hs.2, hl.2⟩
  · rintro ⟨⟨hs, hl⟩, hs', hl'⟩
    rw [hstate, State.run_sessions] at hs'
    rw [hstate, State.run_limiter] at hl'
    constructor
    · rw [hsessions]
      exact Session.Manager.staysInRange_append.2 ⟨hs, hs'⟩
    · rw [hlimits]
      exact Limit.Limiter.staysInRange_append.2 ⟨hl, hl'⟩

/-- If no sum of a run overflows, the sessions end in range after it. -/
theorem endsInRange_after (h : start s = .ok e) (hf : acts.Fresh) (hr : e.StaysInRange acts) :
    (e.after acts).state.sessions.EndsInRange := by
  have hbring := e.jobs_bring acts
  have hfree : (Session.Manager.empty s.sessions).Free (e.jobs acts).sessions :=
    Session.Manager.free_empty s.sessions ⟨hf.sessions.sublist hbring.sessions, hf.snapshots.sublist hbring.snapshots⟩
  have hsums := hr.sessions
  rw [(of_start h).2] at hsums
  rw [sessions_after h]
  exact .run _ nofun (Session.Manager.sound_empty _) hfree hsums

/-! ## Small times -/

/-- How long the ban lasts that an action places, unless it lasts for good. -/
def Action.duration? : Action → Option Millis
  | .ban _ _ secs => secs.map seconds
  | .limits act => act.duration?
  | _ => none

/-- How long the ban lasts that a job places, unless it lasts for good. -/
def Job.duration? (j : Job) : Option Millis := j.limits?.bind Limit.Action.duration?

/-- The jobs of an action have its time, and its ban if it places one. -/
theorem time_of_mem_jobsOf (e : Engine) (now : Millis) (act : Action) :
    ∀ j ∈ e.jobsOf now act, j.1 = now ∧ ∀ d ∈ j.2.duration?, d ∈ act.duration? := by
  have hproceed : ∀ (st : State) (fresh session text : String),
      ∀ j ∈ st.proceedJobs e.screen now fresh session text, j.1 = now ∧ j.2.duration? = none := by
    intro st fresh session text
    unfold State.proceedJobs
    split <;> simp [Job.duration?, Job.limits?, Limit.Action.duration?]
  cases act with
  | transform fresh r =>
    have hnone : ∀ j ∈ e.state.transformJobs e.screen now fresh r, j.1 = now ∧ j.2.duration? = none := by
      unfold State.transformJobs
      dsimp only
      split
      · simp [Job.duration?, Job.limits?, Limit.Action.duration?]
      · simp only [List.forall_mem_cons, List.forall_mem_append]
        refine ⟨⟨trivial, rfl⟩, ⟨trivial, rfl⟩, hproceed _ _ _ _, ?_⟩
        split
        · simp
        · split <;> simp [Job.duration?, Job.limits?]
    intro j hj
    obtain ⟨hnow, hd⟩ := hnone j hj
    exact ⟨hnow, by simp [hd]⟩
  | _ => simp [jobsOf, Job.duration?, Job.limits?, Action.duration?, Limit.Action.duration?]

theorem forall_mem_jobs {P : Millis → Job → Prop} {Q : Millis → Action → Prop}
    (h : ∀ (e : Engine) now act, Q now act → ∀ j ∈ e.jobsOf now act, P j.1 j.2) : ∀ (acts : Actions) (e : Engine),
      (∀ a ∈ acts, Q a.1 a.2) → ∀ j ∈ e.jobs acts, P j.1 j.2
  | [], _, _ => nofun
  | (now, act) :: acts, e, ha => by
    rw [List.forall_mem_cons] at ha
    rw [jobs, List.forall_mem_append]
    exact ⟨h e now act ha.1, forall_mem_jobs h acts _ ha.2⟩

theorem times_of_jobs {times : Millis → Prop} (acts : Actions) (e : Engine) (h : ∀ a ∈ acts, times a.1) :
    ∀ j ∈ e.jobs acts, times j.1 := by
  refine forall_mem_jobs (P := fun t _ => times t) (Q := fun t _ => times t) (fun e now act hnow j hj => ?_) acts e h
  rwa [(e.time_of_mem_jobsOf now act j hj).1]

theorem near_of_jobs (acts : Actions) (e : Engine)
    (h : ∀ a ∈ acts, IsNear a.1 ∧ ∀ d ∈ a.2.duration?, IsNear d) :
    ∀ j ∈ e.jobs acts, IsNear j.1 ∧ ∀ d ∈ j.2.duration?, IsNear d := by
  refine forall_mem_jobs (P := fun t j => IsNear t ∧ ∀ d ∈ j.duration?, IsNear d)
    (Q := fun t act => IsNear t ∧ ∀ d ∈ act.duration?, IsNear d) (fun e now act hact j hj => ?_) acts e h
  obtain ⟨hnow, hd⟩ := e.time_of_mem_jobsOf now act j hj
  rw [hnow]
  exact ⟨hact.1, fun d h => hact.2 d (hd d h)⟩

/-- **No sum overflows while the clock and the durations are small**, wherever the clock goes. -/
theorem staysInRange_of_isNear (h : start s = .ok e) (hs : s.IsShort)
    (ha : ∀ a ∈ acts, IsNear a.1 ∧ ∀ d ∈ a.2.duration?, IsNear d) : e.StaysInRange acts := by
  have hjobs := near_of_jobs acts e ha
  constructor
  · rw [(of_start h).2]
    exact Session.Manager.staysInRange_of_isNear _ nofun hs.ttl fun a ha => (hjobs _ (Jobs.mem_sessions_iff.1 ha)).1
  · rw [state_of_start h]
    exact Limit.Limiter.staysInRange_of_isNear _ (Limit.Limiter.dated_empty _ _) hs.limits fun a ha =>
      hjobs _ (Jobs.mem_limits_iff.1 ha)

end Engine

end SiteEdit
