import SiteEdit.Proofs.Engine.Bans
import SiteEdit.Proofs.Engine.Range
/-!
# Times that fit

Durations are cut off at the longest one, but they are added to times of the clock.  So settings that are accepted may
lead to times that do not fit in 64 bits; they do not if every duration leaves room for the clock, and for no other
settings (`times_fit_iff`).
-/
namespace SiteEdit

/-- What is kept of a time in 64 bits. -/
def wrapped (t : Int) : Int := t.toInt64.toInt

theorem inRange_iff (t : Int) : InRange t ↔ wrapped t = t := by
  have hword : ((2 ^ 64 : Nat) : Int) = 2 ^ 64 := by norm_num
  rw [wrapped, Int.toInt64, Int64.toInt_ofInt, Int.bmod_eq_iff (by decide), Int.sub_self]
  simp only [Int64.size, Int.dvd_zero, and_true, InRange]
  omega

/-- A duration of more seconds is not shorter. -/
theorem seconds_mono {n n' : UInt64} (h : n ≤ n') : seconds n ≤ seconds n' := by
  have hle : n.toNat ≤ n'.toNat := h
  exact min_le_min_right longestDuration (Int.mul_le_mul_of_nonneg_right (Int.ofNat_le.2 hle) (by decide))

/-- The last time of the clock that is asked about. -/
def latest : Int := 2 ^ 62

theorem latest_nonneg : 0 ≤ latest := by decide

/-- How long a duration may be that is added to such a time. -/
def room : Int := 2 ^ 63 - 1 - latest

namespace Settings

/-- Every duration that is ever added to a time is so short that the sum fits. -/
structure LeavesRoom (s : Settings) : Prop where
  ttl : s.sessions.ttl ≤ room
  window : ∀ d, (s.limits.ceiling d).IsPassable → (s.limits.ceiling d).window ≤ room
  ban : ∀ d, (s.limits.ceiling d).IsPassable → s.limits.banDuration ≤ room

end Settings

namespace Engine

open Limit (Limiter Key)

variable {s : Settings} {e : Engine}

/-- The times that are kept fit, and so do those on the way to the answer to a request past its ceiling. -/
structure State.TimesFit (st : State) : Prop where
  sessions : ∀ id entry, st.sessions.sessions.get? id = some entry → InRange entry.session.ttlAt
  bans : ∀ k b, st.limiter.bans.get? k = some b → b.source = .automatic → ∀ t ∈ b.expiresAt, InRange t
  windows : ∀ now key, 0 ≤ now → now ≤ latest → st.limiter.activeBan? now key = none →
    let ceiling := st.limiter.settings.ceiling key.dimension
    let r := st.limiter.nextRecord now key
    r.windowStart ≤ now → ceiling.maxRequests.toNat < r.count →
      InRange (r.windowStart + ceiling.window) ∧ InRange (r.windowStart + ceiling.window - now) ∧
        InRange (r.untilWindowEnd now ceiling.window + 999)

/-- No action is earlier than zero or later than `latest`. -/
def Actions.Within (acts : Actions) : Prop := ∀ a ∈ acts, 0 ≤ a.1 ∧ a.1 ≤ latest

/-! ## Times of a run -/

theorem dated_after (h : start s = .ok e) (times : Millis → Prop) {acts : Actions} (ht : ∀ a ∈ acts, times a.1) :
    (e.after acts).state.sessions.EndsAfter times ∧ (e.after acts).state.limiter.Dated times := by
  have hjobs := times_of_jobs acts e ht
  constructor
  · rw [sessions_after h]
    exact Session.Manager.EndsAfter.run _ nofun fun a ha => hjobs _ (Jobs.mem_sessions_iff.1 ha)
  · rw [limiter_after h]
    exact Limiter.Dated.run _ (Limiter.dated_empty _ _) fun a ha => hjobs _ (Jobs.mem_limits_iff.1 ha)

/-! ## Room for the clock -/

theorem inRange_add {t d : Int} (ht : 0 ≤ t ∧ t ≤ latest) (hd : 0 ≤ d) (hroom : d ≤ room) : InRange (t + d) := by
  unfold InRange room at *
  omega

theorem inRange_window {t now w : Int} (ht : 0 ≤ t ∧ t ≤ latest) (hpassed : t ≤ now) (hnow : now ≤ latest)
    (hw : 0 ≤ w) (hroom : w ≤ room) :
    InRange (t + w) ∧ InRange (t + w - now) ∧ InRange (max 0 (t + w - now) + 999) := by
  unfold InRange room latest at *
  omega

/-- If every duration leaves room for the clock, all times fit. -/
theorem timesFit_of_leavesRoom (h : start s = .ok e) (hs : s.LeavesRoom) {acts : Actions} (ha : acts.Within) :
    (e.after acts).state.TimesFit := by
  obtain ⟨hends, hdated⟩ := dated_after h (fun t => 0 ≤ t ∧ t ≤ latest) ha
  have hlimits := limits_after h acts
  have hsettings : (e.after acts).state.sessions.settings = s.sessions := by
    rw [sessions_after h, Session.Manager.run_settings]
    rfl
  refine ⟨fun id entry hentry => ?_, fun k b hb hsource t ht => ?_, fun now key hpos hlatest hfree => ?_⟩
  · obtain ⟨t, ht, hend⟩ := hends id entry hentry
    rw [hend, hsettings]
    exact inRange_add ht (seconds_nonneg _) hs.ttl
  · obtain ⟨u, d, hu, hd, hend⟩ := hdated.bans k b hb hsource
    rw [hlimits] at hd hend
    rw [hend] at ht
    rw [← Option.some.inj ht]
    exact inRange_add hu (seconds_nonneg _) (hs.ban d hd)
  · intro ceiling r hpassed hpast
    have hbegan : 0 ≤ r.windowStart ∧ r.windowStart ≤ latest := by
      rcases (e.after acts).state.limiter.windowStart_nextRecord now key with hw | ⟨r', hr', hw⟩
      · rw [hw]
        exact ⟨hpos, hlatest⟩
      · rw [hw]
        exact hdated.windows key r' hr'
    have hceiling : ceiling = s.limits.ceiling key.dimension := congrArg (·.ceiling key.dimension) hlimits
    have hpassable : (s.limits.ceiling key.dimension).IsPassable := hceiling ▸ Limiter.isPassable_of_exceeds hpast
    rw [hceiling]
    exact inRange_window hbegan hpassed hlatest (seconds_nonneg _) (hs.window key.dimension hpassable)

/-! ## No room for the clock -/

theorem after_limits : ∀ (acts : Limit.Actions) (e : Engine),
    (e.after (acts.map fun a => (a.1, .limits a.2))).state.limiter = e.state.limiter.run acts
  | [], _ => rfl
  | (now, act) :: acts, e => after_limits acts (e.perform now (.limits act)).1

theorem le_room {d : Int} (h : InRange (latest + d)) : d ≤ room := by
  unfold InRange room at *
  omega

/-- A session that is started at a time of the clock. -/
def startedAt (now : Millis) : Actions := [(now, .sessions (.createOrGet "a" none "192.0.2.1" "agent"))]

theorem within_startedAt {now : Millis} (h : 0 ≤ now ∧ now ≤ latest) : (startedAt now).Within :=
  List.forall_mem_singleton.2 h

theorem after_startedAt (h : start s = .ok e) (now : Millis) :
    ∃ entry, (e.after (startedAt now)).state.sessions.sessions.get? "a" = some entry ∧
      entry.session.ttlAt = now + s.sessions.ttl := by
  have hstored : (e.after (startedAt now)).state.sessions.sessions.get? "a" = some (.ofSession
      { id := "a"
        identity := identityHash "192.0.2.1" "agent"
        createdAt := now
        ttlAt := now + s.sessions.ttl
        quota := { requestCount := 1, transformCount := 0 } }) := by
    show (e.state.sessions.createOrGet now "a" none "192.0.2.1" "agent").state.sessions.get? "a" = _
    rw [state_of_start h]
    exact (Store.get?_insert _ _ _ _).trans (if_pos rfl)
  exact ⟨_, hstored, rfl⟩

theorem one_le_maxRequests (h : s.fault? = none) (d : Limit.Dimension) :
    1 ≤ (s.limits.ceiling d).maxRequests.toNat := by
  have hvoid : Settings.isVoid (s.limits.ceiling d) = false := has_eq_false h (.ceiling d)
  rw [Settings.isVoid, Bool.or_eq_false_iff] at hvoid
  exact Nat.one_le_iff_ne_zero.2 fun hz => ne_of_beq_false hvoid.1 (UInt32.toNat_inj.1 hz)

/-- A client that keeps asking at the last time of all. -/
theorem after_keepAsking (h : start s = .ok e) (key : Key) (n : Nat) :
    let acts : Actions := (Limiter.keepAsking latest key n).map fun a => (a.1, .limits a.2)
    acts.Within ∧ (e.after acts).state.limiter = (Limiter.empty s.limits).run (Limiter.keepAsking latest key n) := by
  constructor
  · intro a ha
    obtain ⟨b, hb, rfl⟩ := List.mem_map.1 ha
    rw [List.eq_of_mem_replicate hb]
    exact ⟨latest_nonneg, le_rfl⟩
  · rw [after_limits, state_of_start h]
    rfl

section Fitting

variable (h : start s = .ok e) (hfit : ∀ acts : Actions, acts.Within → (e.after acts).state.TimesFit)
  (d : Limit.Dimension)

include h hfit

theorem ttl_le_room : s.sessions.ttl ≤ room := by
  obtain ⟨entry, hentry, hend⟩ := after_startedAt h latest
  exact le_room (hend ▸ (hfit _ (within_startedAt ⟨latest_nonneg, le_rfl⟩)).sessions "a" entry hentry)

theorem window_le_room (hd : (s.limits.ceiling d).IsPassable) : (s.limits.ceiling d).window ≤ room := by
  have hfault := (of_start h).1
  obtain ⟨k, -, hfree, hpast⟩ := Limiter.exists_exceeds s.limits latest ⟨d, ""⟩ (window_pos hfault d)
    (one_le_maxRequests hfault d) hd
  obtain ⟨hwithin, hlimiter⟩ := after_keepAsking h ⟨d, ""⟩ k
  have hwindows := (hfit _ hwithin).windows latest ⟨d, ""⟩ latest_nonneg le_rfl
  rw [hlimiter] at hwindows
  -- There is no other time at which the window could have started.
  have hdated : ((Limiter.empty s.limits).run (Limiter.keepAsking latest ⟨d, ""⟩ k)).Dated (· = latest) :=
    .run _ (Limiter.dated_empty _ _) fun a ha => by rw [List.eq_of_mem_replicate ha]
  have hbegan : (((Limiter.empty s.limits).run (Limiter.keepAsking latest ⟨d, ""⟩ k)).nextRecord latest
      ⟨d, ""⟩).windowStart = latest := by
    rcases Limiter.windowStart_nextRecord _ latest ⟨d, ""⟩ with hw | ⟨r, hr, hw⟩
    · exact hw
    · exact hw.trans (hdated.windows _ r hr)
  have hrange := (hwindows hfree hbegan.le hpast).1
  rw [hbegan, Limiter.run_settings] at hrange
  exact le_room hrange

theorem ban_le_room (hd : (s.limits.ceiling d).IsPassable) : s.limits.banDuration ≤ room := by
  have hfault := (of_start h).1
  obtain ⟨k, hfree, hsome⟩ := Limiter.exists_provoked s.limits latest ⟨d, ""⟩ (window_pos hfault d)
    (one_le_maxRequests hfault d) hd
  obtain ⟨b, hb⟩ := Option.isSome_iff_exists.1 hsome
  obtain ⟨hwithin, hlimiter⟩ := after_keepAsking h ⟨d, ""⟩ (k + 1)
  generalize List.map _ (Limiter.keepAsking latest ⟨d, ""⟩ (k + 1)) = acts at hwithin hlimiter
  have hplaced : (e.after acts).state.limiter.bans.get? (Key.text ⟨d, ""⟩) = some b := by
    rw [hlimiter, Limiter.keepAsking, List.replicate_succ', Limiter.run_concat]
    exact (Limiter.check_bans_of_not_banned hfree _).trans ((if_pos rfl).trans hb)
  obtain ⟨hsource, hend⟩ := Limiter.provoked?_eq_some hb
  have hrange := (hfit _ hwithin).bans _ b hplaced hsource _ hend
  rw [Limiter.run_settings] at hrange
  exact le_room hrange

/-- If all times fit, every duration leaves room for the clock. -/
theorem leavesRoom_of_timesFit : s.LeavesRoom where
  ttl := ttl_le_room h hfit
  window := window_le_room h hfit
  ban := ban_le_room h hfit

end Fitting

/-- Among the durations that leave room, a longer one does not end before a shorter one, whatever 64 bits keep. -/
theorem wrapped_mono {n n' : UInt64} {now : Int} (hle : n ≤ n') (hroom : seconds n' ≤ room)
    (hnow : 0 ≤ now ∧ now ≤ latest) : wrapped (now + seconds n) ≤ wrapped (now + seconds n') := by
  have hmono := seconds_mono hle
  rw [(inRange_iff _).1 (inRange_add hnow (seconds_nonneg n) (hmono.trans hroom)),
    (inRange_iff _).1 (inRange_add hnow (seconds_nonneg n') hroom)]
  exact Int.add_le_add_left hmono now

/-- **All times fit if every duration leaves room for the clock, and for no other settings.**  In every run of an engine
up to the last time, the times at which sessions and bans for violations end are in range, and so are the sums on the
way to the time that a request past its ceiling is told to wait.  Among the durations that leave room, a longer one does
not end earlier. -/
theorem times_fit_iff (s : Settings) (e : Engine) (hstart : start s = .ok e) :
    ((∀ acts : Actions, acts.Within → (e.after acts).state.TimesFit) ↔ s.LeavesRoom) ∧
      ∀ (n n' : UInt64) (now : Int), n ≤ n' → seconds n' ≤ room → 0 ≤ now ∧ now ≤ latest →
        wrapped (now + seconds n) ≤ wrapped (now + seconds n') :=
  ⟨⟨leavesRoom_of_timesFit hstart, fun hs _ ha => timesFit_of_leavesRoom hstart hs ha⟩,
    fun _ _ _ hle hroom hnow => wrapped_mono hle hroom hnow⟩

/-- With the built-in settings a session ends in range, when it starts at the last time of all. -/
theorem times_fit_builtin :
    ∃ e, start {} = .ok e ∧ (e.after (startedAt latest)).state.TimesFit ∧
      wrapped (latest + seconds 60) ≤ wrapped (latest + seconds 3600) := by
  obtain ⟨e, he⟩ := exists_start (s := {}) (by decide)
  obtain ⟨hfit, hmono⟩ := times_fit_iff {} e he
  have hroom : ({} : Settings).LeavesRoom := {
    ttl := by decide
    window := fun d _ => by cases d <;> decide
    ban := fun _ _ => by decide }
  exact ⟨e, he, hfit.2 hroom _ (within_startedAt ⟨latest_nonneg, le_rfl⟩),
    hmono 60 3600 latest (by decide) (by decide) ⟨latest_nonneg, le_rfl⟩⟩

/-- A session that may last for as many seconds as can be said is accepted.  Started at the first tick of the clock, it
ends out of range, and in 64 bits before one that may last for a second. -/
theorem session_ends_out_of_range :
    ∃ e, start { sessions := { ttlSecs := 18446744073709551615 } } = .ok e ∧
      (startedAt 1).Within ∧ ¬ (e.after (startedAt 1)).state.TimesFit ∧
        wrapped (1 + seconds 18446744073709551615) < wrapped (1 + seconds 1) := by
  obtain ⟨e, he⟩ := exists_start (s := { sessions := { ttlSecs := 18446744073709551615 } }) (by decide)
  refine ⟨e, he, within_startedAt ⟨by decide, by decide⟩, fun hfit => ?_, by decide⟩
  obtain ⟨entry, hentry, hend⟩ := after_startedAt he 1
  have hrange := hfit.sessions "a" entry hentry
  rw [hend] at hrange
  exact absurd hrange (by decide)

end Engine

end SiteEdit
