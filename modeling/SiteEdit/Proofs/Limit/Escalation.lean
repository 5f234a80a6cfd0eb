import SiteEdit.Proofs.Limit.Balance
import SiteEdit.Proofs.Limit.Range
import SiteEdit.Proofs.Limit.Sweeping
import Mathlib.Data.List.DropRight
/-!
# When violations lead to a ban

The violations of a key are its requests past the ceiling since they were last cleared: by the ban that they led to, by a
reset, or by a sweep that dropped the record.  The record holds their number, windows and other bans do not change it, and
the request that makes it the threshold is answered by a ban (`banned_at_threshold`).
-/
namespace SiteEdit.Limit

/-- Whether a request is refused as one too many. -/
def Decision.isRateLimited : Decision → Bool
  | .deny { kind := .rateLimited _ _, .. } => true
  | _ => false

/-- One turn of a run: an action, its time, and the limiter before it. -/
structure Turn where
  before : Limiter
  time : Millis
  action : Action

namespace Turn

variable {key : Key} {x : Turn}

/-- The limiter after a turn. -/
def after (x : Turn) : Limiter := (x.before.perform x.time x.action).state

/-- A request of a key that is counted and past the ceiling. -/
def Exceeds (key : Key) (x : Turn) : Prop :=
  x.action = .check key ∧ x.before.activeBan? x.time key = none ∧
    (x.before.settings.ceiling key.dimension).maxRequests.toNat < (x.before.nextRecord x.time key).count

/-- A request of a key that is refused as one too many. -/
def RateLimits (key : Key) (x : Turn) : Prop :=
  x.action = .check key ∧ (x.before.check x.time key).result.isRateLimited = true

/-- The violations of a key are cleared: they lead to a ban, the key is reset, or a sweep drops its record. -/
def Clears (key : Key) (x : Turn) : Prop :=
  x.action = .check key ∧ (x.before.newBan? x.time (.check key)).any (fun b => b.source = .automatic) = true ∨
    x.action = .reset key ∨
    x.action = .sweep ∧ x.before.record? key ≠ none ∧ x.after.record? key = none

instance : Decidable (Exceeds key x) := inferInstanceAs (Decidable (_ ∧ _ ∧ _))

instance : Decidable (RateLimits key x) := inferInstanceAs (Decidable (_ ∧ _))

instance : Decidable (Clears key x) := inferInstanceAs (Decidable (_ ∨ _ ∨ _))

/-- The turns after the last one that cleared the violations of a key. -/
def sinceCleared (key : Key) (xs : List Turn) : List Turn := xs.rtakeWhile fun x => ¬ x.Clears key

theorem not_clears_of_mem {xs : List Turn} (h : x ∈ sinceCleared key xs) : ¬ x.Clears key :=
  of_decide_eq_true (List.mem_rtakeWhile_imp (p := fun x => decide (¬ Clears key x)) h)

end Turn

namespace Limiter

variable {l : Limiter} {now : Millis} {key : Key} {act : Action} {b : Ban}

/-- The violations that are stored of a key. -/
def violations (l : Limiter) (key : Key) : Nat := (l.record? key).elim 0 Record.violations

theorem violations_of_record? {r : Record} (h : l.record? key = some r) : l.violations key = r.violations := by
  rw [violations, h]
  rfl

/-- The turns of a run. -/
def turns (l : Limiter) : Actions → List Turn
  | [] => []
  | (now, act) :: acts => ⟨l, now, act⟩ :: (l.perform now act).state.turns acts

theorem run_concat (now : Millis) (act : Action) : ∀ (acts : Actions) (l : Limiter),
    l.run (acts ++ [(now, act)]) = ((l.run acts).perform now act).state
  | [], _ => rfl
  | (t, a) :: acts, l => run_concat now act acts (l.perform t a).state

theorem turns_concat (now : Millis) (act : Action) : ∀ (acts : Actions) (l : Limiter),
    l.turns (acts ++ [(now, act)]) = l.turns acts ++ [⟨l.run acts, now, act⟩]
  | [], _ => rfl
  | (t, a) :: acts, l => by
    rw [List.cons_append, turns, turns_concat now act acts]
    rfl

/-! ## Requests past the ceiling -/

/-- A request carries the violations over, into a new window too. -/
theorem nextRecord_violations (l : Limiter) (now : Millis) (key : Key) :
    (l.nextRecord now key).violations = l.violations key := by
  unfold nextRecord violations Record.next
  cases l.record? key with
  | none => rfl
  | some r =>
    dsimp only [Option.elim]
    unfold Record.hit
    split <;> rfl

theorem record?_check (h : l.activeBan? now key = none) :
    (l.check now key).state.record? key = some (l.settled now key) :=
  (check_records_of_not_banned h key.text).trans (if_pos rfl)

theorem newBan?_check (h : l.activeBan? now key = none) : l.newBan? now (.check key) = l.provoked? now key := by
  have hban : l.newBan? now (.check key) =
      if (l.activeBan? now key).isSome then none else (l.check now key).state.bans.get? key.text := rfl
  rw [hban, h, Option.isSome_none, if_neg Bool.false_ne_true, check_bans_of_not_banned h, if_pos rfl]

/-- The ban that violations lead to. -/
theorem provoked?_eq_some (h : l.provoked? now key = some b) :
    b.source = .automatic ∧ b.expiresAt = some (now + l.settings.banDuration) := by
  unfold provoked? at h
  dsimp only at h
  split_ifs at h
  obtain rfl := Option.some.inj h
  exact ⟨rfl, rfl⟩

/-- A request past the ceiling is answered by a ban exactly if it makes the violations the threshold. -/
theorem provoked?_isSome_iff (h : Turn.Exceeds key ⟨l, now, .check key⟩) :
    (l.provoked? now key).isSome ↔ l.settings.banThreshold.toNat ≤ countUp (l.violations key) := by
  have hviolate : (l.nextRecord now key).violate.violations = countUp (l.violations key) :=
    congrArg countUp (l.nextRecord_violations now key)
  unfold provoked?
  dsimp only
  rw [hviolate]
  by_cases hv : l.settings.banThreshold.toNat ≤ countUp (l.violations key)
  · rw [if_pos ⟨h.2.2, hv⟩]
    simp [hv]
  · rw [if_neg fun hp => hv hp.2]
    simp [hv]

theorem clears_check_iff (h : l.activeBan? now key = none) :
    Turn.Clears key ⟨l, now, .check key⟩ ↔ (l.provoked? now key).isSome := by
  unfold Turn.Clears
  dsimp only
  rw [newBan?_check h]
  cases hp : l.provoked? now key with
  | none => simp
  | some b => simp [(provoked?_eq_some hp).1]

theorem countUp_of_lt {n : Nat} {threshold : UInt32} (h : n < threshold.toNat) : countUp n = n + 1 := by
  have hlt : threshold.toNat < 4294967296 := threshold.toNat_lt
  unfold countUp maxCount
  omega

/-- A request past the ceiling that leads to no ban is refused and counted as a violation. -/
theorem check_of_violation (h : Turn.Exceeds key ⟨l, now, .check key⟩) (hp : l.provoked? now key = none) :
    (∃ retryAfter reason, (l.check now key).result =
        .deny { key := key.text, kind := .rateLimited key.dimension retryAfter, reason := reason }) ∧
      (l.check now key).state.violations key = countUp (l.violations key) := by
  obtain ⟨-, hb, hc⟩ := h
  have hv : ¬ l.settings.banThreshold.toNat ≤ (l.nextRecord now key).violate.violations := by
    intro hv
    unfold provoked? at hp
    rw [if_pos ⟨hc, hv⟩] at hp
    cases hp
  refine ⟨?_, ?_⟩
  · rw [check_result_of_not_banned hb, count_of_exceeded hc]
    dsimp only
    rw [if_neg hv]
    exact ⟨_, _, rfl⟩
  · rw [violations_of_record? (record?_check hb), settled, ← nextRecord_violations]
    dsimp only
    rw [if_pos hc, if_neg hv]
    rfl

/-- A request that is answered by a ban for violations clears them. -/
theorem check_of_provoked (hb : l.activeBan? now key = none) (hp : l.provoked? now key = some b) :
    (l.check now key).result = bannedDecision key b ∧ (l.check now key).state.violations key = 0 := by
  refine ⟨(check_result_of_not_banned hb).trans (count_of_provoked hp).1, ?_⟩
  rw [violations_of_record? (record?_check hb), settled]
  unfold provoked? at hp
  dsimp only at hp ⊢
  split_ifs at hp with h
  rw [if_pos h.1, if_pos h.2]

/-- The requests that are refused as one too many are those past the ceiling that do not clear the violations. -/
theorem rateLimits_iff {x : Turn} : x.RateLimits key ↔ x.Exceeds key ∧ ¬ x.Clears key := by
  obtain ⟨l, now, act⟩ := x
  constructor
  · rintro ⟨rfl, hlimited⟩
    dsimp only at hlimited ⊢
    cases hb : l.activeBan? now key with
    | some ban =>
      rw [check_of_banned hb] at hlimited
      cases hlimited
    | none =>
      cases hp : l.provoked? now key with
      | some ban =>
        rw [(check_of_provoked hb hp).1] at hlimited
        cases hlimited
      | none =>
        refine ⟨⟨rfl, hb, Nat.not_le.1 fun hc => ?_⟩, by rw [clears_check_iff hb, hp]; simp⟩
        rw [check_result_of_not_banned hb, count_of_within hc] at hlimited
        cases hlimited
  · rintro ⟨⟨rfl, hb, hc⟩, hclears⟩
    have hp : l.provoked? now key = none := by
      rwa [clears_check_iff hb, Bool.not_eq_true, Option.isSome_eq_false_iff, Option.isNone_iff_eq_none] at hclears
    obtain ⟨⟨retryAfter, reason, hresult⟩, -⟩ := check_of_violation ⟨rfl, hb, hc⟩ hp
    exact ⟨rfl, congrArg Decision.isRateLimited hresult⟩

/-! ## At the threshold -/

/-- A request past the ceiling that keeps the violations below the threshold is refused as one too many. -/
theorem check_below_threshold (h : Turn.Exceeds key ⟨l, now, .check key⟩)
    (hn : l.violations key + 1 < l.settings.banThreshold.toNat) :
    (∃ retryAfter reason, (l.check now key).result =
      .deny { key := key.text, kind := .rateLimited key.dimension retryAfter, reason := reason }) ∧
    (l.check now key).state.bansCreated = l.bansCreated ∧
    ∀ k, (l.check now key).state.bans.get? k = if k = key.text then none else l.bans.get? k := by
  have hp : l.provoked? now key = none := by
    rw [← Option.not_isSome_iff_eq_none, provoked?_isSome_iff h, countUp_of_lt (Nat.lt_of_succ_lt hn)]
    exact Nat.not_le.2 hn
  have hplaced := (l.check_balances now key).bans
  rw [newBan?_check h.2.1, hp] at hplaced
  have hbans := check_bans_of_not_banned h.2.1
  rw [hp] at hbans
  exact ⟨(check_of_violation h hp).1, hplaced, hbans⟩

/-- A request past the ceiling that makes the violations the threshold is answered by the one ban that it places. -/
theorem check_at_threshold (h : Turn.Exceeds key ⟨l, now, .check key⟩)
    (hn : l.violations key + 1 = l.settings.banThreshold.toNat) (hrange : l.StaysInRange [(now, .check key)]) :
    ∃ b : Ban, b.source = .automatic ∧ b.expiresAt = some (now + l.settings.banDuration) ∧
      InRange (now + l.settings.banDuration) ∧ (l.check now key).result = bannedDecision key b ∧
      (l.check now key).state.bansCreated = l.bansCreated + 1 ∧
      ∀ k, (l.check now key).state.bans.get? k = if k = key.text then some b else l.bans.get? k := by
  have hsome : (l.provoked? now key).isSome := by
    rw [provoked?_isSome_iff h, countUp_of_lt (Nat.lt_of_succ_le hn.le)]
    exact hn.ge
  obtain ⟨b, hp⟩ := Option.isSome_iff_exists.1 hsome
  obtain ⟨hsource, hends⟩ := provoked?_eq_some hp
  have hplaced := (l.check_balances now key).bans
  rw [newBan?_check h.2.1, hp] at hplaced
  have hbans := check_bans_of_not_banned h.2.1
  rw [hp] at hbans
  exact ⟨b, hsource, hends, inRange_ban hrange h.2.1 hp, (check_of_provoked h.2.1 hp).1,
    by simpa [bansBy, hsource] using hplaced, hbans⟩

/-! ## Other actions -/

/-- An action that is no request past the ceiling and drops no record leaves the violations as they are. -/
theorem violations_of_not_exceeds (he : ¬ Turn.Exceeds key ⟨l, now, act⟩)
    (hkept : (l.perform now act).state.record? key = none → l.record? key = none) :
    (l.perform now act).state.violations key = l.violations key := by
  by_cases hcounts : l.Counts now key act
  · obtain ⟨rfl, hb⟩ := hcounts
    have hc : ¬ (l.settings.ceiling key.dimension).maxRequests.toNat < (l.nextRecord now key).count :=
      fun hc => he ⟨rfl, hb, hc⟩
    show (l.check now key).state.violations key = l.violations key
    rw [violations_of_record? (record?_check hb), settled]
    rw [if_neg hc, nextRecord_violations]
  · unfold violations
    rcases record?_of_not_counts hcounts with hs | ⟨hn, -⟩
    · rw [hs]
    · rw [hn, hkept hn]

theorem violations_of_clears (h : Turn.Clears key ⟨l, now, act⟩) : (l.perform now act).state.violations key = 0 := by
  rcases h with ⟨rfl, hban⟩ | rfl | ⟨-, -, hn⟩
  · cases hb : l.activeBan? now key with
    | some ban =>
      have hnone : l.newBan? now (.check key) = none := if_pos (by rw [hb]; rfl)
      rw [hnone] at hban
      cases hban
    | none =>
      rw [newBan?_check hb] at hban
      obtain ⟨ban, hp, -⟩ := (Option.any_eq_true _ _).1 hban
      exact (check_of_provoked hb hp).2
  · have hn : (l.reset key).record? key = none := (Store.get?_erase _ _ _).trans (if_pos rfl)
    show (l.reset key).violations key = 0
    rw [violations, hn]
    rfl
  · have hn : (l.perform now act).state.record? key = none := hn
    rw [violations, hn]
    rfl

/-- A record is dropped by a reset or a sweep. -/
theorem record?_of_dropped (hn : (l.perform now act).state.record? key = none) :
    l.record? key = none ∨ act = .reset key ∨ act = .sweep := by
  by_cases hcounts : l.Counts now key act
  · obtain ⟨rfl, hb⟩ := hcounts
    cases (record?_check hb).symm.trans hn
  · rcases record?_of_not_counts hcounts with hs | ⟨-, hreset | ⟨hsweep, -⟩⟩
    · exact .inl (hs.symm.trans hn)
    · exact .inr (.inl hreset)
    · exact .inr (.inr hsweep)

theorem violations_of_not_clears (he : ¬ Turn.Exceeds key ⟨l, now, act⟩) (hclears : ¬ Turn.Clears key ⟨l, now, act⟩) :
    (l.perform now act).state.violations key = l.violations key := by
  refine violations_of_not_exceeds he fun hn => ?_
  rcases record?_of_dropped hn with hnone | hreset | hsweep
  · exact hnone
  · exact absurd (.inr (.inl hreset)) hclears
  · by_contra hsome
    exact hclears (.inr (.inr ⟨hsweep, hsome, hn⟩))

/-- Requests that are allowed or refused by a ban leave the violations as they are, and so does all that drops no
record. -/
theorem violations_kept
    (hcheck : act = .check key → (l.check now key).result.isAllowed = true ∨ l.activeBan? now key ≠ none)
    (hreset : act ≠ .reset key)
    (hsweep : act = .sweep → l.record? key ≠ none → (l.sweep now).state.record? key ≠ none) :
    (l.perform now act).state.violations key = l.violations key := by
  refine violations_of_not_exceeds (fun he => ?_) fun hn => ?_
  · rcases hcheck he.1 with hallowed | hbanned
    · rw [(check_of_not_banned he.2.1).1] at hallowed
      exact Nat.not_le.2 he.2.2 (of_decide_eq_true hallowed)
    · exact hbanned he.2.1
  · rcases record?_of_dropped hn with hnone | rfl | rfl
    · exact hnone
    · exact absurd rfl hreset
    · by_contra hsome
      exact hsweep rfl hsome hn

/-! ## Runs -/

/-- The violations that are stored are the requests past the ceiling since they were last cleared. -/
theorem violations_run (s : Settings) (key : Key) (ht : 1 ≤ s.banThreshold.toNat) (acts : Actions) :
    ((empty s).run acts).violations key =
        (Turn.sinceCleared key ((empty s).turns acts)).countP (fun x => x.Exceeds key) ∧
      ((empty s).run acts).violations key < s.banThreshold.toNat := by
  induction acts using List.reverseRecOn with
  | nil => exact ⟨rfl, ht⟩
  | append_singleton acts a ih =>
    obtain ⟨now, act⟩ := a
    have hthreshold : ((empty s).run acts).settings.banThreshold = s.banThreshold :=
      congrArg Settings.banThreshold (run_settings acts (empty s))
    rw [run_concat, turns_concat, Turn.sinceCleared]
    generalize (empty s).run acts = l at *
    -- The last turn clears the violations, is one of them, or leaves them.
    by_cases hclears : Turn.Clears key ⟨l, now, act⟩
    · rw [List.rtakeWhile_concat_neg _ _ _ (by simpa using hclears), violations_of_clears hclears]
      exact ⟨rfl, ht⟩
    · rw [List.rtakeWhile_concat_pos _ _ _ (by simpa using hclears), List.countP_append, List.countP_singleton]
      by_cases hexceeds : Turn.Exceeds key ⟨l, now, act⟩
      · obtain rfl : act = .check key := hexceeds.1
        have hp : l.provoked? now key = none := by
          rwa [clears_check_iff hexceeds.2.1, Bool.not_eq_true, Option.isSome_eq_false_iff,
            Option.isNone_iff_eq_none] at hclears
        have hbelow := (provoked?_isSome_iff hexceeds).not.1 (by simp [hp])
        have hviolations : (l.check now key).state.violations key = _ := (check_of_violation hexceeds hp).2
        rw [hthreshold, countUp_of_lt ih.2] at hbelow
        rw [countUp_of_lt ih.2] at hviolations
        rw [if_pos (by simpa using hexceeds)]
        exact ⟨hviolations.trans (congrArg (· + 1) ih.1), hviolations.trans_lt (Nat.not_le.1 hbelow)⟩
      · rw [if_neg (by simpa using hexceeds), violations_of_not_clears hexceeds hclears]
        exact ih

/-- **The threshold is exact.**  Between the requests of a run, at whatever times, the violations that are stored of a key
are its requests past the ceiling since its violations were last cleared, all of them refused as one too many, and fewer
than the threshold.  The next request past the ceiling is refused in the same way, or, if it makes them the threshold, it
is answered by a ban for the duration of bans, which is all that it places.  The time when the ban ends is a sum, exact
and in range as long as no sum of the run overflows.  Nothing else changes the violations: neither requests that are
allowed, in a new window or not, nor requests that a ban refuses, nor bans that are placed, lifted or ended. -/
theorem banned_at_threshold (s : Settings) (key : Key) (acts : Actions) (ht : 1 ≤ s.banThreshold.toNat) :
    let l := (empty s).run acts
    let since := Turn.sinceCleared key ((empty s).turns acts)
    let n := since.countP fun x => x.Exceeds key
    (l.violations key = n ∧ (since.countP fun x => x.RateLimits key) = n ∧ n < s.banThreshold.toNat) ∧
      (∀ now, Turn.Exceeds key ⟨l, now, .check key⟩ →
        (n + 1 < s.banThreshold.toNat →
          (∃ retryAfter reason, (l.check now key).result =
            .deny { key := key.text, kind := .rateLimited key.dimension retryAfter, reason := reason }) ∧
          (l.check now key).state.bansCreated = l.bansCreated ∧
          ∀ k, (l.check now key).state.bans.get? k = if k = key.text then none else l.bans.get? k) ∧
        (n + 1 = s.banThreshold.toNat → (empty s).StaysInRange (acts ++ [(now, .check key)]) →
          ∃ b : Ban, b.source = .automatic ∧ b.expiresAt = some (now + s.banDuration) ∧
            InRange (now + s.banDuration) ∧
            (l.check now key).result = .deny { key := key.text, kind := .banned b.expiresAt, reason := b.message } ∧
            (l.check now key).state.bansCreated = l.bansCreated + 1 ∧
            ∀ k, (l.check now key).state.bans.get? k = if k = key.text then some b else l.bans.get? k)) ∧
      ∀ now act, (act = .check key → (l.check now key).result.isAllowed = true ∨ l.activeBan? now key ≠ none) →
        act ≠ .reset key → (act = .sweep → l.record? key ≠ none → (l.sweep now).state.record? key ≠ none) →
        (l.perform now act).state.violations key = l.violations key := by
  intro l since n
  obtain ⟨hcount, hbelow⟩ := violations_run s key ht acts
  have hcount : l.violations key = n := hcount
  have hbelow : n < s.banThreshold.toNat := hcount ▸ hbelow
  refine ⟨⟨hcount, ?_, hbelow⟩, fun now he => ?_, fun now act hcheck hreset hsweep => ?_⟩
  · refine List.countP_congr fun x hx => ?_
    have hkept : ¬ x.Clears key := Turn.not_clears_of_mem hx
    simp [rateLimits_iff, hkept]
  · have hsettings : l.settings = s := run_settings acts (empty s)
    rw [← hcount, ← hsettings]
    refine ⟨check_below_threshold he, fun hn hrange => ?_⟩
    exact check_at_threshold he hn (staysInRange_append.1 (hsettings ▸ hrange)).2
  · exact violations_kept hcheck hreset hsweep

/-- One violation, a ban by an operator that refuses a request and is lifted, a clock that goes back, a new window. -/
def escalatingRun : Actions :=
  [(0, .check (.ip "192.0.2.1")), (10, .check (.ip "192.0.2.1")), (20, .ban (.ip "192.0.2.1") "abuse" (some 100)),
    (30, .check (.ip "192.0.2.1")), (25, .unban (.ip "192.0.2.1")), (1500, .sweep), (1500, .check (.ip "192.0.2.1"))]

theorem banned_at_threshold_second :
    let s : Settings := { banThreshold := 2, banDurationSecs := 2, ip := { maxRequests := 1, windowSecs := 1 } }
    let l := (empty s).run escalatingRun
    1 ≤ s.banThreshold.toNat ∧ l.violations (.ip "192.0.2.1") = 1 ∧
      Turn.Exceeds (.ip "192.0.2.1") ⟨l, 1600, .check (.ip "192.0.2.1")⟩ ∧
      (empty s).StaysInRange (escalatingRun ++ [(1600, .check (.ip "192.0.2.1"))]) ∧
      ∃ b : Ban, b.source = .automatic ∧ b.expiresAt = some 3600 ∧
        (l.check 1600 (.ip "192.0.2.1")).result = bannedDecision (.ip "192.0.2.1") b := by
  intro s l
  have ht : 1 ≤ s.banThreshold.toNat := by decide
  have he : Turn.Exceeds (.ip "192.0.2.1") ⟨l, 1600, .check (.ip "192.0.2.1")⟩ := by decide +kernel
  have hone : (Turn.sinceCleared (.ip "192.0.2.1") ((empty s).turns escalatingRun)).countP
      (fun x => x.Exceeds (.ip "192.0.2.1")) = 1 := by decide +kernel
  have hrange : (empty s).StaysInRange (escalatingRun ++ [(1600, .check (.ip "192.0.2.1"))]) := by decide +kernel
  obtain ⟨⟨hviolations, -⟩, hnext, -⟩ := banned_at_threshold s (.ip "192.0.2.1") escalatingRun ht
  rw [hone] at hviolations hnext
  obtain ⟨b, hsource, hends, -, hresult, -⟩ := (hnext 1600 he).2 rfl hrange
  exact ⟨ht, hviolations, he, hrange, b, hsource, hends.trans (by decide), hresult⟩

end Limiter

end SiteEdit.Limit
