import SiteEdit.Proofs.Limit.Range
import SiteEdit.Proofs.Limit.Sweeping
/-!
# When to try again

A request that is refused as one too many has used up the window of its key, and is told how long the window lasts.  A
window that is used up stays so until its end, whatever else is asked (`UsedUp.run`), and no other window of the key
starts before the next request that is counted.  So the time that is told is exact (`retryAfter_exact`).
-/
namespace SiteEdit.Limit

/-- **A window is used up** until its end, and no other has started by `t`. -/
structure UsedUp (c : Ceiling) (start : Millis) (r? : Option Record) (t : Millis) : Prop where
  started : start ≤ t
  window : ∀ r ∈ r?, r.windowStart = start
  full : t < start + c.window → ∃ r ∈ r?, c.maxRequests.toNat < r.count ∧ r.count ≤ maxCount ∧ start ≤ r.lastSeen

variable {c : Ceiling} {start t now : Millis} {r? r?' : Option Record} {q : Option Counted}

theorem countUp_le (n : Nat) : countUp n ≤ maxCount := Nat.min_le_right _ _

theorem lt_countUp {n most : Nat} (h : most < n) (hn : n ≤ maxCount) : most < countUp n := by
  unfold countUp
  omega

theorem Seen.mono (h : Seen r? t) (ht : t ≤ now) : Seen r? now := fun r hr =>
  ⟨(h r hr).1, Int.le_trans (h r hr).2.1 ht, (h r hr).2.2⟩

/-- Before its end a window stays used up, and after it the record is the one of this window or of none, as long as no
request is counted. -/
theorem UsedUp.moves (hu : UsedUp c start r? t) (ht : t ≤ now) (h : Moves c now r? r?' q)
    (hq : ∀ x ∈ q, now < start + c.window) : UsedUp c start r?' now := by
  have hstarted := Int.le_trans hu.started ht
  cases h with
  | stay => exact ⟨hstarted, hu.window, fun hn => hu.full (Int.lt_of_le_of_lt ht hn)⟩
  | drop _ h =>
    refine ⟨hstarted, fun r hr => (nomatch hr), fun hn => ?_⟩
    obtain ⟨r, hr, -, -, hseen⟩ := hu.full (Int.lt_of_le_of_lt ht hn)
    have hidle := h r hr
    linarith
  | go r v h =>
    refine ⟨hstarted, fun r' hr' => ?_, fun hn => ?_⟩
    · obtain rfl := Option.some.inj hr'
      exact hu.window r rfl
    · obtain ⟨r', hr', hcount, hmost, -⟩ := hu.full (Int.lt_of_le_of_lt ht hn)
      obtain rfl := Option.some.inj hr'
      exact ⟨_, rfl, lt_countUp hcount hmost, countUp_le _, hstarted⟩
  | start _ v h =>
    have hn := hq _ rfl
    obtain ⟨r, hr, -⟩ := hu.full (Int.lt_of_le_of_lt ht hn)
    have hover := h r hr
    have hwindow := hu.window r hr
    linarith

namespace Limiter

variable {l : Limiter} {key : Key} {act : Action} {acts : Actions}

/-- The records of a key stay records of requests that are no later than the clock. -/
theorem seen_run : ∀ (acts : Actions) {l : Limiter} {t : Millis}, Seen (l.record? key) t → acts.Since t →
    ∀ t', t ≤ t' → (∀ a ∈ acts, a.1 ≤ t') → Seen ((l.run acts).record? key) t'
  | [], _, _, h, _, _, ht, _ => h.mono ht
  | (_, act) :: acts, _, _, h, hs, t', _, hl =>
    seen_run acts (seen_perform h hs.le act) hs.tail t' (hl _ List.mem_cons_self) fun a ha =>
      hl a (List.mem_cons_of_mem _ ha)

theorem seen_of_ordered (s : Settings) (key : Key) {before : Actions} {a : Millis × Action}
    (ho : Actions.Ordered (before ++ [a])) : Seen (((empty s).run before).record? key) a.1 := by
  obtain ⟨hbefore, -, hle⟩ := List.pairwise_append.1 ho
  obtain ⟨t₀, hsince⟩ := Actions.Ordered.exists_since hbefore
  -- Nothing is known of the time before the run, so the run is entered at the earlier of its start and its end.
  have hempty : Seen ((empty s).record? key) (min t₀ a.1) := fun r hr => nomatch hr
  exact seen_run before hempty ⟨hbefore, fun b hb => Int.le_trans (Int.min_le_left _ _) (hsince.later b hb)⟩
    a.1 (Int.min_le_right _ _) fun b hb => hle b hb _ List.mem_cons_self

/-! ## A window that is used up -/

/-- What is asked before the next request of a key that is counted after `stop`: no request is counted from then on, and
the key is not reset before. -/
def Idles (l : Limiter) (key : Key) (stop : Millis) (acts : Actions) : Prop :=
  (∀ a ∈ acts, a.2 = .reset key → stop ≤ a.1) ∧
    ∀ pre now post, acts = pre ++ (now, .check key) :: post → stop ≤ now → (l.run pre).activeBan? now key ≠ none

theorem Idles.tail {stop : Millis} (h : l.Idles key stop ((now, act) :: acts)) :
    (l.perform now act).state.Idles key stop acts :=
  ⟨fun a ha => h.1 a (List.mem_cons_of_mem _ ha),
    fun pre now' post hacts => h.2 ((now, act) :: pre) now' post (by rw [hacts]; rfl)⟩

theorem usedUp_perform (hc : l.settings.ceiling key.dimension = c) (hu : UsedUp c start (l.record? key) t)
    (ht : t ≤ now) (hi : l.Idles key (start + c.window) ((now, act) :: acts)) :
    UsedUp c start ((l.perform now act).state.record? key) now := by
  by_cases hreset : act = .reset key
  · subst hreset
    have hnone : (l.perform now (.reset key)).state.record? key = none :=
      (Store.get?_erase _ _ _).trans (if_pos rfl)
    have hover := hi.1 _ List.mem_cons_self rfl
    rw [hnone]
    exact ⟨Int.le_trans hu.started ht, fun r hr => (nomatch hr), fun hn => absurd hn (Int.not_lt.2 hover)⟩
  · refine hu.moves ht (hc ▸ l.moves now key hreset) fun x hx => Int.not_le.1 fun hover => ?_
    unfold counted? at hx
    split at hx
    · rename_i hcounts
      exact hi.2 [] now acts (by rw [hcounts.1]; rfl) hover hcounts.2
    · cases hx

theorem usedUp_run : ∀ (acts : Actions) {l : Limiter} {t : Millis}, l.settings.ceiling key.dimension = c →
    UsedUp c start (l.record? key) t → acts.Since t → l.Idles key (start + c.window) acts →
    ∀ t', t ≤ t' → (∀ a ∈ acts, a.1 ≤ t') → UsedUp c start ((l.run acts).record? key) t'
  | [], _, _, _, hu, _, _, _, ht, _ => hu.moves ht (.stay _) fun _ hx => nomatch hx
  | (_, act) :: acts, l, _, hc, hu, hs, hi, t', _, hl =>
    usedUp_run acts ((congrArg (fun s => s.ceiling key.dimension) (l.perform_settings _ act)).trans hc)
      (usedUp_perform hc hu hs.le hi) hs.tail hi.tail t' (hl _ List.mem_cons_self) fun a ha =>
      hl a (List.mem_cons_of_mem _ ha)

/-- Between two actions a window that is used up stays so. -/
theorem usedUp_between {a b : Millis × Action} {between : Actions} (hc : l.settings.ceiling key.dimension = c)
    (hu : UsedUp c start (l.record? key) a.1) (ho : Actions.Ordered (a :: (between ++ [b])))
    (hi : l.Idles key (start + c.window) between) : UsedUp c start ((l.run between).record? key) b.1 := by
  obtain ⟨hlater, hordered⟩ := List.pairwise_cons.1 ho
  obtain ⟨hbetween, -, hlast⟩ := List.pairwise_append.1 hordered
  have hsince : between.Since a.1 := ⟨hbetween, fun x hx => hlater x (List.mem_append_left _ hx)⟩
  exact usedUp_run between hc hu hsince hi b.1 (hlater b (by simp)) fun x hx => hlast x hx b List.mem_cons_self

/-- Until the end of a window that is used up every request is refused. -/
theorem refused_of_usedUp (hc : l.settings.ceiling key.dimension = c) (hu : UsedUp c start (l.record? key) now)
    (hn : now < start + c.window) : (l.check now key).result.isAllowed = false := by
  obtain ⟨r, hr, hcount, hmost, -⟩ := hu.full hn
  have hr : l.record? key = some r := hr
  cases hb : l.activeBan? now key with
  | some b =>
    rw [check_of_banned hb]
    rfl
  | none =>
    have hw : now - r.windowStart < c.window := by
      rw [hu.window r hr]
      linarith
    have hnext : (l.nextRecord now key).count = countUp r.count := by
      unfold nextRecord Record.next Record.hit
      rw [hr, hc]
      exact congrArg Record.count (if_pos hw)
    rw [(check_of_not_banned hb).1, hnext, hc]
    exact decide_eq_false (Nat.not_le.2 (lt_countUp hcount hmost))

/-- After the end of a window that is used up the next request that is counted is the first of a new one. -/
theorem allowed_of_usedUp (hc : l.settings.ceiling key.dimension = c) (hu : UsedUp c start (l.record? key) now)
    (hn : start + c.window ≤ now) (hb : l.activeBan? now key = none) (hm : 1 ≤ c.maxRequests.toNat) :
    (l.check now key).result = .allow (c.maxRequests.toNat - 1) := by
  have hnext : (l.nextRecord now key).count = 1 := by
    unfold nextRecord Record.next
    cases hr : l.record? key with
    | none => rfl
    | some r =>
      have hw : ¬ now - r.windowStart < c.window := by
        rw [hu.window r hr]
        linarith
      unfold Record.hit
      rw [hc]
      exact congrArg Record.count (if_neg hw)
  have hwithin : (l.nextRecord now key).count ≤ (l.settings.ceiling key.dimension).maxRequests.toNat := by
    rw [hnext, hc]
    exact hm
  rw [check_result_of_not_banned hb, count_of_within hwithin, hnext, hc]

/-! ## The time that is told -/

/-- A part of a second counts as a whole one. -/
theorem secondsUp_spec {d : Int} (hd : 0 < d) : d ≤ secondsUp d * 1000 ∧ secondsUp d * 1000 < d + 1000 := by
  unfold secondsUp
  rw [Int.tdiv_eq_ediv_of_nonneg (by omega)]
  omega

/-- What a request that is refused as one too many is told. -/
theorem check_of_rateLimited {denial : Denial} {d : Dimension} {retry : Millis}
    (hr : (l.check now key).result = .deny denial) (hk : denial.kind = .rateLimited d retry) :
    l.activeBan? now key = none ∧ l.provoked? now key = none ∧
      (l.settings.ceiling key.dimension).maxRequests.toNat < (l.nextRecord now key).count ∧
      retry = (l.nextRecord now key).untilWindowEnd now (l.settings.ceiling key.dimension).window ∧
      denial.reason = "Too many requests for this " ++ d.name ++ "; retry in " ++ toString (secondsUp retry) ++ "s" := by
  cases hb : l.activeBan? now key with
  | some b =>
    rw [check_of_banned hb] at hr
    cases hr
    cases hk
  | none =>
    rw [check_result_of_not_banned hb] at hr
    by_cases hc : (l.settings.ceiling key.dimension).maxRequests.toNat < (l.nextRecord now key).count
    · rw [count_of_exceeded hc] at hr
      dsimp only at hr
      split at hr
      · cases hr
        cases hk
      · next hv =>
        cases hr
        cases hk
        exact ⟨rfl, if_neg fun h => hv h.2, hc, rfl, rfl⟩
    · rw [count_of_within (Nat.not_lt.1 hc)] at hr
      cases hr

/-- A request past the ceiling is one of a window that others have filled. -/
theorem usedUp_of_exceeded (hc : l.settings.ceiling key.dimension = c) (hm : 1 ≤ c.maxRequests.toNat)
    (hs : Seen (l.record? key) now) (hb : l.activeBan? now key = none)
    (he : c.maxRequests.toNat < (l.nextRecord now key).count) :
    now < (l.nextRecord now key).windowStart + c.window ∧
      UsedUp c (l.nextRecord now key).windowStart ((l.check now key).state.record? key) now := by
  obtain ⟨-, v, hstate⟩ := check_of_not_banned hb
  have hrecord : (l.check now key).state.record? key = some { l.nextRecord now key with violations := v } :=
    (hstate key.text).trans (if_pos rfl)
  rw [hrecord]
  unfold nextRecord Record.next at he ⊢
  cases hr : l.record? key with
  | none =>
    rw [hr] at he
    exact absurd he (Nat.not_lt.2 hm)
  | some r =>
    rw [hr, hc] at he
    rw [hc]
    dsimp only at he ⊢
    unfold Record.hit at he ⊢
    split at he
    · rename_i hw
      rw [if_pos hw]
      obtain ⟨hstart, hseen, -⟩ := hs r hr
      have hstarted := Int.le_trans hstart hseen
      refine ⟨?_, hstarted, fun r' hr' => ?_, fun _ => ⟨_, rfl, he, countUp_le _, hstarted⟩⟩
      · dsimp only
        linarith
      · obtain rfl := Option.some.inj hr'
        rfl
    · exact absurd he (Nat.not_lt.2 hm)

/-- **The time to wait is exact.**  A request that is refused as one too many at a time `t` is told to wait for more than
nothing and for no longer than a window.  Until then every request of the key is refused, whatever else is asked, as long
as the key is not reset; after that the first one that no ban refuses is allowed as the first of a new window.  The message
tells the time in seconds, rounded up.  All this is so as long as no sum of the run overflows; then the time until which
to wait is in range, and so is the sum that is rounded. -/
theorem retryAfter_exact (s : Settings) (key : Key) (before : Actions) (t retry : Millis) (denial : Denial) (d : Dimension)
    (hmax : 0 < (s.ceiling key.dimension).maxRequests) (ho : Actions.Ordered (before ++ [(t, .check key)]))
    (hrange : (empty s).StaysInRange (before ++ [(t, .check key)]))
    (hr : (((empty s).run before).check t key).result = .deny denial) (hk : denial.kind = .rateLimited d retry) :
    let c := s.ceiling key.dimension
    let l := (((empty s).run before).check t key).state
    0 < retry ∧ retry ≤ c.window ∧ InRange (t + retry) ∧
      (∀ (between : Actions) (t' : Millis), Actions.Ordered ((t, .check key) :: (between ++ [(t', .check key)])) →
        l.StaysInRange (between ++ [(t', .check key)]) → (∀ a ∈ between, a.2 = .reset key → t + retry ≤ a.1) →
        (t' < t + retry → ((l.run between).check t' key).result.isAllowed = false) ∧
        (t + retry ≤ t' → (l.run between).activeBan? t' key = none →
          (∀ pre now post, between = pre ++ (now, .check key) :: post → t + retry ≤ now →
            (l.run pre).activeBan? now key ≠ none) →
          ((l.run between).check t' key).result = .allow (c.maxRequests.toNat - 1))) ∧
      InRange (retry + 999) ∧
      ∃ n : Int, denial.reason = "Too many requests for this " ++ d.name ++ "; retry in " ++ toString n ++ "s" ∧
        retry ≤ n * 1000 ∧ n * 1000 < retry + 1000 := by
  intro c l
  have hm : 1 ≤ c.maxRequests.toNat := UInt32.lt_iff_toNat_lt.1 hmax
  have hc : ((empty s).run before).settings.ceiling key.dimension = c := by rw [run_settings before (empty s)]; rfl
  have hcl : l.settings.ceiling key.dimension = c := by rw [check_settings, hc]
  have hseen : Seen (((empty s).run before).record? key) t := seen_of_ordered s key ho
  have hrange := (staysInRange_append.1 hrange).2
  obtain ⟨hb, hp, he, hretry, hreason⟩ := check_of_rateLimited hr hk
  have hend := inRange_window hrange hb he
  have hrounded := inRange_untilWindowEnd hrange hb he hp
  rw [← hretry] at hrounded
  rw [hc] at he hretry hend
  obtain ⟨hopen, hu⟩ := usedUp_of_exceeded hc hm hseen hb he
  generalize (((empty s).run before).nextRecord t key) = record at hretry hopen hu hend
  have hretry : retry = record.windowStart + c.window - t := hretry.trans (Int.max_eq_right (by linarith))
  have hstop : t + retry = record.windowStart + c.window := by linarith
  have hpos : 0 < retry := by linarith
  rw [hstop]
  refine ⟨hpos, ?_, hend, fun between t' hordered _ hreset => ?_, hrounded, secondsUp retry, hreason,
    secondsUp_spec hpos⟩
  · have hstarted := hu.started
    linarith
  have hcr : (l.run between).settings.ceiling key.dimension = c := by rw [run_settings between l, hcl]
  refine ⟨fun ht' => ?_, fun ht' hban hfirst => ?_⟩
  · have hidles : l.Idles key (record.windowStart + c.window) between := ⟨hreset, fun pre now post hacts hnow => by
      have hlast := (List.pairwise_append.1 (List.pairwise_cons.1 hordered).2).2.2
      have hle : now ≤ t' := hlast (now, .check key) (by rw [hacts]; simp) _ List.mem_cons_self
      linarith⟩
    exact refused_of_usedUp hcr (usedUp_between hcl hu hordered hidles) ht'
  · exact allowed_of_usedUp hcr (usedUp_between hcl hu hordered ⟨hreset, hfirst⟩) ht' hban hm

/-- A key that waits: it is banned for a second violation, the ban is lifted, it violates again, and a sweep. -/
def waitingRun : Actions :=
  [(20, .check (.ip "192.0.2.1")), (30, .unban (.ip "192.0.2.1")), (500, .check (.ip "192.0.2.1")), (999, .sweep)]

theorem retryAfter_exact_waiting :
    let s : Settings :=
      { banThreshold := 2, idleRecordTtlSecs := 0, ip := { maxRequests := 1, windowSecs := 1 } }
    let key := Key.ip "192.0.2.1"
    let before := (empty s).run [(0, .check key)]
    let l := (before.check 10 key).state
    0 < (s.ceiling key.dimension).maxRequests ∧ Actions.Ordered ([(0, .check key)] ++ [(10, .check key)]) ∧
      (empty s).StaysInRange ([(0, .check key)] ++ [(10, .check key)]) ∧
      (before.check 10 key).result = .deny
        { key := "ip:192.0.2.1"
          kind := .rateLimited .ip 990
          reason := "Too many requests for this ip; retry in 1s" } ∧
      ((l.run waitingRun).check 999 key).result.isAllowed = false ∧
      ((l.run waitingRun).check 1000 key).result = .allow 0 := by
  intro s key before l
  have hmax : 0 < (s.ceiling key.dimension).maxRequests := by decide
  have ho : Actions.Ordered ([(0, .check key)] ++ [(10, .check key)]) := by decide
  have hrange : (empty s).StaysInRange ([(0, .check key)] ++ [(10, .check key)]) := by decide +kernel
  have hr : (before.check 10 key).result = .deny
      { key := "ip:192.0.2.1"
        kind := .rateLimited .ip 990
        reason := "Too many requests for this ip; retry in 1s" } := by decide +kernel
  obtain ⟨-, -, -, hwait, -⟩ := retryAfter_exact s key [(0, .check key)] 10 990 _ .ip hmax ho hrange hr rfl
  have hreset : ∀ a ∈ waitingRun, a.2 = .reset key → (10 : Millis) + 990 ≤ a.1 := by decide
  have hsoon : ∀ a ∈ waitingRun, a.1 < (10 : Millis) + 990 := by decide
  have hban : (l.run waitingRun).activeBan? 1000 key = none := by decide +kernel
  refine ⟨hmax, ho, hrange, hr, (hwait waitingRun 999 (by decide) (by decide +kernel) hreset).1 (by decide), ?_⟩
  refine (hwait waitingRun 1000 (by decide) (by decide +kernel) hreset).2 (by decide) hban
    fun pre now post hacts hnow => ?_
  exact absurd (hsoon (now, .check key) (by rw [hacts]; simp)) (Int.not_lt.2 hnow)

end Limiter

end SiteEdit.Limit
