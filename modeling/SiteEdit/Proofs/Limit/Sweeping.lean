import SiteEdit.Proofs.Limit.Bans
import SiteEdit.Proofs.Limit.Quota
/-!
# Sweeps and decisions

All that an idle record tells the next request of its key is how many violations there were.  So the decisions of a run
are those of the run without its sweeps, provided that the records that the sweeps drop have no violations
(`decisions_unswept`).  A sweep that drops violations can change decisions (`sweep_changes_decisions`).
-/
namespace SiteEdit.Limit

/-- Whether an action can change what the limiter decides. -/
def Action.isChange : Action → Bool
  | .check _ | .ban _ _ _ | .unban _ | .reset _ | .sweep => true
  | _ => false

/-- The actions but the sweeps. -/
def Actions.unswept (acts : Actions) : Actions := acts.filter fun a => a.2 ≠ .sweep

namespace Limiter

variable {l l' : Limiter} {now t : Millis} {key : Key} {act : Action} {acts : Actions}

/-- The decision that an action asks for. -/
def decision? (l : Limiter) (now : Millis) : Action → Option Decision
  | .check key => some (l.check now key).result
  | _ => none

/-- The decisions of a run. -/
def decisions (l : Limiter) : Actions → List Decision
  | [] => []
  | (now, act) :: acts => (l.decision? now act).toList ++ (l.perform now act).state.decisions acts

/-! ## Requests that are counted -/

/-- The record that a request leaves when it is counted. -/
def settled (l : Limiter) (now : Millis) (key : Key) : Record :=
  let record := l.nextRecord now key
  if (l.settings.ceiling key.dimension).maxRequests.toNat < record.count then
    if l.settings.banThreshold.toNat ≤ record.violate.violations then { record with violations := 0 }
    else record.violate
  else record

theorem count_records (l : Limiter) (now : Millis) (key : Key) (k : String) :
    (l.count now key).state.records.get? k = if k = key.text then some (l.settled now key) else l.records.get? k := by
  unfold settled
  dsimp only
  by_cases hc : (l.settings.ceiling key.dimension).maxRequests.toNat < (l.nextRecord now key).count
  · rw [count_of_exceeded hc, if_pos hc]
    dsimp only
    by_cases hv : l.settings.banThreshold.toNat ≤ (l.nextRecord now key).violate.violations
    · rw [if_pos hv, if_pos hv]
      show (Store.adjust (Store.insert _ _ _) _ _).get? k = _
      rw [Store.get?_adjust, Store.get?_insert]
      split <;> rfl
    · rw [if_neg hv, if_neg hv]
      exact Store.get?_insert _ _ _ _
  · rw [count_of_within (Nat.not_lt.1 hc), if_neg hc]
    exact Store.get?_insert _ _ _ _

theorem check_records_of_not_banned (h : l.activeBan? now key = none) (k : String) :
    (l.check now key).state.records.get? k = if k = key.text then some (l.settled now key) else l.records.get? k := by
  unfold check
  rw [h]
  show ((l.dropEnded key).state.count now key).state.records.get? k = _
  rw [count_records, dropEnded_state]
  rfl

/-- What a request that is counted brings about depends on the settings and the next record alone. -/
theorem count_congr (hs : l.settings = l'.settings) (hr : l.nextRecord now key = l'.nextRecord now key) :
    (l.count now key).result = (l'.count now key).result ∧ l.settled now key = l'.settled now key ∧
      l.provoked? now key = l'.provoked? now key := by
  refine ⟨?_, by rw [settled, settled, hs, hr], by rw [provoked?, provoked?, hs, hr]⟩
  by_cases hc : (l.settings.ceiling key.dimension).maxRequests.toNat < (l.nextRecord now key).count
  · have hc' := hc
    rw [hs, hr] at hc'
    rw [count_of_exceeded hc, count_of_exceeded hc', hs, hr]
    dsimp only
    split
    · rfl
    · rfl
  · have hc' := hc
    rw [hs, hr] at hc'
    rw [count_of_within (Nat.not_lt.1 hc), count_of_within (Nat.not_lt.1 hc'), hs, hr]

/-! ## Limiters that decide alike -/

/-- A record whose window is over and that has no violations: the next request makes of it what it makes of none. -/
def Spent (window : Millis) (r? : Option Record) (t : Millis) : Prop :=
  ∀ r ∈ r?, r.violations = 0 ∧ window ≤ t - r.windowStart

/-- **From a time on two limiters decide alike on a key**: they show the same ban, and have the same record unless one
has dropped a record that is spent. -/
structure Alike (l l' : Limiter) (key : Key) (t : Millis) : Prop where
  settings : l.settings = l'.settings
  ban : ∀ now, t ≤ now → l.activeBan? now key = l'.activeBan? now key
  record : l.record? key = l'.record? key ∨
    l.record? key = none ∧ Spent (l.settings.ceiling key.dimension).window (l'.record? key) t

namespace Alike

theorem refl (l : Limiter) (key : Key) (t : Millis) : Alike l l key t := ⟨rfl, fun _ _ => rfl, .inl rfl⟩

theorem mono (h : Alike l l' key t) (ht : t ≤ now) : Alike l l' key now where
  settings := h.settings
  ban n hn := h.ban n (Int.le_trans ht hn)
  record := h.record.imp_right fun ⟨hn, hr⟩ =>
    ⟨hn, fun r hm => ⟨(hr r hm).1, Int.le_trans (hr r hm).2 (Int.sub_le_sub_right ht _)⟩⟩

/-- Limiters with the same ban and record of the key are alike too. -/
theorem congr (h : Alike l l' key t) {m m' : Limiter} (hs : m.settings = l.settings) (hs' : m'.settings = l'.settings)
    (hm : m.bans.get? key.text = l.bans.get? key.text ∧ m.record? key = l.record? key)
    (hm' : m'.bans.get? key.text = l'.bans.get? key.text ∧ m'.record? key = l'.record? key) : Alike m m' key t where
  settings := by rw [hs, hs', h.settings]
  ban n hn := by
    rw [activeBan?_congr hm.1, activeBan?_congr hm'.1]
    exact h.ban n hn
  record := by
    rw [hs, hm.2, hm'.2]
    exact h.record

theorem nextRecord_eq (h : Alike l l' key t) (ht : t ≤ now) : l.nextRecord now key = l'.nextRecord now key := by
  unfold nextRecord
  rw [← h.settings]
  rcases h.record with hr | ⟨hn, hr⟩
  · rw [hr]
  · rw [hn]
    cases hr' : l'.record? key with
    | none => rfl
    | some r =>
      obtain ⟨hv, hw⟩ := hr r hr'
      unfold Record.next Record.hit
      dsimp only
      rw [if_neg (Int.not_lt.2 (Int.le_trans hw (Int.sub_le_sub_right ht _))), hv]
      rfl

theorem result_eq (h : Alike l l' key t) (ht : t ≤ now) : (l.check now key).result = (l'.check now key).result := by
  cases hb : l.activeBan? now key with
  | some b =>
    rw [check_of_banned hb, check_of_banned ((h.ban now ht).symm.trans hb)]
    rfl
  | none =>
    rw [check_result_of_not_banned hb, check_result_of_not_banned ((h.ban now ht).symm.trans hb)]
    exact (count_congr h.settings (h.nextRecord_eq ht)).1

/-- A request that is counted leaves the same ban and record. -/
theorem check (h : Alike l l' key t) (ht : t ≤ now) :
    Alike (l.check now key).state (l'.check now key).state key now := by
  cases hb : l.activeBan? now key with
  | some b =>
    rw [check_of_banned hb, check_of_banned ((h.ban now ht).symm.trans hb)]
    exact (h.mono ht).congr rfl rfl ⟨rfl, rfl⟩ ⟨rfl, rfl⟩
  | none =>
    have hb' := (h.ban now ht).symm.trans hb
    obtain ⟨-, hsettled, hprovoked⟩ := count_congr h.settings (h.nextRecord_eq ht)
    refine ⟨?_, fun n _ => activeBan?_congr ?_ n, .inl ?_⟩
    · rw [check_settings, check_settings, h.settings]
    · rw [check_bans_of_not_banned hb, check_bans_of_not_banned hb', hprovoked, if_pos rfl, if_pos rfl]
    · unfold record?
      rw [check_records_of_not_banned hb, check_records_of_not_banned hb', hsettled, if_pos rfl, if_pos rfl]

theorem perform (h : Alike l l' key t) (ht : t ≤ now) (hs : act ≠ .sweep) :
    Alike (l.perform now act).state (l'.perform now act).state key now := by
  have hnow := h.mono ht
  by_cases hk : act.key? = some key
  · cases act with
    | check k =>
      obtain rfl := Option.some.inj hk
      exact h.check ht
    | ban k reason duration =>
      obtain rfl := Option.some.inj hk
      refine ⟨h.settings, fun n _ => activeBan?_congr ?_ n, hnow.record⟩
      exact ((Store.get?_insert _ _ _ _).trans (if_pos rfl)).trans
        ((Store.get?_insert _ _ _ _).trans (if_pos rfl)).symm
    | unban k =>
      obtain rfl := Option.some.inj hk
      show Alike (l.unban k).state (l'.unban k).state k now
      rw [unban_state, unban_state]
      refine ⟨h.settings, fun n _ => activeBan?_congr ?_ n, hnow.record⟩
      exact ((Store.get?_erase _ _ _).trans (if_pos rfl)).trans ((Store.get?_erase _ _ _).trans (if_pos rfl)).symm
    | reset k =>
      obtain rfl := Option.some.inj hk
      refine ⟨h.settings, hnow.ban, .inl ?_⟩
      exact ((Store.get?_erase _ _ _).trans (if_pos rfl)).trans ((Store.get?_erase _ _ _).trans (if_pos rfl)).symm
    | ban? k => exact hnow
    | record k => exact hnow
    | bans => cases hk
    | stats => cases hk
    | sweep => cases hk
  · exact hnow.congr (perform_settings _ _ _) (perform_settings _ _ _) (perform_frame hk hs) (perform_frame hk hs)

/-- A sweep that drops no violations of the key. -/
theorem sweep (h : Alike l l' key t) (ht : t ≤ now) (hseen : Seen (l.record? key) t)
    (hclean : ∀ r ∈ l.record? key, l.keeps now key.text r = false → r.violations = 0) :
    Alike (l.sweep now).state l' key now := by
  have hnow := h.mono ht
  refine ⟨h.settings, fun n hn => ?_, ?_⟩
  · have hshows : (l.sweep now).state.Shows key (l.bans.get? key.text) now := (Shows.of_get? rfl t).sweep ht
    exact (hshows n hn).trans (h.ban n (Int.le_trans ht hn))
  · have hstate : (l.sweep now).state.record? key = (l.record? key).filter (l.keeps now key.text) :=
      Store.get?_filter _ _ _
    cases hr : l.record? key with
    | none =>
      have hrecord := hnow.record
      rw [hr] at hstate hrecord
      rw [hstate, Option.filter_none]
      exact hrecord
    | some r =>
      rw [hr] at hstate
      cases hk : l.keeps now key.text r with
      | true =>
        rw [hstate, Option.filter_some, if_pos hk, ← hr]
        exact hnow.record
      | false =>
        rw [hstate, Option.filter_some, if_neg (by rw [hk]; exact Bool.false_ne_true)]
        have hsame : l'.record? key = some r := by
          rcases h.record with hs | ⟨hn, -⟩
          · rw [← hs, hr]
          · rw [hr] at hn
            cases hn
        refine .inr ⟨rfl, fun r' hr' => ?_⟩
        obtain rfl := Option.some.inj (hsame.symm.trans hr')
        refine ⟨hclean r hr hk, ?_⟩
        -- the record is kept for a window after its last request, which is not before the window's start
        unfold keeps at hk
        rw [decide_eq_false_iff_not, Key.dimensionOf_text, Int.not_lt] at hk
        have hidle := Int.le_trans (Int.le_max_right _ _) hk
        exact Int.le_trans hidle (Int.sub_le_sub_left (hseen r hr).1 _)

end Alike

/-! ## Runs -/

/-- The records of a key stay records of requests that are no later than the clock. -/
theorem seen_perform (h : Seen (l.record? key) t) (ht : t ≤ now) (act : Action) :
    Seen ((l.perform now act).state.record? key) now := by
  by_cases ha : act = .reset key
  · subst ha
    intro r hr
    have hnone : (l.perform now (.reset key)).state.record? key = none :=
      (Store.get?_erase _ _ _).trans (if_pos rfl)
    rw [hnone] at hr
    cases hr
  · exact (l.moves now key ha).seen h ht

/-- No sweep of a run drops a record with violations. -/
def SweepsClean (l : Limiter) : Actions → Prop
  | [] => True
  | (now, act) :: acts =>
    (act = .sweep → ∀ e ∈ l.records.entries, l.keeps now e.1 e.2 = false → e.2.violations = 0) ∧
      (l.perform now act).state.SweepsClean acts

instance decidableSweepsClean : ∀ (acts : Actions) (l : Limiter), Decidable (l.SweepsClean acts)
  | [], _ => .isTrue trivial
  | (now, act) :: acts, l =>
    have := decidableSweepsClean acts (l.perform now act).state
    inferInstanceAs (Decidable (_ ∧ _))

theorem decisions_of_alike : ∀ (acts : Actions) {l l' : Limiter} {t : Millis}, (∀ key, Alike l l' key t) →
    (∀ key, Seen (l.record? key) t) → acts.Since t → l.SweepsClean acts → l.decisions acts = l'.decisions acts.unswept
  | [], _, _, _, _, _, _, _ => rfl
  | (now, act) :: acts, l, l', t, h, hseen, ho, hclean => by
    have hseen' : ∀ key, Seen ((l.perform now act).state.record? key) now := fun key =>
      seen_perform (hseen key) ho.le act
    unfold Actions.unswept
    by_cases hs : act = .sweep
    · subst hs
      have halike : ∀ key, Alike (l.perform now .sweep).state l' key now := fun key =>
        (h key).sweep ho.le (hseen key) fun r hr => hclean.1 rfl (key.text, r) (Store.get?_eq_some_iff.1 hr)
      rw [List.filter_cons_of_neg (by simp)]
      exact decisions_of_alike acts halike hseen' ho.tail hclean.2
    · rw [List.filter_cons_of_pos (by simpa using hs)]
      have hd : l.decision? now act = l'.decision? now act := by
        cases act with
        | check k => exact congrArg some ((h k).result_eq ho.le)
        | _ => rfl
      have halike : ∀ key, Alike (l.perform now act).state (l'.perform now act).state key now := fun key =>
        (h key).perform ho.le hs
      unfold decisions
      rw [hd, decisions_of_alike acts halike hseen' ho.tail hclean.2]
      rfl

/-- **Sweeps that drop no violations change no decision.** -/
theorem decisions_unswept (s : Settings) (acts : Actions) (ho : acts.Ordered) (hclean : (empty s).SweepsClean acts) :
    (empty s).decisions acts = (empty s).decisions acts.unswept := by
  obtain ⟨t, hs⟩ := ho.exists_since
  exact decisions_of_alike acts (fun key => .refl _ key t) (fun _ _ hr => nomatch hr) hs hclean

/-- Violations of a banned key, which the ban clears, and two sweeps: one when the record is in use, one when it is idle. -/
def cleanRun : Actions :=
  [(0, .check (.ip "192.0.2.1")), (10, .check (.ip "192.0.2.1")), (20, .check (.ip "192.0.2.1")), (500, .sweep),
    (2500, .check (.ip "192.0.2.1")), (4000, .sweep), (4000, .check (.ip "192.0.2.1"))]

theorem decisions_unswept_clean :
    let s : Settings :=
      { banThreshold := 1, banDurationSecs := 2, idleRecordTtlSecs := 1, ip := { maxRequests := 1, windowSecs := 1 } }
    cleanRun.Ordered ∧ (empty s).SweepsClean cleanRun ∧
      (empty s).decisions cleanRun = (empty s).decisions cleanRun.unswept := by
  intro s
  have ho : cleanRun.Ordered := by decide
  have hclean : (empty s).SweepsClean cleanRun := by decide +kernel
  exact ⟨ho, hclean, decisions_unswept s cleanRun ho hclean⟩

/-- A key with one violation is forgotten when it is idle, so its next violation does not ban it. -/
def forgottenRun : Actions :=
  [(0, .check (.ip "192.0.2.1")), (0, .check (.ip "192.0.2.1")), (1000, .sweep), (1000, .check (.ip "192.0.2.1")),
    (1000, .check (.ip "192.0.2.1"))]

theorem sweep_changes_decisions :
    ¬ ∀ (s : Settings) (acts : Actions), 0 < s.banThreshold → (∀ d, 0 < (s.ceiling d).maxRequests) →
      (∀ d, 0 < (s.ceiling d).windowSecs) → acts.Ordered → (∀ a ∈ acts, a.2.isChange = true) →
      (empty s).decisions acts = (empty s).decisions acts.unswept := by
  intro h
  let s : Settings := { banThreshold := 2, idleRecordTtlSecs := 1, ip := { maxRequests := 1, windowSecs := 1 } }
  have hmax : ∀ d, 0 < (s.ceiling d).maxRequests := fun d => by cases d <;> decide
  have hwindow : ∀ d, 0 < (s.ceiling d).windowSecs := fun d => by cases d <;> decide
  have heq := h s forgottenRun (by decide) hmax hwindow (by decide) (by decide)
  exact absurd heq (by decide +kernel)

end Limiter

end SiteEdit.Limit
