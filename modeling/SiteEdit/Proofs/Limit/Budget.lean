import SiteEdit.Proofs.Limit.Bans
/-!
# How many requests are left

As long as the clock stands still, a key has a budget: how many more requests in its window are allowed.  Each request
of the key takes one from it, whether there is one left or not, and an answer that allows a request tells the budget
that it leaves.
-/
namespace SiteEdit.Limit.Limiter

variable {l : Limiter} {now : Millis} {key k : Key} {n : Nat}

/-- **A key has `n` requests left** in its window.  It may be banned only if it has none. -/
structure Budget (l : Limiter) (now : Millis) (key : Key) (n : Nat) : Prop where
  counted : ∃ r, l.record? key = some r ∧ now - r.windowStart < (l.settings.ceiling key.dimension).window ∧
    r.count ≤ maxCount ∧ (l.settings.ceiling key.dimension).maxRequests.toNat - r.count = n
  free : 0 < n → l.activeBan? now key = none

/-- In its window a record counts one more. -/
theorem Budget.nextRecord (h : l.Budget now key n)
    (hmax : (l.settings.ceiling key.dimension).maxRequests.toNat < maxCount) :
    let next := l.nextRecord now key
    now - next.windowStart < (l.settings.ceiling key.dimension).window ∧ next.count ≤ maxCount ∧
      (next.count ≤ (l.settings.ceiling key.dimension).maxRequests.toNat ↔ 0 < n) ∧
      (l.settings.ceiling key.dimension).maxRequests.toNat - next.count = n - 1 := by
  obtain ⟨r, hr, hwindow, hmost, hleft⟩ := h.counted
  have hnext : l.nextRecord now key = { r with count := countUp r.count, lastSeen := now } := by
    unfold Limiter.nextRecord Record.next
    rw [hr]
    exact if_pos hwindow
  rw [hnext]
  refine ⟨hwindow, Nat.min_le_right _ _, ?_, ?_⟩
  · simp only [countUp]
    omega
  · simp only [countUp]
    omega

/-- The record of a key after a request of it that is counted. -/
theorem record?_counted (hb : l.activeBan? now key = none) :
    ∃ v, (l.check now key).state.record? key = some { l.nextRecord now key with violations := v } := by
  obtain ⟨-, v, hr⟩ := check_of_not_banned hb
  exact ⟨v, (hr key.text).trans (if_pos rfl)⟩

/-- A key that was allowed a request is not banned after it. -/
theorem activeBan?_check (hb : l.activeBan? now key = none)
    (hc : (l.nextRecord now key).count ≤ (l.settings.ceiling key.dimension).maxRequests.toNat) :
    (l.check now key).state.activeBan? now key = none := by
  have hnone : l.provoked? now key = none := if_neg fun hp => Nat.not_lt.2 hc hp.1
  rw [activeBan?, check_bans_of_not_banned hb, if_pos rfl, hnone]
  rfl

/-- **A request takes one from the budget** of its key.  It is allowed if there was one left. -/
theorem Budget.check (h : l.Budget now key n)
    (hmax : (l.settings.ceiling key.dimension).maxRequests.toNat < maxCount) :
    (l.check now key).result.isAllowed = decide (0 < n) ∧ (l.check now key).state.Budget now key (n - 1) := by
  cases hb : l.activeBan? now key with
  | some ban =>
    have hn : n = 0 := Nat.eq_zero_of_not_pos fun hpos => by
      rw [h.free hpos] at hb
      cases hb
    rw [check_of_banned hb]
    subst hn
    exact ⟨rfl, h.counted, nofun⟩
  | none =>
    obtain ⟨hwindow, hmost, hallowed, hleft⟩ := h.nextRecord hmax
    obtain ⟨v, hr⟩ := record?_counted hb
    refine ⟨?_, ⟨_, hr, ?_, hmost, ?_⟩, fun hpos => activeBan?_check hb ?_⟩
    · rw [(check_of_not_banned hb).1]
      exact decide_eq_decide.2 hallowed
    · rwa [check_settings]
    · rwa [check_settings]
    · exact hallowed.2 (by omega)

/-- An answer that allows a request tells the budget that it leaves. -/
theorem budget_of_allow (hw : 0 < (l.settings.ceiling key.dimension).window) (h : (l.check now key).result = .allow n) :
    (l.check now key).state.Budget now key n := by
  cases hb : l.activeBan? now key with
  | some ban =>
    rw [check_of_banned hb] at h
    cases h
  | none =>
    have hc : (l.nextRecord now key).count ≤ (l.settings.ceiling key.dimension).maxRequests.toNat := by
      have hallowed := (check_of_not_banned hb).1
      rw [h] at hallowed
      exact of_decide_eq_true hallowed.symm
    have hleft : (l.settings.ceiling key.dimension).maxRequests.toNat - (l.nextRecord now key).count = n := by
      rw [check_result_of_not_banned hb, count_of_within hc] at h
      exact Decision.allow.inj h
    -- the window is the one that the record was in, or it starts now
    have hwindow : now - (l.nextRecord now key).windowStart < (l.settings.ceiling key.dimension).window := by
      unfold Limiter.nextRecord Record.next Record.hit Record.first
      split
      · split
        · assumption
        · simpa using hw
      · simpa using hw
    obtain ⟨v, hr⟩ := record?_counted hb
    refine ⟨⟨_, hr, ?_, ?_, ?_⟩, fun _ => activeBan?_check hb hc⟩
    · rwa [check_settings]
    · have hlt := (l.settings.ceiling key.dimension).maxRequests.toNat_lt
      unfold maxCount
      dsimp only
      omega
    · rwa [check_settings]

/-- A request of another key leaves the budget as it is. -/
theorem Budget.check_other (h : l.Budget now key n) (hk : k ≠ key) : (l.check now k).state.Budget now key n := by
  have hact : (Action.check k).key? ≠ some key := fun he => hk (Option.some.inj he)
  obtain ⟨hbans, hrecord⟩ : (l.check now k).state.bans.get? key.text = l.bans.get? key.text ∧
      (l.check now k).state.record? key = l.record? key := perform_frame hact nofun
  obtain ⟨r, hr, hrest⟩ := h.counted
  refine ⟨⟨r, hrecord.trans hr, ?_⟩, fun hpos => ?_⟩
  · rwa [check_settings]
  · exact (activeBan?_congr hbans now).trans (h.free hpos)

end SiteEdit.Limit.Limiter
