import SiteEdit.Proofs.Limit.Budget
import SiteEdit.Proofs.Limit.Escalation
import SiteEdit.Proofs.Limit.Retry
/-!
# Whether a ban for violations takes hold

A request that makes the violations of its key the threshold is answered by a ban.  The next request at the same time is
past the ceiling again, and it is the ban that refuses it, if bans last any time (`enforced_of_provoked`).  A ban that
lasts no time has ended before it is looked at, and it has cleared the violations (`unenforced_of_provoked`).
-/
namespace SiteEdit.Limit

/-- Whether a request is refused for a ban, one that holds or a new one. -/
def Decision.isBanned : Decision → Bool
  | .deny { kind := .banned _, .. } => true
  | _ => false

namespace Limiter

variable {l : Limiter} {now : Millis} {key : Key} {b : Ban}

theorem exceeds_of_provoked (hb : l.activeBan? now key = none) (hp : l.provoked? now key = some b) :
    Turn.Exceeds key ⟨l, now, .check key⟩ := ⟨rfl, hb, past_of_provoked hp⟩

theorem isBanned_check_iff (hb : l.activeBan? now key = none) :
    (l.check now key).result.isBanned = true ↔ (l.provoked? now key).isSome := by
  cases hp : l.provoked? now key with
  | some b => simp [(check_of_provoked hb hp).1, bannedDecision, Decision.isBanned]
  | none =>
    by_cases hc : (l.settings.ceiling key.dimension).maxRequests.toNat < (l.nextRecord now key).count
    · obtain ⟨⟨retryAfter, reason, hr⟩, -⟩ := check_of_violation ⟨rfl, hb, hc⟩ hp
      simp [hr, Decision.isBanned]
    · rw [check_result_of_not_banned hb, count_of_within (Nat.not_lt.1 hc)]
      simp [Decision.isBanned]

theorem nextRecord_open (l : Limiter) (now : Millis) (key : Key)
    (hw : 0 < (l.settings.ceiling key.dimension).window) :
    now - (l.nextRecord now key).windowStart < (l.settings.ceiling key.dimension).window ∧
      (l.nextRecord now key).count ≤ maxCount := by
  have hnow : now - now < (l.settings.ceiling key.dimension).window := by rwa [Int.sub_self]
  have hone : 1 ≤ maxCount := by decide
  unfold nextRecord Record.next
  cases l.record? key with
  | none => exact ⟨hnow, hone⟩
  | some r =>
    dsimp only
    unfold Record.hit
    split_ifs with h
    · exact ⟨h, countUp_le _⟩
    · exact ⟨hnow, hone⟩

theorem nextRecord_exceeds_again (hw : 0 < (l.settings.ceiling key.dimension).window)
    (h : Turn.Exceeds key ⟨l, now, .check key⟩) :
    let l' := (l.check now key).state
    (l'.settings.ceiling key.dimension).maxRequests.toNat < (l'.nextRecord now key).count := by
  intro l'
  obtain ⟨-, hb, hc⟩ := h
  obtain ⟨hopen, hmost⟩ := l.nextRecord_open now key hw
  obtain ⟨v, hr⟩ := record?_counted hb
  have hsettings : l'.settings = l.settings := l.check_settings now key
  -- the clock stands still, so the next request falls into the window of this one
  have hnext : (l'.nextRecord now key).count = countUp (l.nextRecord now key).count := by
    unfold nextRecord Record.next Record.hit at *
    rw [hr, hsettings]
    exact congrArg Record.count (if_pos hopen)
  rw [hsettings, hnext]
  exact lt_countUp hc hmost

theorem activeBan?_of_provoked (hb : l.activeBan? now key = none) (hp : l.provoked? now key = some b) :
    (l.check now key).state.activeBan? now key = if 0 < l.settings.banDuration then some b else none := by
  have hactive : b.isActive now = decide (0 < l.settings.banDuration) := by
    unfold Ban.isActive
    rw [(provoked?_eq_some hp).2]
    exact decide_eq_decide.2 (lt_add_iff_pos_right now)
  rw [activeBan?, check_bans_of_not_banned hb, if_pos rfl, hp, Option.filter_some, hactive]
  simp

/-- A ban that lasts is shown at once, and refuses the next request as it answered this one. -/
theorem enforced_of_provoked (hb : l.activeBan? now key = none) (hp : l.provoked? now key = some b)
    (hlasts : 0 < l.settings.banDuration) :
    let l' := (l.check now key).state
    l'.activeBan? now key = some b ∧ (l'.check now key).result = bannedDecision key b := by
  intro l'
  have hactive : l'.activeBan? now key = some b := (activeBan?_of_provoked hb hp).trans (if_pos hlasts)
  refine ⟨hactive, ?_⟩
  rw [check_of_banned hactive]
  rfl

/-- A ban that does not last is never shown.  The next request is refused as one too many, or by another such ban if it
takes one violation for it. -/
theorem unenforced_of_provoked (hw : 0 < (l.settings.ceiling key.dimension).window)
    (hb : l.activeBan? now key = none) (hp : l.provoked? now key = some b) (hlasts : ¬ 0 < l.settings.banDuration) :
    let l' := (l.check now key).state
    l'.activeBan? now key = none ∧ (l'.check now key).result.isAllowed = false ∧
      ((l'.check now key).result.isBanned = true ↔ l.settings.banThreshold.toNat ≤ 1) := by
  intro l'
  have hnone : l'.activeBan? now key = none := (activeBan?_of_provoked hb hp).trans (if_neg hlasts)
  have hexceeds : Turn.Exceeds key ⟨l', now, .check key⟩ :=
    ⟨rfl, hnone, nextRecord_exceeds_again hw (exceeds_of_provoked hb hp)⟩
  have hcleared : l'.violations key = 0 := (check_of_provoked hb hp).2
  refine ⟨hnone, ?_, ?_⟩
  · rw [(check_of_not_banned hnone).1]
    exact decide_eq_false (Nat.not_le.2 hexceeds.2.2)
  · -- the violations start anew, so this one is the first
    rw [isBanned_check_iff hnone, provoked?_isSome_iff hexceeds, hcleared, check_settings]
    rfl

end Limiter

end SiteEdit.Limit
