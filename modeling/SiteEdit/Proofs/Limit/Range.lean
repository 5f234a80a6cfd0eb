import SiteEdit.Proofs.Limit.Bans
import SiteEdit.Proofs.Range
/-!
# Sums of times in the limiter

The limiter adds and subtracts times: how long ago the window of a request began, when it ends, how long that is and
when a ban ends.  In 64 bits all this is exact in the runs in which every sum fits (`StaysInRange`).
-/
namespace SiteEdit.Limit.Limiter

variable {l : Limiter} {now : Millis} {key : Key} {act : Action} {acts acts' : Actions} {b : Ban}

/-- The sums for a request that is counted.  Past the ceiling they are those for the end of its window, and the one for
the end of the ban that it leads to or for the time to wait, rounded up. -/
def countSums (l : Limiter) (now : Millis) (key : Key) : List Int :=
  let ceiling := l.settings.ceiling key.dimension
  let r := l.nextRecord now key
  (l.record? key).toList.map (fun before => now - before.windowStart) ++
    if ceiling.maxRequests.toNat < r.count then
      [r.windowStart + ceiling.window, r.windowStart + ceiling.window - now,
        if (l.provoked? now key).isSome then now + l.settings.banDuration
        else r.untilWindowEnd now ceiling.window + 999]
    else []

/-- The sums for an action. -/
def sums (l : Limiter) (now : Millis) : Action → List Int
  | .check key => if (l.activeBan? now key).isSome then [] else l.countSums now key
  | .ban _ _ duration => duration.toList.map (now + ·)
  | .sweep => l.records.entries.map fun entry => now - entry.2.lastSeen
  | _ => []

/-- The sums for actions, one after the other. -/
def runSums (l : Limiter) : Actions → List Int
  | [] => []
  | (now, act) :: acts => l.sums now act ++ (l.perform now act).state.runSums acts

/-- **No sum of a run overflows** 64 bits. -/
def StaysInRange (l : Limiter) (acts : Actions) : Prop := ∀ t ∈ l.runSums acts, InRange t

instance : Decidable (l.StaysInRange acts) := inferInstanceAs (Decidable (∀ t ∈ l.runSums acts, InRange t))

theorem runSums_append : ∀ (acts acts' : Actions) (l : Limiter),
    l.runSums (acts ++ acts') = l.runSums acts ++ (l.run acts).runSums acts'
  | [], _, _ => rfl
  | (now, act) :: acts, acts', l => by
    rw [List.cons_append, runSums, runSums_append acts acts', runSums, List.append_assoc]
    rfl

theorem staysInRange_append :
    l.StaysInRange (acts ++ acts') ↔ l.StaysInRange acts ∧ (l.run acts).StaysInRange acts' := by
  unfold StaysInRange
  rw [runSums_append, List.forall_mem_append]

theorem staysInRange_singleton : l.StaysInRange [(now, act)] ↔ ∀ t ∈ l.sums now act, InRange t := by
  simp [StaysInRange, runSums]

section Request

variable (h : l.StaysInRange [(now, .check key)]) (hfree : l.activeBan? now key = none)
  (hpast : (l.settings.ceiling key.dimension).maxRequests.toNat < (l.nextRecord now key).count)

include h hfree hpast

/-- The end of a window that is passed is in range. -/
theorem inRange_window :
    InRange ((l.nextRecord now key).windowStart + (l.settings.ceiling key.dimension).window) := by
  rw [staysInRange_singleton, sums, hfree, countSums, if_pos hpast] at h
  exact h _ (by simp)

/-- So is the time to wait, in whole seconds, if the request leads to no ban. -/
theorem inRange_untilWindowEnd (hp : l.provoked? now key = none) :
    InRange ((l.nextRecord now key).untilWindowEnd now (l.settings.ceiling key.dimension).window + 999) := by
  rw [staysInRange_singleton, sums, hfree, countSums, if_pos hpast, hp] at h
  exact h _ (by simp)

end Request

/-- The end of a ban for violations is in range. -/
theorem inRange_ban (h : l.StaysInRange [(now, .check key)]) (hfree : l.activeBan? now key = none)
    (hp : l.provoked? now key = some b) : InRange (now + l.settings.banDuration) := by
  rw [staysInRange_singleton, sums, hfree, countSums, if_pos (past_of_provoked hp), hp] at h
  exact h _ (by simp)

end SiteEdit.Limit.Limiter
