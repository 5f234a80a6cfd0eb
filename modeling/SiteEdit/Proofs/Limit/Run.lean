import SiteEdit.Limit.Limiter
/-!
# Runs of the limiter

A run is a sequence of operations, each at a time of its own.  The times of an ordered run do not go back.
-/
namespace SiteEdit.Limit

open Audit (Audited)

/-- What can be asked of the limiter. -/
inductive Action where
  | check (key : Key)
  | ban (key : Key) (reason : String) (duration : Option Millis)
  | unban (key : Key)
  | ban? (key : Key)
  | bans
  | record (key : Key)
  | reset (key : Key)
  | stats
  | sweep
  deriving DecidableEq, Repr

/-- The key that an action is about. -/
def Action.key? : Action → Option Key
  | .check key | .ban key _ _ | .unban key | .ban? key | .record key | .reset key => some key
  | .bans | .stats | .sweep => none

/-- How long the ban lasts that an action places, unless it lasts for good. -/
def Action.duration? : Action → Option Millis
  | .ban _ _ duration => duration
  | _ => none

/-- What the limiter returns. -/
inductive Answer where
  | decision (decision : Decision)
  | placed (ban : Ban)
  | lifted (yes : Bool)
  | ban (ban : Option Ban)
  | bans (bans : List (String × Ban))
  | record (record : Option Record)
  | done
  | stats (stats : Stats)
  | swept (swept : Swept)
  deriving DecidableEq, Repr

/-- Actions, each with its time. -/
abbrev Actions := List (Millis × Action)

/-- The clock does not go back. -/
def Actions.Ordered (acts : Actions) : Prop := acts.Pairwise fun a b => a.1 ≤ b.1

instance (acts : Actions) : Decidable acts.Ordered := inferInstanceAs (Decidable (acts.Pairwise fun a b => a.1 ≤ b.1))

/-- The clock does not go back, and no action is earlier than `t`. -/
structure Actions.Since (t : Millis) (acts : Actions) : Prop where
  ordered : acts.Ordered
  later : ∀ a ∈ acts, t ≤ a.1

namespace Actions.Since

variable {t now : Millis} {act : Action} {acts : Actions}

theorem le (h : Since t ((now, act) :: acts)) : t ≤ now := h.later _ List.mem_cons_self

theorem tail (h : Since t ((now, act) :: acts)) : Since now acts :=
  ⟨(List.pairwise_cons.1 h.ordered).2, (List.pairwise_cons.1 h.ordered).1⟩

end Actions.Since

theorem Actions.Ordered.exists_since {acts : Actions} (h : acts.Ordered) : ∃ t, Since t acts := by
  cases acts with
  | nil => exact ⟨0, h, fun _ ha => nomatch ha⟩
  | cons a acts =>
    refine ⟨a.1, h, fun b hb => ?_⟩
    rcases List.mem_cons.1 hb with rfl | hb
    · exact Int.le_refl _
    · exact (List.pairwise_cons.1 h).1 b hb

namespace Limiter

def perform (l : Limiter) (now : Millis) : Action → Audited Limiter Answer
  | .check key => (l.check now key).map .decision
  | .ban key reason duration => (l.ban now key reason duration).map .placed
  | .unban key => (l.unban key).map .lifted
  | .ban? key => { result := .ban (l.activeBan? now key), state := l }
  | .bans => { result := .bans (l.activeBans now), state := l }
  | .record key => { result := .record (l.record? key), state := l }
  | .reset key => { result := .done, state := l.reset key }
  | .stats => { result := .stats (l.stats now), state := l }
  | .sweep => (l.sweep now).map .swept

/-- The limiter after actions. -/
def run (l : Limiter) : Actions → Limiter
  | [] => l
  | (now, act) :: acts => (l.perform now act).state.run acts

theorem run_append : ∀ (acts acts' : Actions) (l : Limiter), l.run (acts ++ acts') = (l.run acts).run acts'
  | [], _, _ => rfl
  | (now, act) :: acts, acts', l => run_append acts acts' (l.perform now act).state

end Limiter

end SiteEdit.Limit
