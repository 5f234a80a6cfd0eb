import Mathlib.Algebra.Group.Int.Defs
/-!
# Times that fit

Sums of times are exact.  In 64 bits with a sign they are so as long as they fit (`InRange`), and what is proved with
times that are kept in so many bits in mind asks for it.  A time that is near leaves room for sums.
-/
namespace SiteEdit

/-- A time, or a stretch of time, that fits in 64 bits with a sign. -/
def InRange (t : Int) : Prop := -2 ^ 63 ≤ t ∧ t < 2 ^ 63

instance (t : Int) : Decidable (InRange t) := inferInstanceAs (Decidable (_ ∧ _))

/-- A time, or a stretch of time, so short of the end of the range that a few of them can be added. -/
structure IsNear (t : Int) : Prop where
  nonneg : 0 ≤ t
  le : t ≤ 2 ^ 61

namespace IsNear

variable {t d : Int}

theorem iff (t : Int) : 0 ≤ t ∧ t ≤ 2 ^ 61 ↔ IsNear t := ⟨fun h => ⟨h.1, h.2⟩, fun h => ⟨h.nonneg, h.le⟩⟩

instance (t : Int) : Decidable (IsNear t) := decidable_of_iff _ (iff t)

theorem inRange_add (ht : IsNear t) (hd : IsNear d) : InRange (t + d) := by
  rw [← iff] at ht hd
  unfold InRange
  omega

theorem inRange_sub (ht : IsNear t) (hd : IsNear d) : InRange (t - d) := by
  rw [← iff] at ht hd
  unfold InRange
  omega

end IsNear

end SiteEdit
