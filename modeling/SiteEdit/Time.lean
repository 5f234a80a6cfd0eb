/-!
# Times and durations

Times and durations are whole numbers of milliseconds.  A duration in seconds can be longer than the longest
duration in milliseconds, which it then becomes.  Sums of times are exact; a statement that depends on whether 64 bits
with a sign can hold one says so (`InRange`).
-/
namespace SiteEdit

/-- A time, or the length of a stretch of time, in milliseconds. -/
abbrev Millis := Int

/-- The longest duration, one less than `2 ^ 63`. -/
def longestDuration : Millis := 9223372036854775807

/-- A number of seconds as a duration. -/
def seconds (n : UInt64) : Millis := min ((n.toNat : Int) * 1000) longestDuration

theorem seconds_nonneg (n : UInt64) : 0 ≤ seconds n := by
  exact Int.le_min.2 ⟨by omega, by unfold longestDuration; omega⟩

end SiteEdit
