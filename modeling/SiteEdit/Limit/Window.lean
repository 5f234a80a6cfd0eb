import SiteEdit.Limit.Settings
/-!
# Windows

A window starts with a request and has a fixed length.  The record of a key counts the requests in its window, the
refused ones too, and the violations, which a new window does not forget.  Counts stop at the largest number of 32
bits.
-/
namespace SiteEdit.Limit

/-- The largest count, one less than `2 ^ 32`. -/
def maxCount : Nat := 4294967295

/-- One more, up to the largest count. -/
def countUp (n : Nat) : Nat := min (n + 1) maxCount

/-- What is known of a key. -/
structure Record where
  count : Nat
  windowStart : Millis
  violations : Nat
  lastSeen : Millis
  deriving DecidableEq, Repr

namespace Record

/-- The record after the first request. -/
def first (now : Millis) : Record := { count := 1, windowStart := now, violations := 0, lastSeen := now }

/-- The record with one more request, in its window or in a new one. -/
def hit (r : Record) (now window : Millis) : Record :=
  if now - r.windowStart < window then { r with count := countUp r.count, lastSeen := now }
  else { r with count := 1, windowStart := now, lastSeen := now }

/-- The record with one more violation. -/
def violate (r : Record) : Record := { r with violations := countUp r.violations }

/-- How long it is until the window ends. -/
def untilWindowEnd (r : Record) (now window : Millis) : Millis := max 0 (r.windowStart + window - now)

end Record

/-- Whether a request is within the ceiling. -/
inductive Outcome where
  | within (remaining : Nat)
  | exceeded (retryAfter : Millis)
  deriving DecidableEq, Repr

/-- One more request of a key. -/
def step (previous : Option Record) (now : Millis) (ceiling : Ceiling) : Record × Outcome :=
  let record := match previous with
    | some r => r.hit now ceiling.window
    | none => .first now
  if ceiling.maxRequests.toNat < record.count then
    (record.violate, .exceeded (record.untilWindowEnd now ceiling.window))
  else (record, .within (ceiling.maxRequests.toNat - record.count))

end SiteEdit.Limit
