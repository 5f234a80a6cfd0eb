import SiteEdit.Limit.Key
import SiteEdit.Time
/-!
# Settings of the limits
-/
namespace SiteEdit.Limit

/-- How many requests may come in one window of time. -/
structure Ceiling where
  maxRequests : UInt32
  windowSecs : UInt64
  deriving DecidableEq, Repr

/-- How long a window is. -/
def Ceiling.window (c : Ceiling) : Millis := seconds c.windowSecs

/-- The settings of a limiter. -/
structure Settings where
  /-- How many violations lead to a ban. -/
  banThreshold : UInt32 := 3
  /-- How long such a ban lasts. -/
  banDurationSecs : UInt64 := 900
  /-- How long the record of a key is kept after its last request. -/
  idleRecordTtlSecs : UInt64 := 3600
  ip : Ceiling := { maxRequests := 30, windowSecs := 60 }
  session : Ceiling := { maxRequests := 10, windowSecs := 60 }
  deriving DecidableEq, Repr

namespace Settings

/-- The ceiling of a dimension. -/
def ceiling (s : Settings) : Dimension → Ceiling
  | .ip => s.ip
  | .session => s.session

/-- How long a ban for violations lasts. -/
def banDuration (s : Settings) : Millis := seconds s.banDurationSecs

/-- How long an idle record of a dimension is kept: never less than its window. -/
def retention (s : Settings) (d : Dimension) : Millis := max (seconds s.idleRecordTtlSecs) (s.ceiling d).window

end Settings

end SiteEdit.Limit
