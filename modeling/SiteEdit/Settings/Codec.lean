import SiteEdit.Audit.Codec
import SiteEdit.Limit.Codec
import SiteEdit.Session.Codec
import SiteEdit.Settings.Basic
/-!
# Settings as JSON

Every section may be left out, and so may most of its fields.
-/
namespace SiteEdit.Settings

open Json (fields?)

namespace Sweeper

def toJson (s : Sweeper) : Json :=
  .obj [("enabled", .bool s.enabled), ("interval_secs", Json.ofNat s.intervalSecs.toNat)]

def ofJson? (j : Json) : Option Sweeper := do
  let f ← fields? ["enabled", "interval_secs"] j
  let standard : Sweeper := {}
  pure
    { enabled := ← f.getD "enabled" Json.bool? standard.enabled
      intervalSecs := ← f.getD "interval_secs" Json.word64? standard.intervalSecs }

end Sweeper

def toJson (s : Settings) : Json :=
  .obj
    [("policy", s.policy.toJson), ("rate_limit", s.limits.toJson), ("session", s.sessions.toJson),
      ("audit", s.audit.toJson), ("sweeper", s.sweeper.toJson)]

/-- Reads settings.  What is left out has its default. -/
def ofJson? (j : Json) : Option Settings := do
  let f ← fields? ["policy", "rate_limit", "session", "audit", "sweeper"] j
  pure
    { policy := ← f.getD "policy" Policy.Adjustment.ofJson? {}
      limits := ← f.getD "rate_limit" Limit.Settings.ofJson? {}
      sessions := ← f.getD "session" Session.Settings.ofJson? {}
      audit := ← f.getD "audit" Audit.Settings.ofJson? {}
      sweeper := ← f.getD "sweeper" Sweeper.ofJson? {} }

end SiteEdit.Settings
