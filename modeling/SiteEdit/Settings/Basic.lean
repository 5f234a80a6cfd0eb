import SiteEdit.Audit.Log
import SiteEdit.Limit.Settings
import SiteEdit.Policy.Adjustment
import SiteEdit.Session.Basic
/-!
# Settings

The settings of all parts of the engine.  Some values would switch a protection off; settings with one of them are
refused.
-/
namespace SiteEdit

/-- The settings of the sweeper, which drops in the background what nobody asks for any more. -/
structure Settings.Sweeper where
  enabled : Bool := true
  intervalSecs : UInt64 := 60
  deriving DecidableEq, Repr

/-- The settings of an engine. -/
structure Settings where
  policy : Policy.Adjustment := {}
  limits : Limit.Settings := {}
  sessions : Session.Settings := {}
  audit : Audit.Settings := {}
  sweeper : Settings.Sweeper := {}
  deriving DecidableEq, Repr

namespace Settings

/-- What must not be zero. -/
inductive Fault where
  | inputLength
  | ceiling (dimension : Limit.Dimension)
  | banThreshold
  | sessionTtl
  | history
  | detached
  | auditEntries
  | sweeperInterval
  deriving DecidableEq, Repr

/-- The sentence for a fault. -/
def Fault.message : Fault → String
  | .inputLength => "policy.max_input_length must be positive"
  | .ceiling d => "rate_limit." ++ d.name ++ " needs a positive max_requests and window_secs"
  | .banThreshold => "rate_limit.ban_threshold must be positive"
  | .sessionTtl => "session.ttl_secs must be positive"
  | .history => "session.max_history must be positive"
  | .detached => "session.max_detached must be positive"
  | .auditEntries => "audit.max_entries must be positive"
  | .sweeperInterval => "sweeper.interval_secs must be positive"

/-- The sentence that refuses settings with a fault. -/
def Fault.refusal (f : Fault) : String := "Invalid configuration: " ++ f.message

/-- Whether a ceiling lets no request through or has no window. -/
def isVoid (c : Limit.Ceiling) : Bool := c.maxRequests == 0 || c.windowSecs == 0

/-- Whether settings have a fault. -/
def has (s : Settings) : Fault → Bool
  | .inputLength => s.policy.maxInputLength == 0
  | .ceiling d => isVoid (s.limits.ceiling d)
  | .banThreshold => s.limits.banThreshold == 0
  | .sessionTtl => s.sessions.ttlSecs == 0
  | .history => s.sessions.maxHistory == 0
  | .detached => s.sessions.maxDetached == 0
  | .auditEntries => s.audit.maxEntries == 0
  | .sweeperInterval => s.sweeper.enabled && s.sweeper.intervalSecs == 0

/-- The faults, in the order in which they are looked for. -/
def allFaults : List Fault :=
  [.inputLength, .ceiling .ip, .ceiling .session, .banThreshold, .sessionTtl, .history, .detached, .auditEntries,
    .sweeperInterval]

/-- The first fault of settings. -/
def fault? (s : Settings) : Option Fault := allFaults.find? s.has

end Settings

end SiteEdit
