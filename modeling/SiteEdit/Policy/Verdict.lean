/-!
# Verdicts

What a check says about a text or a name, and how risky several failed checks are together.
-/
namespace SiteEdit.Policy

/-- How risky a text or a document is. -/
inductive Risk where
  | low
  | medium
  | high
  deriving DecidableEq, Repr

namespace Risk

def all : List Risk := [.low, .medium, .high]

def name : Risk → String
  | .low => "low"
  | .medium => "medium"
  | .high => "high"

/-- Where a risk stands in the order from low to high. -/
def rank : Risk → Nat
  | .low => 0
  | .medium => 1
  | .high => 2

/-- The risk of a number of failed checks: none is low, one is medium, more are high. -/
def ofFailures : Nat → Risk
  | 0 => .low
  | 1 => .medium
  | _ => .high

end Risk

/-- The checks that a text or a change can fail. -/
inductive Check where
  | length
  | dangerousCommand
  | promptInjection
  | prohibitedContent
  | unsafeMarkup
  | selectorWhitelist
  | variableWhitelist
  deriving DecidableEq, Repr

namespace Check

def all : List Check :=
  [.length, .dangerousCommand, .promptInjection, .prohibitedContent, .unsafeMarkup, .selectorWhitelist,
    .variableWhitelist]

def name : Check → String
  | .length => "length"
  | .dangerousCommand => "dangerous_command"
  | .promptInjection => "prompt_injection"
  | .prohibitedContent => "prohibited_content"
  | .unsafeMarkup => "unsafe_markup"
  | .selectorWhitelist => "selector_whitelist"
  | .variableWhitelist => "variable_whitelist"

end Check

/-- What one check says: the entries of the tables that were found, never the text itself, and why it failed. -/
structure Finding where
  safe : Bool
  detected : List String
  reason : Option String
  deriving DecidableEq, Repr

namespace Finding

/-- A check that passed. -/
def pass : Finding := { safe := true, detected := [], reason := none }

/-- A check that failed. -/
def fail (detected : List String) (reason : String) : Finding :=
  { safe := false, detected := detected, reason := some reason }

/-- Fails with a reason if anything was detected. -/
def ofDetected (detected : List String) (reason : String) : Finding :=
  if detected.isEmpty then pass else fail detected reason

/-- The reason of a failed check and what it detected. -/
def text (f : Finding) : String :=
  let reason := f.reason.getD "check failed"
  if f.detected.isEmpty then reason else reason ++ " [" ++ String.intercalate ", " f.detected ++ "]"

end Finding

end SiteEdit.Policy
