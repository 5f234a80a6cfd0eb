import SiteEdit.Text.Find
/-!
# What requests are counted against

Requests are counted for an address and for a session.  The text of a key is its dimension, a colon and its value.
-/
namespace SiteEdit.Limit

/-- What a key stands for. -/
inductive Dimension where
  | ip
  | session
  deriving DecidableEq, Repr

namespace Dimension

def all : List Dimension := [.ip, .session]

def name : Dimension → String
  | .ip => "ip"
  | .session => "session"

/-- The dimension with a name. -/
def ofName? (s : String) : Option Dimension := all.find? fun d => d.name == s

theorem ofName?_name (d : Dimension) : ofName? d.name = some d := by cases d <;> rfl

end Dimension

/-- One address or session. -/
structure Key where
  dimension : Dimension
  value : String
  deriving DecidableEq, Repr

namespace Key

/-- The key of an address. -/
def ip (value : String) : Key := { dimension := .ip, value := value }

/-- The key of a session. -/
def session (value : String) : Key := { dimension := .session, value := value }

/-- The session of a key, if it stands for one. -/
def session? (k : Key) : Option String :=
  match k.dimension with
  | .session => some k.value
  | .ip => none

/-- The text of a key. -/
def text (k : Key) : String := k.dimension.name ++ ":" ++ k.value

/-- Reads a key.  The value follows the first colon and is not empty. -/
def ofText? (s : String) : Option Key := do
  let (name, value) ← Text.splitFirst? ':' s.toList
  let dimension ← Dimension.ofName? (String.ofList name)
  if value.isEmpty then none else some { dimension := dimension, value := String.ofList value }

/-- The sentence about a text that is no key's. -/
def invalidMessage (s : String) : String :=
  "Invalid limit key '" ++ s ++ "', expected ip:<addr> or session:<id>"

/-- The dimension that the text of a key shows; what shows none counts as an address. -/
def dimensionOf (s : String) : Dimension :=
  match Text.splitFirst? ':' s.toList with
  | some (name, _) => if name = "session".toList then .session else .ip
  | none => .ip

end Key

end SiteEdit.Limit
