import SiteEdit.Settings.Codec
import SiteEdit.Toml.Printer
import SiteEdit.Toml.Reader
/-!
# Settings as text

Settings are kept in TOML.  A text is refused if it is not well written, if a value in it has the wrong type or is
out of range, or if the settings have a fault.
-/
namespace SiteEdit.Settings

/-- Why a text is refused. -/
inductive TextError where
  | unreadable
  | fault (f : Fault)
  deriving DecidableEq, Repr

/-- The first `n` items of a list; anything else as it is. -/
def firstItems (n : Nat) : Json → Json
  | .arr items => .arr (items.take n)
  | j => j

/-- A section that may be the list of its fields, without items after the last field. -/
def sectionFields (name : String) (j : Json) : Json :=
  if name = "policy" then firstItems 4 j
  else if name = "rate_limit" then
    match firstItems 5 j with
    | .arr items => .arr (items.map (firstItems 2))
    | .obj members => .obj (members.map fun m => (m.1, firstItems 2 m.2))
    | j => j
  else if name = "session" then firstItems 3 j
  else if name = "audit" then firstItems 1 j
  else if name = "sweeper" then firstItems 2 j
  else j

/-- In a text a section may be a list that is too long: the items after its last field mean nothing. -/
def withoutSurplus : Json → Json
  | .obj members => .obj (members.map fun m => (m.1, sectionFields m.1 m.2))
  | j => j

/-- The settings in a text. -/
def ofText? (text : String) : Except TextError Settings :=
  match (Toml.parse? text).bind fun j => ofJson? (withoutSurplus j) with
  | none => .error .unreadable
  | some s =>
    match s.fault? with
    | some f => .error (.fault f)
    | none => .ok s

/-- The text of settings. -/
def toText (s : Settings) : String := Toml.print s.toJson

end SiteEdit.Settings
