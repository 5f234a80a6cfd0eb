import SiteEdit.Json.Basic
/-!
# Documents of page changes

A document is a version and a list of changes, which are carried out in order.  Every change names the part of the
page it is about by a selector.
-/
namespace SiteEdit

/-- What kinds of change there are. -/
inductive Operation where
  | setText
  | setStyleVar
  | toggle
  | reorder
  | setProp
  deriving DecidableEq, Repr

namespace Operation

/-- All kinds of change, in their fixed order. -/
def all : List Operation := [.setText, .setStyleVar, .toggle, .reorder, .setProp]

/-- The name by which a document calls the operation. -/
def name : Operation → String
  | .setText => "set_text"
  | .setStyleVar => "set_style_var"
  | .toggle => "toggle"
  | .reorder => "reorder"
  | .setProp => "set_prop"

/-- The operation with a name. -/
def ofName? (s : String) : Option Operation := all.find? (fun op => op.name == s)

theorem ofName?_name (op : Operation) : ofName? op.name = some op := by cases op <;> rfl

/-- The sentence about a name that is no operation's. -/
def unknownMessage (s : String) : String := "Unknown operation: " ++ s

end Operation

/-- One change of the page. -/
inductive Change where
  /-- Replaces the text of an element. -/
  | setText (selector text : String)
  /-- Gives a style variable a value. -/
  | setStyleVar (selector var value : String)
  /-- Shows or hides an element. -/
  | toggle (selector : String) (visible : Bool)
  /-- Puts the children of an element into an order, by index. -/
  | reorder (selector : String) (order : List UInt32)
  /-- Gives a property of an element a value. -/
  | setProp (selector prop : String) (value : Json)
  deriving DecidableEq, Repr

namespace Change

/-- What kind of change it is. -/
def op : Change → Operation
  | .setText .. => .setText
  | .setStyleVar .. => .setStyleVar
  | .toggle .. => .toggle
  | .reorder .. => .reorder
  | .setProp .. => .setProp

/-- The part of the page it is about. -/
def selector : Change → String
  | .setText s _ | .setStyleVar s _ _ | .toggle s _ | .reorder s _ | .setProp s _ _ => s

/-- The style variable it sets. -/
def styleVar? : Change → Option String
  | .setStyleVar _ var _ => some var
  | _ => none

/-- The fields whose free text ends up on the page, with their names.  A property value counts only if it is a
string. -/
def textFields : Change → List (String × String)
  | .setText _ text => [("text", text)]
  | .setStyleVar _ _ value => [("value", value)]
  | .setProp _ prop (.str value) => [("prop", prop), ("value", value)]
  | .setProp _ prop _ => [("prop", prop)]
  | .toggle .. | .reorder .. => []

end Change

/-- A version and the changes of the page. -/
structure Document where
  version : String
  changes : List Change
  deriving DecidableEq, Repr

namespace Document

/-- The one version of documents that is understood. -/
def currentVersion : String := "1.0"

/-- The most changes of one document. -/
def maxChanges : Nat := 20

/-- The document with these changes. -/
def ofChanges (changes : List Change) : Document := { version := currentVersion, changes := changes }

end Document

end SiteEdit
