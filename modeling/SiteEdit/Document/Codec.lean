import SiteEdit.Document.Basic
import SiteEdit.Json.Record
/-!
# Documents as JSON

`toValue` is the value of a document, with the members of every object in the order of their names; `ofValue?` reads
it back and refuses members it does not know.  `toJson` has the same members in the order in which they are shown.
-/
namespace SiteEdit

namespace Change

/-- The members of a change after its operation, in the order in which they are shown. -/
def members : Change → List (String × Json)
  | .setText selector text => [("selector", .str selector), ("text", .str text)]
  | .setStyleVar selector var value => [("selector", .str selector), ("var", .str var), ("value", .str value)]
  | .toggle selector visible => [("selector", .str selector), ("visible", .bool visible)]
  | .reorder selector order => [("selector", .str selector), ("order", Json.ofList (fun i => Json.ofNat i.toNat) order)]
  | .setProp selector prop value => [("selector", .str selector), ("prop", .str prop), ("value", value)]

/-- A change as it is shown. -/
def toJson (c : Change) : Json := .obj (("op", .str c.op.name) :: c.members)

/-- A change as a value. -/
def toValue (c : Change) : Json := Json.object (("op", .str c.op.name) :: c.members)

/-- Reads the fields of a change. -/
def ofFields? (op : Operation) (j : Json) : Option Change :=
  match op with
  | .setText => do
    let f ← Json.closedFields? ["selector", "text"] j
    pure (.setText (← f.get "selector" Json.asString?) (← f.get "text" Json.asString?))
  | .setStyleVar => do
    let f ← Json.closedFields? ["selector", "var", "value"] j
    pure (.setStyleVar (← f.get "selector" Json.asString?) (← f.get "var" Json.asString?)
      (← f.get "value" Json.asString?))
  | .toggle => do
    let f ← Json.closedFields? ["selector", "visible"] j
    pure (.toggle (← f.get "selector" Json.asString?) (← f.get "visible" Json.bool?))
  | .reorder => do
    let f ← Json.closedFields? ["selector", "order"] j
    pure (.reorder (← f.get "selector" Json.asString?) (← f.get "order" (Json.list? Json.word32?)))
  | .setProp => do
    let f ← Json.closedFields? ["selector", "prop", "value"] j
    pure (.setProp (← f.get "selector" Json.asString?) (← f.get "prop" Json.asString?) (← f.get "value" some))

/-- Reads a change. -/
def ofValue? (j : Json) : Option Change :=
  (Json.tagged? "op" j).bind fun (tag, rest) => (Operation.ofName? tag).bind fun op => ofFields? op rest

end Change

namespace Document

/-- A document as it is shown. -/
def toJson (d : Document) : Json :=
  .obj [("version", .str d.version), ("changes", Json.ofList Change.toJson d.changes)]

/-- A document as a value. -/
def toValue (d : Document) : Json :=
  .obj [("changes", Json.ofList Change.toValue d.changes), ("version", .str d.version)]

/-- Reads a document. -/
def ofValue? (j : Json) : Option Document := do
  let f ← Json.closedFields? ["version", "changes"] j
  pure { version := ← f.get "version" Json.asString?, changes := ← f.get "changes" (Json.list? Change.ofValue?) }

end Document

end SiteEdit
