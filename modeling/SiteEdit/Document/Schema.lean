import SiteEdit.Document.Codec
import SiteEdit.Json.Printer
/-!
# The schema of documents

A value is checked against the schema before it is read as a document.  The check does not stop at the first fault:
it lists all of them, each with the path to its place.  Only a value that is no object, or whose changes are no
list, is not looked into any further.
-/
namespace SiteEdit.Schema

/-! ## Faults -/

/-- What can be wrong at one place. -/
inductive Complaint where
  | documentNotObject
  | changeNotObject
  | required
  | unknownField
  | unsupportedVersion (found : String)
  | unknownOperation (found : Json)
  | notString
  | notBoolean
  | notInteger
  | notArray
  | tooLong (limit : Nat)
  | badFormat
  | notOneOf (allowed : List String)
  | notBetween (low high : Int)
  | noChanges
  | tooManyChanges
  | tooManyItems (limit : Nat)
  deriving DecidableEq, Repr

/-- The sentence for a complaint. -/
def Complaint.message : Complaint → String
  | .documentNotObject => "document must be an object"
  | .changeNotObject => "change must be an object"
  | .required => "is required"
  | .unknownField => "unknown field"
  | .unsupportedVersion found =>
    "unsupported version \"" ++ found ++ "\", expected \"" ++ Document.currentVersion ++ "\""
  | .unknownOperation found =>
    "unknown operation " ++ found.compact ++ ", expected one of: "
      ++ String.intercalate ", " (Operation.all.map Operation.name)
  | .notString => "must be a string"
  | .notBoolean => "must be a boolean"
  | .notInteger => "must be an integer"
  | .notArray => "must be an array"
  | .tooLong limit => "must be at most " ++ toString limit ++ " characters"
  | .badFormat => "has an invalid format"
  | .notOneOf allowed => "must be one of: " ++ String.intercalate ", " allowed
  | .notBetween low high =>
    "must be between " ++ String.ofList (Json.intText low) ++ " and " ++ String.ofList (Json.intText high)
  | .noChanges => "must contain at least 1 change"
  | .tooManyChanges => "must contain at most " ++ toString Document.maxChanges ++ " changes"
  | .tooManyItems limit => "must contain at most " ++ toString limit ++ " items"

/-- A complaint and the path to its place. -/
structure Fault where
  path : String
  complaint : Complaint
  deriving DecidableEq, Repr

/-! ## Fields -/

/-- The most characters of a text. -/
def maxText : Nat := 200

/-- The most indices of an order. -/
def maxOrder : Nat := 50

/-- Whether a text is a selector: an id or class of at most 65 characters, or a tag of at most 16. -/
def isSelector : List Char → Bool
  | '#' :: c :: cs | '.' :: c :: cs =>
    c.isAlpha && cs.all (fun c => c.isAlphanum || c == '_' || c == '-') && cs.length ≤ 63
  | c :: cs => c.isLower && cs.all (fun c => c.isLower || c.isDigit) && cs.length ≤ 15
  | [] => false

/-- Whether a text is the name of a style variable. -/
def isStyleVar : List Char → Bool
  | '-' :: '-' :: c :: cs =>
    c.isLower && cs.all (fun c => c.isLower || c.isDigit || c == '-') && cs.length ≤ 62
  | _ => false

/-- Whether a character may stand in the value of a style variable. -/
def isStyleChar (c : Char) : Bool :=
  c.isAlphanum || c == '#' || c == '%' || c == '.' || c == ' ' || c == '-'

/-- Whether a text is the value of a style variable. -/
def isStyleValue (cs : List Char) : Bool := !cs.isEmpty && cs.all isStyleChar

/-- The written forms that a string can be held to. -/
inductive Form where
  | selector
  | styleVar
  | styleValue
  deriving DecidableEq, Repr

/-- Whether a text has a form. -/
def Form.admits : Form → List Char → Bool
  | .selector => isSelector
  | .styleVar => isStyleVar
  | .styleValue => isStyleValue

/-- What a field must be. -/
inductive Constraint where
  /-- A string of limited length, of a form if there is one. -/
  | text (limit : Nat) (form : Option Form)
  /-- One of some words. -/
  | word (allowed : List String)
  | truth
  /-- A whole number between two bounds, both included. -/
  | whole (low high : Int)
  /-- A list of limited length of whole numbers between two bounds. -/
  | wholes (limit : Nat) (low high : Int)
  /-- Anything: the property decides. -/
  | anything
  deriving DecidableEq, Repr

/-- The most characters of a word. -/
def maxWord : Nat := 32

/-- The length of a string, if it is past the limit. -/
def checkLength (path : String) (limit : Nat) (s : String) : List Fault :=
  if limit < s.length then [⟨path, .tooLong limit⟩] else []

/-- Whether a whole number lies between two bounds.  A number of more than 63 bits is none. -/
def checkWhole (path : String) (low high : Int) (j : Json) : List Fault :=
  match Json.int64? j with
  | none => [⟨path, .notInteger⟩]
  | some n => if low ≤ n ∧ n ≤ high then [] else [⟨path, .notBetween low high⟩]

/-- The items of a list, counted from `i`. -/
def checkItems (path : String) (low high : Int) : Nat → List Json → List Fault
  | _, [] => []
  | i, j :: rest => checkWhole (path ++ "[" ++ toString i ++ "]") low high j ++ checkItems path low high (i + 1) rest

/-- The faults of a field's value. -/
def Constraint.check (path : String) : Constraint → Json → List Fault
  | .text limit form, j =>
    match j with
    | .str s =>
      checkLength path limit s ++ (if form.all (fun f => f.admits s.toList) then [] else [⟨path, .badFormat⟩])
    | _ => [⟨path, .notString⟩]
  | .word allowed, j =>
    match j with
    | .str s => checkLength path maxWord s ++ (if allowed.contains s then [] else [⟨path, .notOneOf allowed⟩])
    | _ => [⟨path, .notString⟩]
  | .truth, j =>
    match j with
    | .bool _ => []
    | _ => [⟨path, .notBoolean⟩]
  | .whole low high, j => checkWhole path low high j
  | .wholes limit low high, j =>
    match j with
    | .arr items =>
      (if limit < items.length then [⟨path, .tooManyItems limit⟩] else []) ++ checkItems path low high 0 items
    | _ => [⟨path, .notArray⟩]
  | .anything, _ => []

/-! ## The schema -/

/-- The properties that can be set, and what their values must be. -/
def properties : List (String × Constraint) := [
  ("opacity", .whole 0 100),
  ("font_size", .whole 10 72),
  ("font_weight", .word ["normal", "bold", "lighter", "bolder", "400", "700"]),
  ("border_radius", .whole 0 48),
  ("text_align", .word ["left", "center", "right", "justify"])]

/-- The fields of an operation besides its name, in the order in which they are checked. -/
def fieldsOf : Operation → List (String × Constraint)
  | .setText => [("selector", .text 64 (some .selector)), ("text", .text maxText none)]
  | .setStyleVar =>
    [("selector", .text 64 (some .selector)), ("var", .text 64 (some .styleVar)),
      ("value", .text 64 (some .styleValue))]
  | .toggle => [("selector", .text 64 (some .selector)), ("visible", .truth)]
  | .reorder => [("selector", .text 64 (some .selector)), ("order", .wholes maxOrder 0 49)]
  | .setProp =>
    [("selector", .text 64 (some .selector)), ("prop", .word (properties.map Prod.fst)), ("value", .anything)]

/-- The faults of the declared fields. -/
def checkFields (path : String) (op : Operation) (members : List (String × Json)) : List Fault :=
  (fieldsOf op).flatMap fun (name, constraint) =>
    match members.lookup name with
    | some j => constraint.check (path ++ "." ++ name) j
    | none => [⟨path ++ "." ++ name, .required⟩]

/-- The members that the operation does not declare. -/
def checkUndeclared (path : String) (op : Operation) (members : List (String × Json)) : List Fault :=
  members.filterMap fun (key, _) =>
    if key == "op" || (fieldsOf op).any (fun f => f.1 == key) then none
    else some ⟨path ++ "." ++ key, .unknownField⟩

/-- The faults of the value of a property, once the property is known. -/
def checkProperty (path : String) (members : List (String × Json)) : List Fault :=
  match members.lookup "prop", members.lookup "value" with
  | some (.str prop), some value =>
    match properties.lookup prop with
    | some constraint => constraint.check (path ++ ".value") value
    | none => []
  | _, _ => []

/-- The faults of the members of a change whose operation is known. -/
def checkMembers (path : String) (op : Operation) (members : List (String × Json)) : List Fault :=
  checkFields path op members ++ checkUndeclared path op members
    ++ (if op = .setProp then checkProperty path members else [])

/-- The faults of a change. -/
def checkChange (path : String) : Json → List Fault
  | .obj members =>
    match members.lookup "op" with
    | none => [⟨path ++ ".op", .required⟩]
    | some found =>
      match found.asString?.bind Operation.ofName? with
      | some op => checkMembers path op members
      | none => [⟨path ++ ".op", .unknownOperation found⟩]
  | _ => [⟨path, .changeNotObject⟩]

/-- The faults of the changes, counted from `i`. -/
def checkChanges : Nat → List Json → List Fault
  | _, [] => []
  | i, j :: rest => checkChange ("changes[" ++ toString i ++ "]") j ++ checkChanges (i + 1) rest

/-- The faults of the version. -/
def checkVersion : Option Json → List Fault
  | none => [⟨"version", .required⟩]
  | some (.str v) => if v = Document.currentVersion then [] else [⟨"version", .unsupportedVersion v⟩]
  | some _ => [⟨"version", .notString⟩]

/-- The faults of the list of changes. -/
def checkChangeList : Option Json → List Fault
  | none => [⟨"changes", .required⟩]
  | some (.arr changes) =>
    (if changes.isEmpty then [⟨"changes", .noChanges⟩] else [])
      ++ (if Document.maxChanges < changes.length then [⟨"changes", .tooManyChanges⟩] else [])
      ++ checkChanges 0 changes
  | some _ => [⟨"changes", .notArray⟩]

/-- All faults of a value, in order. -/
def check : Json → List Fault
  | .obj members =>
    checkVersion (members.lookup "version")
      ++ members.filterMap (fun (key, _) =>
        if key == "version" || key == "changes" then none else some ⟨key, .unknownField⟩)
      ++ checkChangeList (members.lookup "changes")
  | _ => [⟨"$", .documentNotObject⟩]

/-! ## Reports -/

/-- A fault as it is reported. -/
structure FieldError where
  path : String
  message : String
  deriving DecidableEq, Repr

/-- The line that reports a fault. -/
def FieldError.text (e : FieldError) : String := e.path ++ ": " ++ e.message

/-- The outcome of checking a value. -/
structure Report where
  valid : Bool
  errors : List FieldError
  deriving DecidableEq, Repr

/-- The report of some faults: without faults the value is valid. -/
def Report.ofFaults (faults : List Fault) : Report :=
  { valid := faults.isEmpty, errors := faults.map fun f => { path := f.path, message := f.complaint.message } }

/-- The lines of a report. -/
def Report.messages (r : Report) : List String := r.errors.map FieldError.text

/-- A reported fault as it is shown. -/
def FieldError.toJson (e : FieldError) : Json := .obj [("path", .str e.path), ("message", .str e.message)]

def FieldError.ofJson? (j : Json) : Option FieldError := do
  let f ← Json.fields? ["path", "message"] j
  pure { path := ← f.get "path" Json.asString?, message := ← f.get "message" Json.asString? }

/-- A report as it is shown. -/
def Report.toJson (r : Report) : Json :=
  .obj [("valid", .bool r.valid), ("errors", Json.ofList FieldError.toJson r.errors)]

def Report.ofJson? (j : Json) : Option Report := do
  let f ← Json.fields? ["valid", "errors"] j
  pure { valid := ← f.get "valid" Json.bool?, errors := ← f.get "errors" (Json.list? FieldError.ofJson?) }

/-- The report on a value. -/
def validate (j : Json) : Report := Report.ofFaults (check j)

/-- The report on a document. -/
def validateDocument (d : Document) : Report := validate d.toValue

/-- The report on a valid value that cannot be read. -/
def unreadable : Report := { valid := false, errors := [⟨"$", "Serialization error"⟩] }

/-- The document that a valid value holds, or the report that says why there is none. -/
def intoDocument (j : Json) : Except Report Document :=
  let report := validate j
  if report.valid then
    match Document.ofValue? j with
    | some d => .ok d
    | none => .error unreadable
  else .error report

end SiteEdit.Schema
