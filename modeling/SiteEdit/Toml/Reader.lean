import SiteEdit.Toml.Moment
import SiteEdit.Toml.Table
/-!
# Reading TOML

The statements of a document are read one after the other, each on a line of its own; the tables are built from
them.  JSON has no dates: a date or a time is read as an object without members, and no setting takes it for a value.
-/
namespace SiteEdit.Toml

mutual

/-- A value, in which at most `levels` arrays and inline tables stand in each other. -/
def readValue? : Nat → Nat → List Char → Option (Json × List Char)
  | 0, _, _ => none
  | fuel + 1, levels, cs =>
    match cs with
    | '[' :: rest =>
      match levels with
      | 0 => none
      | levels + 1 => (readItems? fuel levels (skipLines fuel rest)).map fun r => (.arr r.1, r.2)
    | '\x7b' :: rest =>
      match levels with
      | 0 => none
      | levels + 1 =>
        match skipBlanks rest with
        | '\x7d' :: rest => some (.obj [], rest)
        | rest => (readMembers? fuel levels rest).bind fun r => (ofStatements? r.1).map (·, r.2)
    | '"' :: _ => (readString? cs).map fun r => (.str (String.ofList r.1), r.2)
    | '\'' :: _ => (readString? cs).map fun r => (.str (String.ofList r.1), r.2)
    | cs =>
      match readWord? (cs.takeWhile isWordChar) with
      | some j => some (j, cs.dropWhile isWordChar)
      | none => (afterMoment? cs).map (.obj [], ·)

/-- The items of an array, up to its closing bracket. -/
def readItems? : Nat → Nat → List Char → Option (List Json × List Char)
  | 0, _, _ => none
  | fuel + 1, levels, cs =>
    match cs with
    | ']' :: rest => some ([], rest)
    | cs =>
      (readValue? fuel levels cs).bind fun (item, rest) =>
      match skipLines fuel rest with
      | ',' :: rest => (readItems? fuel levels (skipLines fuel rest)).map fun r => (item :: r.1, r.2)
      | ']' :: rest => some ([item], rest)
      | _ => none

/-- The members of an inline table, up to its closing brace. -/
def readMembers? : Nat → Nat → List Char → Option (List Statement × List Char)
  | 0, _, _ => none
  | fuel + 1, levels, cs =>
    (readPath? fuel cs).bind fun (path, rest) =>
    match rest with
    | '=' :: rest =>
      (readValue? fuel levels (skipBlanks rest)).bind fun (value, rest) =>
      match skipBlanks rest with
      | ',' :: rest => (readMembers? fuel levels rest).map fun r => (.assign path value :: r.1, r.2)
      | '\x7d' :: rest => some ([.assign path value], rest)
      | _ => none
    | _ => none

end

/-- One statement, up to the end of its line. -/
def readStatement? (fuel : Nat) (cs : List Char) : Option (Statement × List Char) :=
  match cs with
  | '[' :: '[' :: rest =>
    (readPath? fuel rest).bind fun (path, rest) =>
    match rest with
    | ']' :: ']' :: rest => (endOfLine? rest).map (.itemHeader path, ·)
    | _ => none
  | '[' :: rest =>
    (readPath? fuel rest).bind fun (path, rest) =>
    match rest with
    | ']' :: rest => (endOfLine? rest).map (.header path, ·)
    | _ => none
  | cs =>
    (readPath? fuel cs).bind fun (path, rest) =>
    match rest with
    | '=' :: rest =>
      (readValue? fuel maxDepth (skipBlanks rest)).bind fun (value, rest) => (endOfLine? rest).map (.assign path value, ·)
    | _ => none

/-- All statements. -/
def readStatements? : Nat → List Char → Option (List Statement)
  | 0, _ => none
  | fuel + 1, cs =>
    match skipLines fuel cs with
    | [] => some []
    | cs => (readStatement? fuel cs).bind fun (s, rest) => (readStatements? fuel rest).map (s :: ·)

/-- A text without the mark of its byte order, if it starts with one. -/
def withoutMark : List Char → List Char
  | c :: cs => if c = Char.ofNat 0xFEFF then cs else c :: cs
  | [] => []

/-- The value of a document.  Each step uses up a character, so its length is fuel enough. -/
def parse? (text : String) : Option Json :=
  let cs := withoutMark text.toList
  (readStatements? (cs.length + 2) cs).bind ofStatements?

end SiteEdit.Toml
