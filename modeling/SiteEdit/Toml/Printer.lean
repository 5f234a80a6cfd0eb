import SiteEdit.Json.Printer
import SiteEdit.Toml.Quoted
/-!
# Writing TOML

The values of a table come first, each on a line of its own, then its tables, each under its header and after an
empty line.  An array of several items is written over several lines.
-/
namespace SiteEdit.Toml

/-- A key, in quotes if it must be. -/
def writeKey (key : String) : List Char :=
  let cs := key.toList
  if !cs.isEmpty && cs.all (fun c => c.isAlphanum || c == '_' || c == '-') then cs else '"' :: writeBasic cs ++ ['"']

/-- A path with dots between its keys. -/
def writePath : List String → List Char
  | [] => []
  | [key] => writeKey key
  | key :: path => writeKey key ++ '.' :: writePath path

/-- A value that is no table.  What cannot be written is left out. -/
def writeScalar : Json → List Char
  | .bool true => "true".toList
  | .bool false => "false".toList
  | .num n => Json.numberText n
  | .str s => writeString s.toList
  | _ => []

/-- An item on a line of its own. -/
def writeItem (j : Json) : List Char := '\n' :: ' ' :: ' ' :: ' ' :: ' ' :: writeScalar j ++ [',']

/-- A value or an array of values. -/
def writeValue : Json → List Char
  | .arr [] => ['[', ']']
  | .arr [j] => '[' :: writeScalar j ++ [']']
  | .arr items => '[' :: items.flatMap writeItem ++ ['\n', ']']
  | j => writeScalar j

/-- Whether a member is a table. -/
def isTable : Json → Bool
  | .obj _ => true
  | _ => false

/-- A key and its value. -/
def writeAssignment (m : String × Json) : List Char := writeKey m.1 ++ [' ', '=', ' '] ++ writeValue m.2 ++ ['\n']

/-- The values of a table. -/
def writeAssignments (ms : List (String × Json)) : List Char :=
  (ms.filter fun m => !isTable m.2).flatMap writeAssignment

mutual

/-- The text of a table with its header, which is left out if there are only tables in it. -/
def tableText (path : List String) : Json → List (List Char)
  | .obj members =>
    (if members.all (fun m => isTable m.2) && !members.isEmpty then []
      else [['['] ++ writePath path ++ [']', '\n'] ++ writeAssignments members]) ++ tablesText path members
  | _ => []
termination_by structural j => j

def tablesText (path : List String) : List (String × Json) → List (List Char)
  | [] => []
  | m :: rest => memberText path m ++ tablesText path rest
termination_by structural l => l

def memberText (path : List String) : String × Json → List (List Char)
  | (key, j) => tableText (path ++ [key]) j
termination_by structural m => m

end

/-- The text of a document. -/
def print : Json → String
  | .obj members =>
    let values := writeAssignments members
    let blocks := (if values.isEmpty then [] else [values]) ++ tablesText [] members
    String.ofList (List.intercalate ['\n'] blocks)
  | _ => ""

end SiteEdit.Toml
