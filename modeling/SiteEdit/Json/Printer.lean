import SiteEdit.Json.Basic
/-!
# Writing JSON

`compact` writes a value without blanks; `pretty` writes each item and member on a line of its own, two blanks
deeper than the brackets around it.  Both keep the order of the members, escape what must be escaped and leave all
other characters as they are.
-/
namespace SiteEdit.Json

/-- The lower-case hexadecimal digit of a number below sixteen. -/
def hexDigit (n : Nat) : Char := Nat.digitChar n

/-- One character inside quotes. -/
def escapeChar (c : Char) : List Char :=
  if c = '"' then ['\\', '"']
  else if c = '\\' then ['\\', '\\']
  else if c = '\n' then ['\\', 'n']
  else if c = '\r' then ['\\', 'r']
  else if c = '\t' then ['\\', 't']
  else if c = Char.ofNat 0x08 then ['\\', 'b']
  else if c = Char.ofNat 0x0C then ['\\', 'f']
  else if c.toNat < 0x20 then ['\\', 'u', '0', '0', hexDigit (c.toNat / 16), hexDigit (c.toNat % 16)]
  else [c]

/-- A string in quotes. -/
def quote (s : String) : List Char := '"' :: s.toList.flatMap escapeChar ++ ['"']

/-- The text of a whole number. -/
def intText (n : Int) : List Char :=
  if n < 0 then '-' :: Nat.toDigits 10 n.natAbs else Nat.toDigits 10 n.natAbs

/-- The text of a number. -/
def numberText : JsonNumber → List Char
  | .int n => intText n
  | .real x => x.text

mutual

/-- A value without blanks. -/
def compactText : Json → List Char
  | .null => ['n', 'u', 'l', 'l']
  | .bool true => ['t', 'r', 'u', 'e']
  | .bool false => ['f', 'a', 'l', 's', 'e']
  | .num n => numberText n
  | .str s => quote s
  | .arr items => '[' :: compactItems items ++ [']']
  | .obj members => '\x7b' :: compactMembers members ++ ['\x7d']
termination_by structural j => j

def compactItems : List Json → List Char
  | [] => []
  | [j] => compactText j
  | j :: rest => compactText j ++ ',' :: compactItems rest
termination_by structural l => l

def compactMembers : List (String × Json) → List Char
  | [] => []
  | [m] => compactMember m
  | m :: rest => compactMember m ++ ',' :: compactMembers rest
termination_by structural l => l

def compactMember : String × Json → List Char
  | (k, j) => quote k ++ ':' :: compactText j
termination_by structural m => m

end

/-- A line break and the blanks of a depth. -/
def newline (depth : Nat) : List Char := '\n' :: List.replicate (2 * depth) ' '

mutual

/-- A value over several lines, its brackets at the given depth. -/
def prettyText (depth : Nat) : Json → List Char
  | .arr [] => ['[', ']']
  | .arr items => '[' :: prettyItems (depth + 1) items ++ newline depth ++ [']']
  | .obj [] => ['\x7b', '\x7d']
  | .obj members => '\x7b' :: prettyMembers (depth + 1) members ++ newline depth ++ ['\x7d']
  | j => compactText j
termination_by structural j => j

def prettyItems (depth : Nat) : List Json → List Char
  | [] => []
  | [j] => newline depth ++ prettyText depth j
  | j :: rest => newline depth ++ prettyText depth j ++ ',' :: prettyItems depth rest
termination_by structural l => l

def prettyMembers (depth : Nat) : List (String × Json) → List Char
  | [] => []
  | [m] => newline depth ++ prettyMember depth m
  | m :: rest => newline depth ++ prettyMember depth m ++ ',' :: prettyMembers depth rest
termination_by structural l => l

def prettyMember (depth : Nat) : String × Json → List Char
  | (k, j) => quote k ++ ':' :: ' ' :: prettyText depth j
termination_by structural m => m

end

/-- A value without blanks. -/
def compact (j : Json) : String := String.ofList (compactText j)

/-- A value over several lines. -/
def pretty (j : Json) : String := String.ofList (prettyText 0 j)

end SiteEdit.Json
