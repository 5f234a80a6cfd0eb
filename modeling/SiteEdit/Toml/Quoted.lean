import SiteEdit.Json.Reader
/-!
# Strings in TOML

A string has four written forms: between quotes or apostrophes, on one line or over several.  Between quotes some
characters are escaped; between apostrophes every character stands for itself.  A string is written in the first of
the forms that can hold it without an escape.
-/
namespace SiteEdit.Toml

/-- Whether a character may stand in a line as it is. -/
def isPlain (c : Char) : Bool := c == '\t' || (0x20 ≤ c.toNat && c.toNat != 0x7F)

/-- Whether a character is a blank. -/
def isBlank (c : Char) : Bool := c == ' ' || c == '\t'

/-- What follows a line break, if the text starts with one. -/
def afterBreak? : List Char → Option (List Char)
  | '\n' :: cs => some cs
  | '\r' :: '\n' :: cs => some cs
  | _ => none

/-! ## Reading -/

/-- The character of a short escape. -/
def shortEscape? (c : Char) : Option Char :=
  if c = '"' ∨ c = '\\' then some c
  else if c = 'b' then some (Char.ofNat 0x08)
  else if c = 'f' then some (Char.ofNat 0x0C)
  else if c = 'n' then some '\n'
  else if c = 'r' then some '\r'
  else if c = 't' then some '\t'
  else none

/-- The character with a number. -/
def scalar? (n : Nat) : Option Char :=
  if n < 0xD800 ∨ 0xE000 ≤ n ∧ n < 0x110000 then some (Char.ofNat n) else none

/-- The character of an escape by four hexadecimal digits. -/
def shortScalar? (a b c d : Char) : Option Char := (Json.hexUnit? a b c d).bind scalar?

/-- The character of an escape by eight hexadecimal digits. -/
def longScalar? (a b c d e f g h : Char) : Option Char :=
  (Json.hexUnit? a b c d).bind fun high => (Json.hexUnit? e f g h).bind fun low => scalar? (high * 0x10000 + low)

/-- The rest of a string between quotes on one line. -/
def readBasic : List Char → Option (List Char × List Char)
  | [] => none
  | '"' :: cs => some ([], cs)
  | '\\' :: 'u' :: a :: b :: c :: d :: cs =>
    (shortScalar? a b c d).bind fun x => (readBasic cs).map fun r => (x :: r.1, r.2)
  | '\\' :: 'U' :: a :: b :: c :: d :: e :: f :: g :: h :: cs =>
    (longScalar? a b c d e f g h).bind fun x => (readBasic cs).map fun r => (x :: r.1, r.2)
  | '\\' :: c :: cs => (shortEscape? c).bind fun x => (readBasic cs).map fun r => (x :: r.1, r.2)
  | c :: cs => if isPlain c then (readBasic cs).map fun r => (c :: r.1, r.2) else none

/-- The quotes that stand right before the three closing ones: at most two. -/
def closing (q : Char) : List Char → List Char × List Char
  | a :: b :: cs => if a = q ∧ b = q then ([q, q], cs) else if a = q then ([q], b :: cs) else ([], a :: b :: cs)
  | [a] => if a = q then ([q], []) else ([], [a])
  | [] => ([], [])

/-- Whether only blanks stand before the next line break. -/
def breaksHere (cs : List Char) : Bool := (afterBreak? (cs.dropWhile isBlank)).isSome

/-- The rest of a string between triple quotes.  After a backslash at the end of a line, blanks and line breaks are
left out. -/
def readBasicLines (leaveOut : Bool) : List Char → Option (List Char × List Char)
  | [] => none
  | '"' :: '"' :: '"' :: cs => some (closing '"' cs)
  | '\\' :: 'u' :: a :: b :: c :: d :: cs =>
    (shortScalar? a b c d).bind fun x => (readBasicLines false cs).map fun r => (x :: r.1, r.2)
  | '\\' :: 'U' :: a :: b :: c :: d :: e :: f :: g :: h :: cs =>
    (longScalar? a b c d e f g h).bind fun x => (readBasicLines false cs).map fun r => (x :: r.1, r.2)
  | '\\' :: c :: cs =>
    if breaksHere (c :: cs) then readBasicLines true (c :: cs)
    else (shortEscape? c).bind fun x => (readBasicLines false cs).map fun r => (x :: r.1, r.2)
  | '\r' :: '\n' :: cs =>
    if leaveOut then readBasicLines true cs else (readBasicLines false cs).map fun r => ('\n' :: r.1, r.2)
  | c :: cs =>
    if leaveOut && (isBlank c || c == '\n') then readBasicLines true cs
    else if isPlain c || c == '\n' then (readBasicLines false cs).map fun r => (c :: r.1, r.2)
    else none

/-- The rest of a string between apostrophes on one line. -/
def readLiteral : List Char → Option (List Char × List Char)
  | [] => none
  | '\'' :: cs => some ([], cs)
  | c :: cs => if isPlain c then (readLiteral cs).map fun r => (c :: r.1, r.2) else none

/-- The rest of a string between triple apostrophes. -/
def readLiteralLines : List Char → Option (List Char × List Char)
  | [] => none
  | '\'' :: '\'' :: '\'' :: cs => some (closing '\'' cs)
  | '\r' :: '\n' :: cs => (readLiteralLines cs).map fun r => ('\n' :: r.1, r.2)
  | c :: cs =>
    if isPlain c || c == '\n' then (readLiteralLines cs).map fun r => (c :: r.1, r.2) else none

/-- A string in any form.  A line break right after triple quotes does not belong to it. -/
def readString? : List Char → Option (List Char × List Char)
  | '"' :: '"' :: '"' :: cs => readBasicLines false ((afterBreak? cs).getD cs)
  | '"' :: cs => readBasic cs
  | '\'' :: '\'' :: '\'' :: cs => readLiteralLines ((afterBreak? cs).getD cs)
  | '\'' :: cs => readLiteral cs
  | _ => none

/-! ## Writing -/

/-- The four forms. -/
inductive Form where
  | basic
  | literal
  | basicLines
  | literalLines
  deriving DecidableEq, Repr

/-- The longest run of a character, given the run so far and the longest before. -/
def longestRun (q : Char) : Nat → Nat → List Char → Nat
  | _, longest, [] => longest
  | run, longest, c :: cs =>
    if c = q then longestRun q (run + 1) (max longest (run + 1)) cs else longestRun q 0 longest cs

/-- Whether a character can only be written as an escape. -/
def needsEscape (c : Char) : Bool := !isPlain c && c != '\n'

/-- The form in which a string is written. -/
def formOf (cs : List Char) : Form :=
  let quotes := longestRun '"' 0 0 cs
  let apostrophes := longestRun '\'' 0 0 cs
  let broken := cs.contains '\n'
  let escapes := cs.any needsEscape
  let slashes := cs.contains '\\'
  if !escapes && !slashes && quotes == 0 && !broken then .basic
  else if !escapes && apostrophes == 0 && !broken then .literal
  else if !escapes && !slashes && quotes ≤ 2 then .basicLines
  else if !escapes && apostrophes ≤ 2 then .literalLines
  else if broken then .basicLines
  else .basic

/-- The upper-case hexadecimal digit of a number below sixteen. -/
def hexDigit (n : Nat) : Char := (Nat.digitChar n).toUpper

/-- A character between quotes, itself no quote. -/
def escapeChar (c : Char) : List Char :=
  if c = '\\' then ['\\', '\\']
  else if c = '\t' then ['\\', 't']
  else if c = '\n' then ['\\', 'n']
  else if c = '\r' then ['\\', 'r']
  else if c = Char.ofNat 0x08 then ['\\', 'b']
  else if c = Char.ofNat 0x0C then ['\\', 'f']
  else if isPlain c then [c]
  else ['\\', 'u', '0', '0', hexDigit (c.toNat / 16), hexDigit (c.toNat % 16)]

/-- The text of a string between quotes on one line. -/
def writeBasic (cs : List Char) : List Char :=
  cs.flatMap fun c => if c = '"' then ['\\', '"'] else escapeChar c

/-- The text of a string between triple quotes, after `run` quotes; the third of a run is escaped. -/
def writeBasicLines : Nat → List Char → List Char
  | _, [] => []
  | run, c :: cs =>
    if c = '"' then
      if run < 2 then '"' :: writeBasicLines (run + 1) cs else '\\' :: '"' :: writeBasicLines 0 cs
    else if c = '\n' then '\n' :: writeBasicLines 0 cs
    else escapeChar c ++ writeBasicLines 0 cs

/-- The line break after triple quotes, which a string of several lines has. -/
def opening (cs : List Char) : List Char := if cs.contains '\n' then ['\n'] else []

/-- A string in its form. -/
def writeString (cs : List Char) : List Char :=
  match formOf cs with
  | .basic => '"' :: writeBasic cs ++ ['"']
  | .literal => '\'' :: cs ++ ['\'']
  | .basicLines => ['"', '"', '"'] ++ opening cs ++ writeBasicLines 0 cs ++ ['"', '"', '"']
  | .literalLines => ['\'', '\'', '\''] ++ opening cs ++ cs ++ ['\'', '\'', '\'']

end SiteEdit.Toml
