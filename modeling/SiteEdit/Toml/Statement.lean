import SiteEdit.Toml.Quoted
/-!
# Statements of TOML

A document is a list of statements: headers of tables and of tables in arrays, and values for keys.
-/
namespace SiteEdit.Toml

open Number (Binary64)

/-- One statement. -/
inductive Statement where
  | header (path : List String)
  /-- The header of the next table in an array. -/
  | itemHeader (path : List String)
  | assign (path : List String) (value : Json)
  deriving DecidableEq, Repr

/-! ## Blanks -/

/-- What follows the blanks. -/
def skipBlanks (cs : List Char) : List Char := cs.dropWhile isBlank

/-- What follows a comment, if there is one. -/
def skipComment : List Char → List Char
  | '#' :: cs => cs.dropWhile isPlain
  | cs => cs

/-- What follows the end of a line, which may have blanks and a comment. -/
def endOfLine? (cs : List Char) : Option (List Char) :=
  match skipComment (skipBlanks cs) with
  | [] => some []
  | rest => afterBreak? rest

/-- What follows blanks, comments and line breaks. -/
def skipLines : Nat → List Char → List Char
  | 0, cs => cs
  | fuel + 1, cs =>
    let rest := skipComment (skipBlanks cs)
    match afterBreak? rest with
    | some rest => skipLines fuel rest
    | none => rest

/-! ## Keys -/

/-- Whether a character may stand in a key without quotes. -/
def isBare (c : Char) : Bool := c.isAlphanum || c == '_' || c == '-'

/-- A key. -/
def readKey? (cs : List Char) : Option (String × List Char) :=
  match cs with
  | '"' :: rest => (readBasic rest).map fun r => (String.ofList r.1, r.2)
  | '\'' :: rest => (readLiteral rest).map fun r => (String.ofList r.1, r.2)
  | _ =>
    match cs.takeWhile isBare with
    | [] => none
    | name => some (String.ofList name, cs.dropWhile isBare)

/-- Keys with dots between them. -/
def readKeys? : Nat → List Char → Option (List String × List Char)
  | 0, _ => none
  | fuel + 1, cs =>
    (readKey? (skipBlanks cs)).bind fun (key, rest) =>
    match skipBlanks rest with
    | '.' :: rest => (readKeys? fuel rest).map fun r => (key :: r.1, r.2)
    | rest => some ([key], rest)

/-- How many keys there are in a path at most, and how many arrays and inline tables stand in each other. -/
def maxDepth : Nat := 79

/-- A path, blanks around it and its dots. -/
def readPath? (fuel : Nat) (cs : List Char) : Option (List String × List Char) :=
  (readKeys? fuel cs).bind fun r => if r.1.length ≤ maxDepth then some r else none

/-! ## Words and numbers -/

/-- Digits without the single underscores between them; `after` says whether a digit came before. -/
def digits? (isDigit : Char → Bool) (after : Bool) : List Char → Option (List Char)
  | [] => if after then some [] else none
  | c :: cs =>
    if isDigit c then (digits? isDigit true cs).map (c :: ·)
    else if c = '_' ∧ after then digits? isDigit false cs
    else none

/-- Digits without a superfluous zero in front. -/
def plainDigits? (cs : List Char) : Option (List Char) :=
  match digits? Char.isDigit false cs with
  | some ('0' :: _ :: _) => none
  | ds => ds

/-- The number that digits of a base stand for. -/
def ofDigits (base : Nat) (cs : List Char) : Nat := cs.foldl (fun n c => n * base + (Json.hexValue? c).getD 0) 0

/-- A sign and what follows it. -/
def splitSign : List Char → Bool × List Char
  | '-' :: cs => (true, cs)
  | '+' :: cs => (false, cs)
  | cs => (false, cs)

/-- A number with a sign, if it fits into 64 bits. -/
def whole? (negative : Bool) (n : Nat) : Option Json :=
  if negative then (if n ≤ Nat.pow 2 63 then some (.num (.int (-(n : Int)))) else none)
  else if n < Nat.pow 2 63 then some (.num (.int n)) else none

/-- A whole number. -/
def readWhole? : List Char → Option Json
  | '0' :: 'x' :: cs => (digits? (fun c => (Json.hexValue? c).isSome) false cs).bind fun ds => whole? false (ofDigits 16 ds)
  | '0' :: 'o' :: cs => (digits? (fun c => '0' ≤ c && c ≤ '7') false cs).bind fun ds => whole? false (ofDigits 8 ds)
  | '0' :: 'b' :: cs => (digits? (fun c => c == '0' || c == '1') false cs).bind fun ds => whole? false (ofDigits 2 ds)
  | cs =>
    let (negative, rest) := splitSign cs
    (plainDigits? rest).bind fun ds => whole? negative (ofDigits 10 ds)

/-- The parts of a text before and after the first character with `p`, the latter if there is one. -/
def splitAt? (p : Char → Bool) (cs : List Char) : List Char × Option (List Char) :=
  match cs.dropWhile fun c => !p c with
  | [] => (cs, none)
  | _ :: rest => (cs.takeWhile fun c => !p c, some rest)

/-- An exponent, zero if there is none. -/
def exponent? : Option (List Char) → Option Int
  | none => some 0
  | some cs =>
    let (negative, rest) := splitSign cs
    (digits? Char.isDigit false rest).map fun ds =>
      if negative then -(ofDigits 10 ds : Int) else (ofDigits 10 ds : Int)

/-- A floating-point number, which has a point or an exponent.  What is past the largest number is refused if it is
positive, and an infinity if it is negative. -/
def readReal? (cs : List Char) : Option Json := do
  let (mantissa, power) := splitAt? (fun c => c == 'e' || c == 'E') cs
  let (before, after) := splitAt? (· == '.') mantissa
  let (negative, before) := splitSign before
  let whole ← if after.isNone && power.isNone then none else plainDigits? before
  let fraction ← match after with
    | none => some []
    | some ds => digits? Char.isDigit false ds
  let exponent ← exponent? power
  match Binary64.nearest? negative (ofDigits 10 (whole ++ fraction)) (exponent - fraction.length) with
  | some x => pure (.num (.real x))
  | none => if negative then pure .null else none

/-- Whether a character may stand in a word, a number or a time. -/
def isWordChar (c : Char) : Bool := c.isAlphanum || ['_', '+', '-', '.', ':'].contains c

/-- Whether a word stands for an infinity or for no number at all. -/
def isUnbounded (word : List Char) : Bool :=
  (splitSign word).2 = "inf".toList || (splitSign word).2 = "nan".toList

/-- A truth value or a number.  What JSON has no number for is null, which no setting takes. -/
def readWord? (word : List Char) : Option Json :=
  if word = "true".toList then some (.bool true)
  else if word = "false".toList then some (.bool false)
  else if isUnbounded word then some .null
  else (readWhole? word).or (readReal? word)

end SiteEdit.Toml
