import SiteEdit.Json.Basic
/-!
# Reading JSON

A strict reader: no comments, no trailing commas, no lone surrogates, no raw control characters in strings, at most
127 brackets inside each other.  Of members with one name the last stays.

A number without a point and an exponent is whole if it fits into 64 bits, with or without a sign; `-0` is the
binary number minus zero.  For any other number the digits that no longer fit into 64 bits are dropped, and the
rest is scaled by the power of ten.
-/
namespace SiteEdit.Json

open Number (Binary64)

/-- The blanks between the parts of a JSON text. -/
def isSpace (c : Char) : Bool := c == ' ' || c == '\n' || c == '\t' || c == '\r'

/-- What follows the blanks. -/
def skipSpaces (cs : List Char) : List Char := cs.dropWhile isSpace

/-! ## Numbers -/

/-- The value of a digit of ASCII. -/
def digitValue (c : Char) : Nat := c.toNat - 48

/-- The bound of the digits that are kept. -/
def significandBound : Nat := Nat.pow 2 64

/-- Reads digits before the point: the digits kept so far and how many were dropped. -/
def wholeDigits : List Char → Nat → Nat → Nat × Nat
  | [], kept, dropped => (kept, dropped)
  | c :: cs, kept, dropped =>
    if dropped = 0 ∧ kept * 10 + digitValue c < significandBound then wholeDigits cs (kept * 10 + digitValue c) 0
    else wholeDigits cs kept (dropped + 1)

/-- Reads digits after the point, up to the first that does not fit: the digits kept and how many are new. -/
def fractionDigits : List Char → Nat → Nat → Nat × Nat
  | [], kept, taken => (kept, taken)
  | c :: cs, kept, taken =>
    if kept * 10 + digitValue c < significandBound then fractionDigits cs (kept * 10 + digitValue c) (taken + 1)
    else (kept, taken)

/-- A point and its digits, if there is a point. -/
def readFraction : List Char → Option (List Char × List Char)
  | '.' :: cs =>
    match cs.takeWhile Char.isDigit with
    | [] => none
    | ds => some (ds, cs.dropWhile Char.isDigit)
  | cs => some ([], cs)

/-- The sign and digits of an exponent. -/
def readExponentDigits (cs : List Char) : Option (Int × List Char) :=
  let signed : Bool × List Char :=
    match cs with
    | '+' :: rest => (false, rest)
    | '-' :: rest => (true, rest)
    | rest => (false, rest)
  match signed.2.takeWhile Char.isDigit with
  | [] => none
  | ds =>
    let n := ds.foldl (fun n c => n * 10 + digitValue c) 0
    some (if signed.1 then -(n : Int) else n, signed.2.dropWhile Char.isDigit)

/-- An exponent, if there is one. -/
def readExponent : List Char → Option (Option Int × List Char)
  | 'e' :: cs => (readExponentDigits cs).map fun r => (some r.1, r.2)
  | 'E' :: cs => (readExponentDigits cs).map fun r => (some r.1, r.2)
  | cs => some (none, cs)

/-- A number that has neither point nor exponent. -/
def wholeNumber? (negative : Bool) (kept dropped : Nat) : Option JsonNumber :=
  if dropped = 0 ∧ negative = false then some (.int kept)
  else if dropped = 0 ∧ 0 < kept ∧ kept ≤ Nat.pow 2 63 then some (.int (-(kept : Int)))
  else (Binary64.ofDecimal? negative kept dropped).map .real

/-- An unsigned number. -/
def readUnsigned (negative : Bool) (cs : List Char) : Option (JsonNumber × List Char) :=
  match cs.takeWhile Char.isDigit with
  | [] => none
  | '0' :: _ :: _ => none
  | whole =>
    (readFraction (cs.dropWhile Char.isDigit)).bind fun (fraction, cs) =>
    (readExponent cs).bind fun (exponent, cs) =>
    let (kept, dropped) := wholeDigits whole 0 0
    if fraction.isEmpty && exponent.isNone then (wholeNumber? negative kept dropped).map (·, cs)
    else
      let (kept, taken) := fractionDigits fraction kept 0
      (Binary64.ofDecimal? negative kept ((dropped : Int) - taken + exponent.getD 0)).map fun x => (.real x, cs)

/-- A number. -/
def readNumber : List Char → Option (JsonNumber × List Char)
  | '-' :: cs => readUnsigned true cs
  | cs => readUnsigned false cs

/-! ## Strings -/

/-- The value of a hexadecimal digit. -/
def hexValue? (c : Char) : Option Nat :=
  if '0' ≤ c ∧ c ≤ '9' then some (c.toNat - 48)
  else if 'a' ≤ c ∧ c ≤ 'f' then some (c.toNat - 87)
  else if 'A' ≤ c ∧ c ≤ 'F' then some (c.toNat - 55)
  else none

/-- The value of four hexadecimal digits. -/
def hexUnit? (a b c d : Char) : Option Nat :=
  match hexValue? a, hexValue? b, hexValue? c, hexValue? d with
  | some a, some b, some c, some d => some (((a * 16 + b) * 16 + c) * 16 + d)
  | _, _, _, _ => none

/-- The character of a short escape. -/
def shortEscape? (c : Char) : Option Char :=
  if c = '"' ∨ c = '\\' ∨ c = '/' then some c
  else if c = 'b' then some (Char.ofNat 0x08)
  else if c = 'f' then some (Char.ofNat 0x0C)
  else if c = 'n' then some '\n'
  else if c = 'r' then some '\r'
  else if c = 't' then some '\t'
  else none

/-- The rest of a string, up to its closing quote. -/
def readString : List Char → Option (List Char × List Char)
  | [] => none
  | '"' :: cs => some ([], cs)
  | '\\' :: 'u' :: a :: b :: c :: d :: cs =>
    match hexUnit? a b c d with
    | none => none
    | some u =>
      if 0xD800 ≤ u ∧ u < 0xDC00 then
        match cs with
        | '\\' :: 'u' :: a :: b :: c :: d :: cs =>
          match hexUnit? a b c d with
          | none => none
          | some v =>
            if 0xDC00 ≤ v ∧ v < 0xE000 then
              (readString cs).map fun r => (Char.ofNat (0x10000 + (u - 0xD800) * 0x400 + (v - 0xDC00)) :: r.1, r.2)
            else none
        | _ => none
      else if 0xDC00 ≤ u ∧ u < 0xE000 then none
      else (readString cs).map fun r => (Char.ofNat u :: r.1, r.2)
  | '\\' :: c :: cs =>
    match shortEscape? c with
    | none => none
    | some e => (readString cs).map fun r => (e :: r.1, r.2)
  | c :: cs => if c.toNat < 0x20 then none else (readString cs).map fun r => (c :: r.1, r.2)

/-! ## Values -/

/-- What follows a word. -/
def skipWord? : List Char → List Char → Option (List Char)
  | [], cs => some cs
  | _ :: _, [] => none
  | w :: ws, c :: cs => if w = c then skipWord? ws cs else none

mutual

/-- A value after any blanks, with room for `room` brackets inside each other. -/
def readValue : Nat → Nat → List Char → Option (Json × List Char)
  | 0, _, _ => none
  | fuel + 1, room, cs =>
    match skipSpaces cs with
    | '"' :: cs => (readString cs).map fun r => (.str (String.ofList r.1), r.2)
    | '[' :: cs =>
      match room, skipSpaces cs with
      | 0, _ => none
      | _ + 1, ']' :: cs => some (.arr [], cs)
      | room + 1, cs => (readItems fuel room cs).map fun r => (.arr r.1, r.2)
    | '\x7b' :: cs =>
      match room, skipSpaces cs with
      | 0, _ => none
      | _ + 1, '\x7d' :: cs => some (.obj [], cs)
      | room + 1, cs => (readMembers fuel room cs).map fun r => (object r.1, r.2)
    | 't' :: cs => (skipWord? ['r', 'u', 'e'] cs).map (.bool true, ·)
    | 'f' :: cs => (skipWord? ['a', 'l', 's', 'e'] cs).map (.bool false, ·)
    | 'n' :: cs => (skipWord? ['u', 'l', 'l'] cs).map (.null, ·)
    | cs => (readNumber cs).map fun r => (.num r.1, r.2)

/-- The items of an array, up to its closing bracket. -/
def readItems : Nat → Nat → List Char → Option (List Json × List Char)
  | 0, _, _ => none
  | fuel + 1, room, cs =>
    (readValue fuel room cs).bind fun (item, cs) =>
    match skipSpaces cs with
    | ',' :: cs => (readItems fuel room cs).map fun r => (item :: r.1, r.2)
    | ']' :: cs => some ([item], cs)
    | _ => none

/-- The members of an object, up to its closing brace. -/
def readMembers : Nat → Nat → List Char → Option (List (String × Json) × List Char)
  | 0, _, _ => none
  | fuel + 1, room, cs =>
    match skipSpaces cs with
    | '"' :: cs =>
      (readString cs).bind fun (name, cs) =>
      match skipSpaces cs with
      | ':' :: cs =>
        (readValue fuel room cs).bind fun (value, cs) =>
        match skipSpaces cs with
        | ',' :: cs => (readMembers fuel room cs).map fun r => ((String.ofList name, value) :: r.1, r.2)
        | '\x7d' :: cs => some ([(String.ofList name, value)], cs)
        | _ => none
      | _ => none
    | _ => none

end

/-- How many brackets may stand inside each other. -/
def nestingLimit : Nat := 127

/-- The value that a text holds and nothing else; nothing if the text is no JSON.  Each step of the reader but
every second one uses up a character, so twice the length is fuel enough. -/
def parse? (text : String) : Option Json :=
  let cs := text.toList
  match readValue (2 * cs.length + 2) nestingLimit cs with
  | some (j, rest) => if (skipSpaces rest).isEmpty then some j else none
  | none => none

end SiteEdit.Json
