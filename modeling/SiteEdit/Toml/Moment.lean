import SiteEdit.Json.Basic
/-!
# Dates and times in TOML

A date has a year of four digits, a month and a day that the month has; a time has hours, minutes, seconds, one of
which may be a leap second, and perhaps a fraction; a date with a time may have an offset.  No setting is a date, so
only their form counts.
-/
namespace SiteEdit.Toml

/-- The number that the first `n` characters write, if all are digits and it lies between `lo` and `hi`, and what
follows them. -/
def readField? (n lo hi : Nat) (cs : List Char) : Option (Nat × List Char) :=
  let ds := cs.take n
  let value := ds.foldl (fun value c => value * 10 + (c.toNat - 48)) 0
  if ds.length = n ∧ ds.all Char.isDigit ∧ lo ≤ value ∧ value ≤ hi then some (value, cs.drop n) else none

/-- What follows a character that must be there. -/
def after? (c : Char) : List Char → Option (List Char)
  | d :: cs => if d = c then some cs else none
  | [] => none

/-- The number of days of a month. -/
def daysOf (year month : Nat) : Nat :=
  if month = 2 then (if year % 4 = 0 ∧ (year % 100 ≠ 0 ∨ year % 400 = 0) then 29 else 28)
  else if [4, 6, 9, 11].contains month then 30
  else 31

/-- What follows a date. -/
def afterDate? (cs : List Char) : Option (List Char) := do
  let (year, cs) ← readField? 4 0 9999 cs
  let (month, cs) ← readField? 2 1 12 (← after? '-' cs)
  let (_, cs) ← readField? 2 1 (daysOf year month) (← after? '-' cs)
  pure cs

/-- What follows hours and minutes. -/
def afterClock? (cs : List Char) : Option (List Char) := do
  let (_, cs) ← readField? 2 0 23 cs
  let (_, cs) ← readField? 2 0 59 (← after? ':' cs)
  pure cs

/-- What follows the fraction of a second, if there is one. -/
def afterFraction (cs : List Char) : List Char :=
  match cs with
  | '.' :: c :: rest => if c.isDigit then rest.dropWhile Char.isDigit else cs
  | cs => cs

/-- What follows a time. -/
def afterTime? (cs : List Char) : Option (List Char) := do
  let (_, cs) ← readField? 2 0 60 (← after? ':' (← afterClock? cs))
  pure (afterFraction cs)

/-- What follows the offset of a time, if there is one. -/
def afterOffset (cs : List Char) : List Char :=
  match cs with
  | c :: rest =>
    if c = 'Z' ∨ c = 'z' then rest
    else if c = '+' ∨ c = '-' then (afterClock? rest).getD cs
    else cs
  | [] => []

/-- What follows a date, a time, or a date with a time. -/
def afterMoment? (cs : List Char) : Option (List Char) :=
  match afterDate? cs with
  | none => afterTime? cs
  | some [] => some []
  | some (c :: rest) =>
    if c = 'T' ∨ c = 't' ∨ c = ' ' then some (((afterTime? rest).map afterOffset).getD (c :: rest))
    else some (c :: rest)

end SiteEdit.Toml
