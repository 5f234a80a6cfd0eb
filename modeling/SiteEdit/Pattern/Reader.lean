import SiteEdit.Pattern.Basic
/-!
# Written patterns

The written form of a pattern: characters, `.`, classes in brackets, `\b \d \s \w \n`, `^` and `$`, groups in
parentheses, `|`, and the loops `* + ?` and those with counts in braces.  A leading `(?i)` makes letters of ASCII
match in either case; then `s` also matches the long s, and `k` the sign for kelvin.
-/
namespace SiteEdit.Pattern

/-- The ranges that letters between two characters of ASCII match besides themselves, if case does not count. -/
def otherCases (lo hi : Char) : List CharItem :=
  let meets (a b : Char) : Option (Char × Char) :=
    let from_ := if lo ≤ a then a else lo
    let to_ := if hi ≤ b then hi else b
    if from_ ≤ to_ then some (from_, to_) else none
  let capitals := (meets 'a' 'z').toList.map fun r => .range r.1.toUpper r.2.toUpper
  let smalls := (meets 'A' 'Z').toList.map fun r => .range r.1.toLower r.2.toLower
  let has (c : Char) : Bool := lo ≤ c && c ≤ hi
  let longS := if has 's' || has 'S' then [.range 'ſ' 'ſ'] else []
  let kelvin := if has 'k' || has 'K' then [.range (Char.ofNat 0x212A) (Char.ofNat 0x212A)] else []
  capitals ++ smalls ++ longS ++ kelvin

/-- The items that an item stands for. -/
def withCases (anyCase : Bool) : CharItem → List CharItem
  | .range lo hi => .range lo hi :: (if anyCase then otherCases lo hi else [])
  | item => [item]

/-- One character of a class of one item. -/
def oneOf (anyCase : Bool) (item : CharItem) : Pattern := .one { negated := false, items := withCases anyCase item }

/-- Any character but a line break. -/
def anyInLine : Pattern := .one { negated := true, items := [.range '\n' '\n'] }

/-- What an escaped character stands for in a class; a letter or digit that stands for nothing is an error. -/
def escapedItem? (c : Char) : Option CharItem :=
  if c = 'd' then some .digit
  else if c = 's' then some .blank
  else if c = 'w' then some .word
  else if c = 'n' then some (.range '\n' '\n')
  else if c.isAlphanum then none
  else some (.range c c)

/-- The character at the head of the items of a class, and what follows. -/
def classItem? : List Char → Option (CharItem × List Char)
  | [] => none
  | '\\' :: c :: cs => (escapedItem? c).map (·, cs)
  | '\\' :: [] => none
  | '[' :: _ => none
  | c :: cs => some (.range c c, cs)

/-- The items of a class, up to the closing bracket. -/
def readItems (anyCase : Bool) : Nat → List Char → Option (List CharItem × List Char)
  | 0, _ => none
  | fuel + 1, cs =>
    match cs with
    | ']' :: rest => some ([], rest)
    | _ =>
      (classItem? cs).bind fun (item, rest) =>
      match item, rest with
      | .range lo _, '-' :: next :: more =>
        if next = ']' then
          (readItems anyCase fuel rest).map fun r => (withCases anyCase item ++ r.1, r.2)
        else
          (classItem? (next :: more)).bind fun (last, rest) =>
          match last with
          | .range _ hi =>
            if lo ≤ hi then
              (readItems anyCase fuel rest).map fun r => (withCases anyCase (.range lo hi) ++ r.1, r.2)
            else none
          | _ => none
      | _, _ => (readItems anyCase fuel rest).map fun r => (withCases anyCase item ++ r.1, r.2)

/-- A class after its opening bracket.  A class lists something. -/
def readClass (anyCase : Bool) (cs : List Char) : Option (Pattern × List Char) :=
  let opened : Bool × List Char :=
    match cs with
    | '^' :: rest => (true, rest)
    | rest => (false, rest)
  match readItems anyCase (opened.2.length + 1) opened.2 with
  | some ([], _) => none
  | some (items, rest) => some (.one { negated := opened.1, items := items }, rest)
  | none => none

/-- A number, and what follows. -/
def readCount (cs : List Char) : Option (Nat × List Char) :=
  match cs.takeWhile Char.isDigit with
  | [] => none
  | ds => some (ds.foldl (fun n c => n * 10 + (c.toNat - 48)) 0, cs.dropWhile Char.isDigit)

/-- The least and the most turns of a loop after its opening brace. -/
def readBounds (cs : List Char) : Option ((Nat × Option Nat) × List Char) :=
  (readCount cs).bind fun (least, rest) =>
  match rest with
  | '\x7d' :: rest => some ((least, some least), rest)
  | ',' :: '\x7d' :: rest => some ((least, none), rest)
  | ',' :: rest =>
    (readCount rest).bind fun (most, rest) =>
    match rest with
    | '\x7d' :: rest => if least ≤ most then some ((least, some most), rest) else none
    | _ => none
  | _ => none

/-- A loop around what was read, if one follows. -/
def readLoop (p : Pattern) : List Char → Option (Pattern × List Char)
  | '*' :: cs => some (p.turns 0 none, cs)
  | '+' :: cs => some (p.turns 1 none, cs)
  | '?' :: cs => some (p.turns 0 (some 1), cs)
  | '\x7b' :: cs => (readBounds cs).map fun r => (p.turns r.1.1 r.1.2, r.2)
  | cs => some (p, cs)

/-- What an escaped character stands for. -/
def escaped? (anyCase : Bool) (c : Char) : Option Pattern :=
  if c = 'b' then some .wordEdge else (escapedItem? c).map (oneOf anyCase)

mutual

/-- Alternatives, up to the end or a closing parenthesis. -/
def readAlternatives (anyCase : Bool) : Nat → List Char → Option (Pattern × List Char)
  | 0, _ => none
  | fuel + 1, cs =>
    (readSequence anyCase fuel cs).bind fun (p, rest) =>
    match rest with
    | '|' :: rest => (readAlternatives anyCase fuel rest).map fun r => (.alt p r.1, r.2)
    | rest => some (p, rest)

/-- Parts one after another, up to the end, a bar or a closing parenthesis. -/
def readSequence (anyCase : Bool) : Nat → List Char → Option (Pattern × List Char)
  | 0, _ => none
  | fuel + 1, cs =>
    match cs with
    | [] => some (.empty, [])
    | '|' :: _ => some (.empty, cs)
    | ')' :: _ => some (.empty, cs)
    | _ =>
      (readAtom anyCase fuel cs).bind fun (atom, rest) =>
      (readLoop atom rest).bind fun (p, rest) =>
      (readSequence anyCase fuel rest).map fun r => (if r.1 = .empty then p else .seq p r.1, r.2)

/-- One part without its loop. -/
def readAtom (anyCase : Bool) : Nat → List Char → Option (Pattern × List Char)
  | 0, _ => none
  | fuel + 1, cs =>
    match cs with
    | '(' :: rest =>
      (readAlternatives anyCase fuel rest).bind fun (p, rest) =>
      match rest with
      | ')' :: rest => some (p, rest)
      | _ => none
    | '[' :: rest => readClass anyCase rest
    | '\\' :: c :: rest => (escaped? anyCase c).map (·, rest)
    | '^' :: rest => some (.textStart, rest)
    | '$' :: rest => some (.textEnd, rest)
    | '.' :: rest => some (anyInLine, rest)
    | c :: rest =>
      if ['\\', '*', '+', '?', '\x7b', ')', '|'].contains c then none else some (oneOf anyCase (.range c c), rest)
    | [] => none

end

/-- The pattern that a text writes; nothing if it writes none.  Each character is read by at most three nested
steps. -/
def read? (written : String) : Option Pattern :=
  let (anyCase, cs) : Bool × List Char :=
    match written.toList with
    | '(' :: '?' :: 'i' :: ')' :: rest => (true, rest)
    | cs => (false, cs)
  match readAlternatives anyCase (3 * cs.length + 3) cs with
  | some (p, []) => some p
  | _ => none

end SiteEdit.Pattern
