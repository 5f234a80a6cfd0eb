import SiteEdit.Text.Blank
import SiteEdit.Text.Digit
import SiteEdit.Text.Word
/-!
# Patterns

A pattern is matched at one place of a text by trying its choices in order: of two alternatives the left one first,
of more or fewer turns of a loop more turns first.  The first way that works is the match.

`Pattern.run` says this as it stands, and can take very long.  A text is searched by `Pattern.lengths` instead, which
finds the same (`lengths_eq`).
-/
namespace SiteEdit

/-- A set of characters that a class lists. -/
inductive CharItem where
  | range (lo hi : Char)
  | blank
  | digit
  | word
  deriving DecidableEq, Repr

/-- Whether a character is in the set. -/
def CharItem.has : CharItem → Char → Bool
  | .range lo hi, c => lo ≤ c && c ≤ hi
  | .blank, c => Text.isBlank c
  | .digit, c => Text.isDecimalDigit c
  | .word, c => Text.isWord c

/-- A class of characters: those in one of its items, or, if negated, all others. -/
structure CharClass where
  negated : Bool
  items : List CharItem
  deriving DecidableEq, Repr

/-- Whether a character is in the class. -/
def CharClass.has (s : CharClass) (c : Char) : Bool := s.items.any (·.has c) != s.negated

/-- A pattern. -/
inductive Pattern where
  | empty
  /-- One character of a class. -/
  | one (s : CharClass)
  /-- A place between a word character and another, or an end of the text next to a word character. -/
  | wordEdge
  | textStart
  | textEnd
  | seq (p q : Pattern)
  | alt (p q : Pattern)
  /-- A turn of `p` and then `q`, or nothing. -/
  | maybe (p q : Pattern)
  /-- Any number of turns of `p`. -/
  | loop (p : Pattern)
  deriving DecidableEq, Repr

namespace Pattern

/-- Exactly `n` turns of `p`, and then `q`. -/
def times (p q : Pattern) : Nat → Pattern
  | 0 => q
  | n + 1 => .seq p (times p q n)

/-- At most `n` turns of `p`. -/
def upTo (p : Pattern) : Nat → Pattern
  | 0 => .empty
  | n + 1 => .maybe p (upTo p n)

/-- At least `least` turns of `p`, and at most `most` if that is given. -/
def turns (p : Pattern) (least : Nat) (most : Option Nat) : Pattern :=
  times p (match most with | some m => upTo p (m - least) | none => .loop p) least

/-! ## Places -/

/-- A gap between two characters of a text, or at one of its ends. -/
structure Gap where
  before : Option Char
  after : Option Char
  deriving DecidableEq, Repr

/-- Whether a word begins or ends at a gap. -/
def Gap.isWordEdge (g : Gap) : Bool := g.before.any Text.isWord != g.after.any Text.isWord

/-- A place in a text: the character before it and what follows. -/
structure Place where
  before : Option Char
  rest : List Char
  deriving DecidableEq, Repr

/-- The gap at a place. -/
def Place.gap (c : Place) : Gap := ⟨c.before, c.rest.head?⟩

/-- The places of a text, after the character `before` if there is one. -/
def placesFrom (before : Option Char) : List Char → List Place
  | [] => [⟨before, []⟩]
  | c :: cs => ⟨before, c :: cs⟩ :: placesFrom (some c) cs

/-! ## Matching -/

/-- A way of matching from a place on: every place where it can end is handed to what comes next, until that
succeeds.  The result is the number of characters up to the end. -/
abbrev Matching := Place → (Place → Option Nat) → Option Nat

/-- At most `n` turns, as many as can be; a turn that goes nowhere is none. -/
def atMost (turn : Matching) : Nat → Matching
  | 0, c, next => next c
  | n + 1, c, next =>
    (turn c fun d => if d.rest.length < c.rest.length then atMost turn n d next else none).or (next c)

/-- Matches a pattern, then what comes next.  Each turn of a loop uses up a character. -/
def run : Pattern → Matching
  | .empty, c, next => next c
  | .one s, c, next =>
    match c.rest with
    | [] => none
    | x :: rest => if s.has x then (next ⟨some x, rest⟩).map (· + 1) else none
  | .wordEdge, c, next => if c.gap.isWordEdge then next c else none
  | .textStart, c, next => if c.before.isNone then next c else none
  | .textEnd, c, next => if c.rest.isEmpty then next c else none
  | .seq p q, c, next => run p c fun d => run q d next
  | .alt p q, c, next => (run p c next).or (run q c next)
  | .maybe p q, c, next =>
    (run p c fun d => if d.rest.length < c.rest.length then run q d next else none).or (next c)
  | .loop p, c, next => atMost (run p) (c.rest.length + 1) c next

/-- The length of the match at a place. -/
def matchLength? (p : Pattern) (c : Place) : Option Nat := p.run c fun _ => some 0

end Pattern

end SiteEdit
