import SiteEdit.Pattern.Basic
/-!
# Searching a text for a pattern

A text is searched once from its end to its start.  At each place the length of the match that starts there follows
from what was found one place further on, so every place of the text is done in a time that depends on the pattern
alone.

In a text the match that starts first counts, and the next one starts where it ends.
-/
namespace SiteEdit.Pattern

/-- A pattern in the middle of a search: each class keeps what was found behind it one place further on. -/
inductive Search where
  | empty
  | one (s : CharClass) (found : Option Nat)
  | wordEdge
  | textStart
  | textEnd
  | seq (p q : Search)
  | alt (p q : Search)
  | maybe (p q : Search)
  | loop (p : Search)
  deriving Repr

namespace Search

/-- A search at the end of a text. -/
def ofPattern : Pattern → Search
  | .empty => .empty
  | .one s => .one s none
  | .wordEdge => .wordEdge
  | .textStart => .textStart
  | .textEnd => .textEnd
  | .seq p q => .seq (ofPattern p) (ofPattern q)
  | .alt p q => .alt (ofPattern p) (ofPattern q)
  | .maybe p q => .maybe (ofPattern p) (ofPattern q)
  | .loop p => .loop (ofPattern p)

/-- What a pattern finds at a gap if what comes next finds `next` there. -/
def find (g : Gap) : Search → Option Nat → Option Nat
  | .empty, next => next
  | .one s found, _ =>
    match found, g.after with
    | some n, some c => if s.has c then some (n + 1) else none
    | _, _ => none
  | .wordEdge, next => if next.isSome && g.isWordEdge then next else none
  | .textStart, next => if g.before.isNone then next else none
  | .textEnd, next => if g.after.isNone then next else none
  | .seq p q, next => find g p (find g q next)
  | .alt p q, next => (find g p next).or (find g q next)
  | .maybe p _, next => (find g p none).or next
  | .loop p, next => (find g p none).or next

/-- What a pattern finds at a gap, and the search one place further to the start.  What a turn finds without going
anywhere does not count, hence `none` behind the first turn. -/
def advance (g : Gap) : Search → Option Nat → Option Nat × Search
  | .one s found, next => (find g (.one s found) next, .one s next)
  | .seq p q, next =>
    let second := advance g q next
    let first := advance g p second.1
    (first.1, .seq first.2 second.2)
  | .alt p q, next =>
    let left := advance g p next
    let right := advance g q next
    (left.1.or right.1, .alt left.2 right.2)
  | .maybe p q, next =>
    let rest := advance g q next
    ((find g p none).or next, .maybe (advance g p rest.1).2 rest.2)
  | .loop p, next =>
    let all := (find g p none).or next
    (all, .loop (advance g p all).2)
  | p, next => (find g p next, p)

/-- The lengths of the matches at the places of a text, given those after the gap: `before` holds the characters in
front of it, the nearest first, and `after` the character behind it. -/
def lengthsUpTo (p : Search) (after : Option Char) (found : List (Option Nat)) : List Char → List (Option Nat)
  | [] => (p.advance ⟨none, after⟩ (some 0)).1 :: found
  | c :: before =>
    let step := p.advance ⟨some c, after⟩ (some 0)
    lengthsUpTo step.2 (some c) (step.1 :: found) before

end Search

/-- For each place of a text the length of the match that starts there. -/
def lengths (p : Pattern) (text : List Char) : List (Option Nat) :=
  (Search.ofPattern p).lengthsUpTo none [] text.reverse

/-- Whether the pattern matches somewhere in a text. -/
def occursIn (p : Pattern) (text : List Char) : Bool := (p.lengths text).any Option.isSome

/-- Replaces the matches in a text whose lengths are given, after skipping the last `skip` characters of a match. -/
def replaceLengths (by_ : List Char) : Nat → List Char → List (Option Nat) → List Char
  | skip + 1, _ :: cs, _ :: ls => replaceLengths by_ skip cs ls
  | 0, _ :: cs, some (n + 1) :: ls => by_ ++ replaceLengths by_ n cs ls
  | 0, c :: cs, _ :: ls => c :: replaceLengths by_ 0 cs ls
  | _, cs, _ => cs

/-- Replaces the matches in a text that have a character, from the left. -/
def replaceAll (p : Pattern) (by_ : List Char) (text : List Char) : List Char :=
  replaceLengths by_ 0 text (p.lengths text)

end SiteEdit.Pattern
