/-!
# Character properties as ranges

A character property is a table of closed ranges of code points, ascending and apart.  A look-up walks the table
and stops at the first range that starts past the character.
-/
namespace SiteEdit.Text

/-- Closed ranges of code points, ascending and apart. -/
abbrev Ranges := List (Nat × Nat)

/-- Whether a code point lies in a range of the table. -/
def inRanges : Ranges → Nat → Bool
  | [], _ => false
  | (lo, hi) :: rest, n => if n < lo then false else if n ≤ hi then true else inRanges rest n

end SiteEdit.Text
