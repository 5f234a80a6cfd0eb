import SiteEdit.Text.WordTable
/-!
# Word characters

A word boundary lies between a word character and a character that is none.  The characters of ASCII are decided
without the table.
-/
namespace SiteEdit.Text

/-- Letters, digits and `_` of ASCII. -/
def isAsciiWord (c : Char) : Bool := c.isAlphanum || c == '_'

/-- Whether a character is part of a word. -/
def isWord (c : Char) : Bool :=
  if c.toNat < 128 then isAsciiWord c else inRanges wordRanges c.toNat

theorem toNat_lt_of_isAlphanum {c : Char} (h : c.isAlphanum = true) : c.toNat < 128 := by
  rcases Bool.or_eq_true_iff.1 h with h | h
  · rcases Bool.or_eq_true_iff.1 h with h | h
    · have hz : c.toNat ≤ 90 := (of_decide_eq_true h).2
      omega
    · have hz : c.toNat ≤ 122 := of_decide_eq_true (Bool.and_eq_true_iff.1 h).2
      omega
  · have hz : c.toNat ≤ 57 := of_decide_eq_true (Bool.and_eq_true_iff.1 h).2
    omega

/-- Every letter and digit of ASCII is a word character. -/
theorem isWord_of_isAlphanum {c : Char} (h : c.isAlphanum = true) : isWord c = true := by
  simp [isWord, toNat_lt_of_isAlphanum h, isAsciiWord, h]

end SiteEdit.Text
