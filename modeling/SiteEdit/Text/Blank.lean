import SiteEdit.Text.Ranges
/-!
# Blank characters

The characters with the Unicode property *White_Space*, and the two operations that are about them: cutting them
off both ends of a text, and splitting a text at them into words.
-/
namespace SiteEdit.Text

/-- The characters with the property *White_Space*. -/
def blankRanges : Ranges := [
  (0x9, 0xD), (0x20, 0x20), (0x85, 0x85), (0xA0, 0xA0), (0x1680, 0x1680), (0x2000, 0x200A), (0x2028, 0x2029),
  (0x202F, 0x202F), (0x205F, 0x205F), (0x3000, 0x3000)]

/-- Whether a character is blank. -/
def isBlank (c : Char) : Bool := inRanges blankRanges c.toNat

/-- Cuts the characters that satisfy `p` off the end. -/
def dropRightWhile (p : Char → Bool) (cs : List Char) : List Char := (cs.reverse.dropWhile p).reverse

/-- Cuts the blanks off both ends. -/
def trim (cs : List Char) : List Char := dropRightWhile isBlank (cs.dropWhile isBlank)

/-- The blank-free stretches of a text, in order; `word` is the stretch being read. -/
def wordsFrom (word : List Char) : List Char → List (List Char)
  | [] => if word.isEmpty then [] else [word]
  | c :: cs =>
    if isBlank c then (if word.isEmpty then wordsFrom [] cs else word :: wordsFrom [] cs)
    else wordsFrom (word ++ [c]) cs

/-- The words of a text: its longest blank-free stretches. -/
def words (cs : List Char) : List (List Char) := wordsFrom [] cs

end SiteEdit.Text
