import SiteEdit.Text.Blank
import SiteEdit.Text.Lowercase
import SiteEdit.Text.Find
/-!
# Request texts

A request is matched in lower case, but what is taken from it keeps its own letters.  So a normalized request is the
text without the blanks around it, its lower case, and for every character of the lower case the byte at which it
starts and the byte of the text it comes from.

A value is what follows a connective ("to", "改成", …) up to the end of the clause.
-/
namespace SiteEdit.Request

open Text

/-- A text without the blanks around it, its lower case, and the bytes where their characters meet. -/
structure Normalized where
  trimmed : List Char
  lower : List Char
  /-- For each character of the lower case: the byte where it starts, and the byte of the text it comes from. -/
  offsets : List (Nat × Nat)
  deriving DecidableEq, Repr

/-- The offsets of the lower case of one character, `source` its byte in the text. -/
def offsetsOfChar (source : Nat) : Nat → List Char → List (Nat × Nat)
  | _, [] => []
  | at_, l :: ls => (at_, source) :: offsetsOfChar source (at_ + l.utf8Size) ls

/-- The offsets of the lower case of a text that starts at byte `source`, its lower case at byte `at_`. -/
def offsetsFrom : Nat → Nat → List Char → List (Nat × Nat)
  | _, _, [] => []
  | source, at_, c :: cs =>
    offsetsOfChar source at_ (lowerChar c) ++ offsetsFrom (source + c.utf8Size) (at_ + byteLength (lowerChar c)) cs

/-- Normalizes a text. -/
def normalize (text : List Char) : Normalized :=
  let trimmed := trim text
  { trimmed := trimmed, lower := lowerEach trimmed, offsets := offsetsFrom 0 0 trimmed }

/-- The earliest find; of two at one place the longer. -/
def earliest (finds : List (Nat × Nat)) : Option (Nat × Nat) :=
  finds.foldl (fun best f =>
    match best with
    | none => some f
    | some b => if f.1 < b.1 ∨ (f.1 = b.1 ∧ b.2 < f.2) then some f else some b) none

/-- Whether a character of ASCII goes on a word. -/
def joinsWord (c : Char) : Bool := c.isAlphanum || c == '_' || c == '-'

/-- The byte at which `needle` first stands as a word of its own; `before` is the character before the text. -/
def findWordFrom? (needle : List Char) (before : Option Char) : List Char → Option Nat
  | [] => none
  | c :: cs =>
    let here := needle.isPrefixOf (c :: cs) && !before.any joinsWord
      && !((c :: cs).drop needle.length).head?.any joinsWord
    if here then some 0 else (findWordFrom? needle (some c) cs).map (c.utf8Size + ·)

/-- The byte at which a connective first stands: one of letters of ASCII only as a word of its own. -/
def findConnective? (connective text : List Char) : Option Nat :=
  if connective.head?.any Char.isAlpha then findWordFrom? connective none text else find? connective text

/-- What may stand between what is changed and its new value. -/
def connectives : List String :=
  ["改成", "改为", "换成", "变成", "设为", "设置为", "change to", "set to", "to"]

/-- The earliest connective of a text: where it stands and how long it is, in bytes. -/
def firstConnective? (text : List Char) : Option (Nat × Nat) :=
  earliest (connectives.filterMap fun c => (findConnective? c.toList text).map (·, byteLength c.toList))

/-- The characters that end a clause. -/
def endsClause (c : Char) : Bool :=
  ['，', ',', '。', '；', ';', '！', '!', '？', '?', '\n'].contains c

/-- The marks that are cut off the front of a value. -/
def isOpeningMark (c : Char) : Bool :=
  [':', '：', '"', '\'', '“', '”', '‘', '’', '「', '」'].contains c

/-- The marks that are cut off the end of a value. -/
def isClosingMark (c : Char) : Bool :=
  ['.', '。', '!', '！', '?', '？', ',', '，', ';', '；', ':', '：', '"', '\'', '“', '”', '‘', '’', '「', '」'].contains c

/-- The most characters of a value. -/
def maxValue : Nat := 40

/-- A stretch of the text without the blanks and marks around it. -/
def trimValue (cs : List Char) : List Char :=
  dropRightWhile (fun c => isBlank c || isClosingMark c) (cs.dropWhile fun c => isBlank c || isOpeningMark c)

namespace Normalized

/-- Whether one of some texts occurs in the lower case. -/
def containsAny (n : Normalized) (needles : List String) : Bool :=
  needles.any fun s => occursIn s.toList n.lower

/-- The earliest trigger in the lower case: the byte where it starts and the byte after it. -/
def findTrigger? (n : Normalized) (triggers : List String) : Option (Nat × Nat) :=
  earliest (triggers.filterMap fun t => (find? t.toList n.lower).map fun i => (i, i + byteLength t.toList))

/-- The byte of the text that a byte of the lower case comes from. -/
def toTrimmed (n : Normalized) (i : Nat) : Nat :=
  if byteLength n.lower ≤ i then byteLength n.trimmed
  else
    match (n.offsets.takeWhile fun o => o.1 ≤ i).getLast? with
    | some o => o.2
    | none => 0

/-- The value after the first connective from a byte of the lower case on. -/
def valueFrom? (n : Normalized) (start : Nat) : Option (List Char) := do
  let rest ← dropBytes? start n.lower
  let (at_, length) ← firstConnective? rest
  let valueStart := start + at_ + length
  let tail ← dropBytes? valueStart n.lower
  let valueStop :=
    match findChar? endsClause tail with
    | some i => valueStart + i
    | none => byteLength n.lower
  let raw ← sliceBytes? (n.toTrimmed valueStart) (n.toTrimmed valueStop) n.trimmed
  let value := trimValue raw
  if value.isEmpty ∨ maxValue < value.length then none else some value

end Normalized

end SiteEdit.Request
