/-!
# Finding a text in a text

Positions are counted in bytes of UTF-8, the unit in which requests are cut.
-/
namespace SiteEdit.Text

/-- How many bytes a text takes in UTF-8. -/
def byteLength : List Char → Nat
  | [] => 0
  | c :: cs => c.utf8Size + byteLength cs

theorem byteLength_append (a b : List Char) : byteLength (a ++ b) = byteLength a + byteLength b := by
  induction a with
  | nil => simp [byteLength]
  | cons c a ih => simp [byteLength, ih, Nat.add_assoc]

/-- The byte at which `needle` first occurs. -/
def find? (needle : List Char) : List Char → Option Nat
  | [] => if needle.isEmpty then some 0 else none
  | c :: cs => if needle.isPrefixOf (c :: cs) then some 0 else (find? needle cs).map (c.utf8Size + ·)

/-- Whether `needle` occurs. -/
def occursIn (needle : List Char) : List Char → Bool
  | [] => needle.isEmpty
  | c :: cs => needle.isPrefixOf (c :: cs) || occursIn needle cs

theorem isSome_find? (needle : List Char) : ∀ text : List Char, (find? needle text).isSome = occursIn needle text
  | [] => by cases h : needle.isEmpty <;> simp [find?, occursIn, h]
  | c :: cs => by cases h : needle.isPrefixOf (c :: cs) <;> simp [find?, occursIn, h, isSome_find? needle cs]

/-- Whether one string occurs in another. -/
def contains (text needle : String) : Bool := occursIn needle.toList text.toList

/-- The byte at which the first character with `p` stands. -/
def findChar? (p : Char → Bool) : List Char → Option Nat
  | [] => none
  | c :: cs => if p c then some 0 else (findChar? p cs).map (c.utf8Size + ·)

/-- What follows the first `n` bytes; nothing inside a character or past the end. -/
def dropBytes? : Nat → List Char → Option (List Char)
  | 0, cs => some cs
  | _ + 1, [] => none
  | n + 1, c :: cs => if c.utf8Size ≤ n + 1 then dropBytes? (n + 1 - c.utf8Size) cs else none

/-- The first `n` bytes; nothing inside a character or past the end. -/
def takeBytes? : Nat → List Char → Option (List Char)
  | 0, _ => some []
  | _ + 1, [] => none
  | n + 1, c :: cs =>
    if c.utf8Size ≤ n + 1 then (takeBytes? (n + 1 - c.utf8Size) cs).map (c :: ·) else none

/-- The bytes from `start` to before `stop`; nothing if either is inside a character, past the end or they cross. -/
def sliceBytes? (start stop : Nat) (cs : List Char) : Option (List Char) :=
  if start ≤ stop then (dropBytes? start cs).bind (takeBytes? (stop - start)) else none

/-- The parts before and after the first `sep`. -/
def splitFirst? (sep : Char) (cs : List Char) : Option (List Char × List Char) :=
  match cs.dropWhile (· != sep) with
  | [] => none
  | _ :: after => some (cs.takeWhile (· != sep), after)

theorem splitFirst?_append {sep : Char} {a : List Char} (h : sep ∉ a) (b : List Char) :
    splitFirst? sep (a ++ sep :: b) = some (a, b) := by
  have ha : ∀ c ∈ a, (c != sep) = true := fun c hc => bne_iff_ne.2 fun he => h (he ▸ hc)
  unfold splitFirst?
  rw [List.dropWhile_append_of_pos ha, List.takeWhile_append_of_pos ha]
  simp

end SiteEdit.Text
