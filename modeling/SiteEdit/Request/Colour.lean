import SiteEdit.Text.Blank
import SiteEdit.Text.Find
import SiteEdit.Text.Lowercase
/-!
# Colours

A colour is one of a closed vocabulary of Chinese and English names, or three or six hexadecimal digits after `#`.
-/
namespace SiteEdit.Request

open Text

/-- The names of colours and the style names they stand for. -/
def colourNames : List (String × String) := [
  ("红色", "red"), ("红", "red"), ("绿色", "green"), ("绿", "green"), ("蓝色", "blue"), ("蓝", "blue"),
  ("黄色", "yellow"), ("黄", "yellow"), ("橙色", "orange"), ("橘色", "orange"), ("紫色", "purple"), ("紫", "purple"),
  ("粉色", "pink"), ("粉红色", "pink"), ("黑色", "black"), ("黑", "black"), ("白色", "white"), ("白", "white"),
  ("灰色", "gray"), ("青色", "cyan"), ("棕色", "brown"), ("金色", "gold"), ("银色", "silver"), ("藏青色", "navy"),
  ("red", "red"), ("green", "green"), ("blue", "blue"), ("yellow", "yellow"), ("orange", "orange"),
  ("purple", "purple"), ("pink", "pink"), ("black", "black"), ("white", "white"), ("gray", "gray"),
  ("grey", "gray"), ("cyan", "cyan"), ("brown", "brown"), ("gold", "gold"), ("silver", "silver"), ("navy", "navy"),
  ("teal", "teal")]

/-- Whether a character is a hexadecimal digit. -/
def isHexDigit (c : Char) : Bool := c.isDigit || ('a' ≤ c && c ≤ 'f') || ('A' ≤ c && c ≤ 'F')

/-- The style colour that a phrase names. -/
def resolveColour? (phrase : List Char) : Option String :=
  let key := lower (trim phrase)
  match colourNames.lookup (String.ofList key) with
  | some css => some css
  | none =>
    match key with
    | '#' :: hex =>
      if hex.all isHexDigit ∧ (byteLength hex = 3 ∨ byteLength hex = 6) then some (String.ofList key) else none
    | _ => none

end SiteEdit.Request
