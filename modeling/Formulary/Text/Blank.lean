import Formulary.Text.Ranges
/-!
# Blank characters

White space of every script, and the removal of blanks at the two ends of a text.
-/

set_option autoImplicit false
namespace Formulary.Text

/-- Code points of the blank characters. -/
def blankRanges : Ranges :=
  [(0x9, 0xd), (0x1c, 0x20), (0x85, 0x85), (0xa0, 0xa0), (0x1680, 0x1680), (0x2000, 0x200a),
   (0x2028, 0x2029), (0x202f, 0x202f), (0x205f, 0x205f), (0x3000, 0x3000)]

/-- White space, the four ASCII information separators among it. -/
def isBlank (c : Char) : Bool := blankRanges.contains c.toNat

/-- Drops the characters at both ends that satisfy `p`. -/
def trimBy (p : Char → Bool) (cs : List Char) : List Char :=
  ((cs.dropWhile p).reverse.dropWhile p).reverse

/-- Drops the blanks at both ends. -/
def trim (s : String) : String := String.ofList (trimBy isBlank s.toList)

end Formulary.Text
