import EntityForge.Text.Ranges

/-! # Blanks

White space of any script, and the texts that are left when it is stripped off the ends.
-/

namespace EntityForge.Text

/-- The blanks: the ASCII ones with the four information separators, the next-line control, the
no-break and fixed-width spaces, and the line and paragraph separators. -/
def blankRanges : CodeRanges := [
  (0x9, 0xD), (0x1C, 0x20), (0x85, 0x85), (0xA0, 0xA0), (0x1680, 0x1680), (0x2000, 0x200A),
  (0x2028, 0x2029), (0x202F, 0x202F), (0x205F, 0x205F), (0x3000, 0x3000)]

end EntityForge.Text

namespace EntityForge

/-- White space. -/
def CodePoint.isBlank (p : CodePoint) : Bool := Text.blankRanges.has p.toNat

namespace Text

/-- Is there nothing but white space? -/
def isBlank (t : Text) : Bool := t.all CodePoint.isBlank

/-- The text without the blanks at its beginning. -/
def stripLeft (t : Text) : Text := t.dropWhile CodePoint.isBlank

/-- The text without the blanks at its end. -/
def stripRight (t : Text) : Text := (t.reverse.dropWhile CodePoint.isBlank).reverse

/-- The text without the blanks at either end. -/
def strip (t : Text) : Text := t.stripLeft.stripRight

end Text

end EntityForge
