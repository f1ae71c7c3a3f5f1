import LineJoin.Text.Basic

/-!
# Blank characters

The characters that trimming removes: the white space of every script and the four information
separators. Zero-width characters are not blank.
-/

namespace LineJoin.Text

/-- The ranges of blank code points, in increasing order, both ends included. -/
def blankRanges : List (Nat × Nat) := [
  (0x0009, 0x000D), (0x001C, 0x0020), (0x0085, 0x0085), (0x00A0, 0x00A0), (0x1680, 0x1680),
  (0x2000, 0x200A), (0x2028, 0x2029), (0x202F, 0x202F), (0x205F, 0x205F), (0x3000, 0x3000)]

/-- A character that trimming removes. -/
def isBlank (c : Char) : Bool := inRanges blankRanges c.toNat

/-- White space proper: the blank characters without the information separators. -/
def isSpace (c : Char) : Bool := isBlank c && !inRanges [(0x001C, 0x001F)] c.toNat

/-- A text without its leading blanks. -/
def trimStart (t : Text) : Text := t.dropWhile isBlank

/-- A text without its trailing blanks. -/
def trimEnd (t : Text) : Text := (t.reverse.dropWhile isBlank).reverse

/-- A text without its leading and trailing blanks. -/
def trim (t : Text) : Text := trimEnd (trimStart t)

/-- A text without leading and trailing white space. -/
def trimSpace (t : Text) : Text :=
  ((t.dropWhile isSpace).reverse.dropWhile isSpace).reverse

end LineJoin.Text
