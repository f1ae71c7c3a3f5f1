import LineJoin.Text.Printable

/-!
# Quoted forms

A text between quotation marks, written so that it can be told from its surroundings: the mark in
use and the backslash are escaped, line and tab controls have their short escapes, and every other
unprintable character is written by its code point in hexadecimal.
-/

namespace LineJoin.Text

/-- The apostrophe, the mark that a quoted form uses unless the text holds it. -/
def apostrophe : Char := Char.ofNat 0x27

/-- The quotation mark, in use when the text holds an apostrophe and no quotation mark. -/
def quotationMark : Char := Char.ofNat 0x22

/-- The grave accent. -/
def graveAccent : Char := Char.ofNat 0x60

/-- A hexadecimal digit, in lower case. -/
def hexDigit (value : Nat) : Char :=
  if value < 10 then Char.ofNat (0x30 + value) else Char.ofNat (0x57 + value)

/-- The last `width` hexadecimal digits of a number. -/
def hex : (width n : Nat) → Text
  | 0, _ => []
  | width + 1, n => hex width (n / 16) ++ [hexDigit (n % 16)]

/-- The mark that encloses a text in its quoted form. -/
def quoteFor (t : Text) : Char :=
  if t.contains apostrophe && !t.contains quotationMark then quotationMark else apostrophe

/-- One character of a quoted form. -/
def quoteChar (mark c : Char) : Text :=
  if c = mark ∨ c = '\\' then ['\\', c]
  else if c = '\n' then ['\\', 'n']
  else if c = '\r' then ['\\', 'r']
  else if c = '\t' then ['\\', 't']
  else if isPrintable c then [c]
  else if c.toNat < 0x100 then '\\' :: 'x' :: hex 2 c.toNat
  else if c.toNat < 0x10000 then '\\' :: 'u' :: hex 4 c.toNat
  else '\\' :: 'U' :: hex 8 c.toNat

/-- The quoted form of a text. -/
def quoted (t : Text) : Text :=
  let mark := quoteFor t
  mark :: t.flatMap (quoteChar mark) ++ [mark]

end LineJoin.Text
