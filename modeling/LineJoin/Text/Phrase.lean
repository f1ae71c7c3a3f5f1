import LineJoin.Numeral
import LineJoin.Text.Quoted

/-!
# Phrases

What a string of an interchange format holds. Nearly always that is a text. But such a format can
name a character beyond the first 65536 by a pair of code units, and nothing keeps it from naming
half of a pair alone. Half a pair is no character, so that string is no text: it is kept as its code
points, the halves among them. It can be counted, taken apart, compared, quoted and shown, but it has
no encoding.
-/

namespace LineJoin

namespace Text

/-! ## Halves of pairs -/

/-- A code unit that is the first half of a pair. -/
def isHighUnit (n : Nat) : Bool := decide (0xD800 ≤ n) && decide (n < 0xDC00)

/-- A code unit that is the second half of a pair. -/
def isLowUnit (n : Nat) : Bool := decide (0xDC00 ≤ n) && decide (n < 0xE000)

/-- A code point that is half a pair, and so no character. -/
def isHalf (n : Nat) : Bool := isHighUnit n || isLowUnit n

/-- The code point that the two halves of a pair stand for. -/
def pairPoint (high low : Nat) : Nat := 0x10000 + (high - 0xD800) * 0x400 + (low - 0xDC00)

/-- A half by its number, as an escape. -/
def escapeHalf (n : Nat) : Text := '\\' :: 'u' :: hex 4 n

end Text

open Text

/-! ## Strings that are no texts -/

/-- Code points with half a pair among them. -/
structure BrokenText where
  points : List Nat
  holdsHalf : points.any isHalf = true
  deriving DecidableEq, Repr

namespace BrokenText

/-- The characters of a broken text, with the replacement character in the place of each half. -/
def standIn (b : BrokenText) : Text :=
  b.points.map fun n => if isHalf n then Char.ofNat 0xFFFD else Char.ofNat n

/-- The form in which a broken text is shown: a half stands there by its number. -/
def shown (b : BrokenText) : Text :=
  b.points.flatMap fun n => if isHalf n then escapeHalf n else [Char.ofNat n]

/-- The quoted form of a broken text. -/
def quoted (b : BrokenText) : Text :=
  let mark := quoteFor b.standIn
  mark :: b.points.flatMap
    (fun n => if isHalf n then escapeHalf n else quoteChar mark (Char.ofNat n)) ++ [mark]

/-- The words that report that a broken text cannot be encoded: they tell its first halves, one by
its number, several by their positions. -/
def encodeMessage (b : BrokenText) : Text :=
  let first := (b.points.takeWhile (!isHalf ·)).length
  apostrophe :: "utf-8".toList ++ apostrophe :: " codec can't encode ".toList
    ++ (match (b.points.drop first).takeWhile isHalf with
        | [half] =>
          "character ".toList ++ apostrophe :: escapeHalf half
            ++ apostrophe :: " in position ".toList ++ Numeral.decimal first
        | halves =>
          "characters in position ".toList ++ Numeral.decimal first ++ '-'
            :: Numeral.decimal (first + halves.length - 1))
    ++ ": surrogates not allowed".toList

end BrokenText

/-! ## Strings -/

/-- What a string holds: a text, or code points that are none. -/
inductive Phrase
  | text (t : Text)
  | broken (b : BrokenText)
  deriving DecidableEq, Repr

namespace Phrase

instance : Coe Text Phrase := ⟨text⟩

instance : Coe String Phrase := ⟨fun s => text s.toList⟩

/-- What code points make up. -/
def ofPoints (points : List Nat) : Phrase :=
  if h : points.any isHalf = true then broken ⟨points, h⟩ else text (points.map Char.ofNat)

/-- The quoted form. -/
def quoted : Phrase → Text
  | text t => Text.quoted t
  | broken b => b.quoted

/-- The form in which a phrase is shown. -/
def shown : Phrase → Text
  | text t => t
  | broken b => b.shown

end Phrase

end LineJoin
