import LineJoin.Json.Basic

/-!
# Writing JSON

Without spaces. Quotation marks, backslashes and control characters are escaped in strings, and every
other character stands for itself. Half a pair, which has no encoding, is written by its number, so
that every value has a text.
-/

namespace LineJoin.Json

/-- One character of a string. -/
def printChar (c : Char) : Text :=
  if c = Text.quotationMark ∨ c = '\\' then ['\\', c]
  else if c = '\n' then ['\\', 'n']
  else if c = '\r' then ['\\', 'r']
  else if c = '\t' then ['\\', 't']
  else if c.toNat < 0x20 then '\\' :: 'u' :: Text.hex 4 c.toNat
  else [c]

/-- A string with its quotation marks. -/
def printString (t : Text) : Text :=
  Text.quotationMark :: (t.flatMap printChar ++ [Text.quotationMark])

/-- A string of any kind with its quotation marks. -/
def printPhrase : Phrase → Text
  | .text t => printString t
  | .broken b =>
    Text.quotationMark :: (b.points.flatMap
      (fun n => if Text.isHalf n then Text.escapeHalf n else printChar (Char.ofNat n))
        ++ [Text.quotationMark])

/-- A number that is not whole by its type. -/
def printReal : Binary64 → Text
  | .nan => "NaN".toList
  | .infinite negative => (if negative then "-Infinity" else "Infinity").toList
  | x => x.render

mutual

/-- The text of a value. -/
def print : Json → Text
  | null => "null".toList
  | bool true => "true".toList
  | bool false => "false".toList
  | int n => Numeral.decimalInt n
  | real x => printReal x
  | str t => printString t
  | broken b => printPhrase (.broken b)
  | array items => '[' :: (printItems items ++ [']'])
  | object fields => '{' :: (printFields fields ++ ['}'])

/-- Items with a comma between them. -/
def printItems : List Json → Text
  | [] => []
  | [item] => print item
  | item :: items => print item ++ ',' :: printItems items

/-- Fields with a comma between them. -/
def printFields : List (Phrase × Json) → Text
  | [] => []
  | [(key, value)] => printPhrase key ++ ':' :: print value
  | (key, value) :: fields =>
    printPhrase key ++ ':' :: (print value ++ ',' :: printFields fields)

end

end LineJoin.Json
