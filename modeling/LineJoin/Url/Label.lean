import LineJoin.Text.LetterCase
import LineJoin.Url.NameTable

/-!
# Labels of host names

A host name beyond ASCII is a sequence of labels, each of which is written in ASCII: the ASCII
characters first, then the others in increasing order, each by the distance from the one before. The
distance counts the positions that were passed over, and is written in digits of which the first is
the least; how far each digit counts adapts to the distances seen so far.
-/

namespace LineJoin.Url

/-! ## Distances -/

/-- A digit: the letters come before the decimal digits. -/
def labelDigit (value : Nat) : Char :=
  if value < 26 then Char.ofNat (0x61 + value) else Char.ofNat (0x30 + (value - 26))

/-- From which value on the digit at a place is not the last. -/
def threshold (bias place : Nat) : Nat := max 1 (min 26 (36 * place - bias))

/-- The digits of a distance from a place on. -/
def distanceDigits (bias place n : Nat) : Text :=
  let t := threshold bias place
  if n < t then [labelDigit n]
  else
    labelDigit (t + (n - t) % (36 - t)) :: distanceDigits bias (place + 1) ((n - t) / (36 - t))
termination_by n
decreasing_by
  have positive : 1 ≤ threshold bias place := Nat.le_max_left _ _
  have smaller := Nat.div_le_self (n - threshold bias place) (36 - threshold bias place)
  omega

/-- A large distance brought down, with the bias that this is worth. -/
def dampen (bias n : Nat) : Nat :=
  if 455 < n then dampen (bias + 36) (n / 35) else bias + 36 * n / (n + 38)
termination_by n
decreasing_by omega

/-- The bias after a distance, with the number of characters written and whether it was the first. -/
def adapt (first : Bool) (n written : Nat) : Nat :=
  let scaled := if first then n / 700 else n / 2
  dampen 0 (scaled + scaled / written)

/-! ## Writing a label -/

/-- A label on the way: what is written, the distance since the last character, the bias, how many
characters are written, and whether one of them was beyond ASCII. -/
structure Writing where
  out : Text
  distance : Nat := 0
  bias : Nat := 72
  written : Nat
  first : Bool := true

/-- One character of the label, when it is the turn of a code point: smaller ones are passed over. -/
def Writing.visit (turn : Nat) (w : Writing) (c : Char) : Writing :=
  if c.toNat < turn then { w with distance := w.distance + 1 }
  else if c.toNat = turn then
    { out := w.out ++ distanceDigits w.bias 1 w.distance
      distance := 0
      bias := adapt w.first w.distance (w.written + 1)
      written := w.written + 1
      first := false }
  else w

/-- Write the characters of the label that have one code point, then those of the next. -/
def Writing.turns (label : Text) (w : Writing) (after : Nat) : List Nat → Writing
  | [] => w
  | turn :: later =>
    let w := { w with distance := w.distance + (turn - after) * (w.written + 1) }
    let w := label.foldl (Writing.visit turn) w
    Writing.turns label { w with distance := w.distance + 1 } (turn + 1) later

/-- A character of ASCII. -/
def isAscii (c : Char) : Bool := decide (c.toNat < 0x80)

/-- Numbers in increasing order, each once. -/
def insertOnce (n : Nat) : List Nat → List Nat
  | [] => [n]
  | m :: rest => if n < m then n :: m :: rest else if n = m then m :: rest else m :: insertOnce n rest

/-- A label in ASCII, without the mark in front of it. -/
def labelCode (label : Text) : Text :=
  let plain := label.filter isAscii
  let others := (label.filter (!isAscii ·)).foldr (fun c rest => insertOnce c.toNat rest) []
  let start : Writing :=
    { out := if plain.isEmpty then [] else plain ++ ['-'], written := plain.length }
  (Writing.turns label start 0x80 others).out

/-! ## Which labels are names -/

/-- A small ASCII letter, a digit or a hyphen. -/
def isPlainName (c : Char) : Bool := c.isLower || c.isDigit || c == '-'

/-- Whether a character may stand where it does, between the texts before and after it. Some may
only in company: a middle dot between two letters l, another among kana, digits of one Arabic
script without those of the other. -/
def admits (before : Text) (c : Char) (after : Text) : Bool :=
  let n := c.toNat
  let others (low high : Nat) := !(before ++ after).any fun d => Text.inRanges [(low, high)] d.toNat
  if n < 0x80 then isPlainName c
  else if n = 0xB7 then before.getLast? == some 'l' && after.head? == some 'l'
  else if n = 0x30FB then (before ++ after).any fun d => Text.inRanges kanaRanges d.toNat
  else if Text.inRanges [(0x660, 0x669)] n then others 0x6F0 0x6F9
  else if Text.inRanges [(0x6F0, 0x6F9)] n then others 0x660 0x669
  else Text.inRanges nameRanges n

/-- Whether every character may stand where it does. -/
def admitsAll (before : Text) : Text → Bool
  | [] => true
  | c :: rest => admits before c rest && admitsAll (before ++ [c]) rest

/-- Whether a text is a label: no hyphen at an end, nor in both places that mark a coded label, and
only characters that may stand there. -/
def isLabel (label : Text) : Bool :=
  !label.isEmpty && label.head? != some '-' && label.getLast? != some '-'
    && (label.drop 2).take 2 != ['-', '-'] && admitsAll [] label

/-- The mark in front of a coded label. -/
def codedMark : Text := "xn--".toList

/-- A label as it is written in a host name. One that is coded already stays as it is. -/
def label? (label : Text) : Option Text :=
  let written :=
    if label.all isAscii then
      match codedMark.isPrefixOf? label with
      | some code => if code.isEmpty || code.getLast? == some '-' then none else some label
      | none => if isLabel label then some label else none
    else if isLabel label then some (codedMark ++ labelCode label)
    else none
  written.filter (·.length ≤ 63)

/-- A point between labels: the full stop and its three wide forms. -/
def isLabelPoint (c : Char) : Bool :=
  c == '.' || c.toNat == 0x3002 || c.toNat == 0xFF0E || c.toNat == 0xFF61

end LineJoin.Url
