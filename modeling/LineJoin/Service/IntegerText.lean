import LineJoin.Json.Reader
import LineJoin.Text.Blank

/-!
# Whole numbers in texts

A field that wants a whole number also takes a text that writes one. A text in plain form, a minus
sign at most and no leading zero, is read as it stands. Any other text is first brought to that
form: white space around it, a plus sign, leading zeros, underscores between digits and a fraction
of zeros are taken away. The two ways differ in how they refuse a number that is too long: the
first says so, the second only says that the text is no whole number.
-/

namespace LineJoin.Service.IntegerText

/-- What a text is, read as a whole number. -/
inductive Reading
  | value (n : Int)
  /-- Plain digits, more than are read. -/
  | overlong
  | unreadable
  deriving DecidableEq, Repr

/-! ## The plain form -/

/-- The digits of a number without a leading zero, unless they are too many. -/
def magnitude? (digits : Text) : Option Nat :=
  match Json.wholePart? digits with
  | some (whole, []) =>
    if whole.length ≤ Numeral.maxDigits then some (Json.natOf whole) else none
  | _ => none

/-- A whole number in plain form. -/
def plain? : Text → Option Int
  | '-' :: rest => (magnitude? rest).map fun n => -Int.ofNat n
  | rest => (magnitude? rest).map Int.ofNat

/-- A text without the minus sign that it may start with. -/
def dropMinus : Text → Text
  | '-' :: rest => rest
  | rest => rest

/-- Whether a text starts, after its sign, with more plain digits than are read. What follows them
does not matter. -/
def isOverlong (t : Text) : Bool :=
  match Json.wholePart? (dropMinus t) with
  | some (whole, _) => decide (Numeral.maxDigits < whole.length)
  | none => false

/-! ## Bringing a text to the plain form -/

/-- A zero before the number, or an underscore between such zeros. -/
def isFiller (c : Char) : Bool := c == '0' || c == '_'

/-- A text after its leading zeros; a zero before the point, or at the end, stays. `none` if the
text does not start like a number. -/
def dropLeadingZeros (t : Text) : Option Text :=
  match t with
  | '0' :: _ =>
    match t.dropWhile isFiller with
    | [] => some (t.drop (t.length - 1))
    | '.' :: _ => some (t.drop ((t.takeWhile isFiller).length - 1))
    | c :: rest => if c = '-' ∨ Json.isDigit c then some (c :: rest) else none
  | c :: _ => if Json.isDigit c then some t else none
  | [] => none

/-- A text without a point that zeros follow, at least one and nothing else. -/
def dropZeroFraction (t : Text) : Text :=
  match Text.splitFirst '.' t with
  | some (whole, fraction) =>
    if !fraction.isEmpty && fraction.all (· == '0') then whole else t
  | none => t

/-- A text without underscores, if each stands alone between two other characters. -/
def dropUnderscores : Text → Option Text
  | [] => some []
  | ['_'] => none
  | c :: '_' :: d :: rest =>
    if c = '_' ∨ d = '_' then none else (dropUnderscores (d :: rest)).map (c :: ·)
  | c :: rest => if c = '_' then none else (dropUnderscores rest).map (c :: ·)

/-- The plain form of a number without a sign. -/
def plainDigits? (t : Text) : Option Text := do
  dropUnderscores (dropZeroFraction (← dropLeadingZeros t))

/-- The plain form of a number. -/
def plainForm? (t : Text) : Option Text :=
  match Text.trimSpace t with
  | '+' :: rest => plainDigits? rest
  | '-' :: rest => (plainDigits? rest).map ('-' :: ·)
  | rest => plainDigits? rest

/-- The whole number that a text writes. -/
def read (t : Text) : Reading :=
  if isOverlong t then .overlong
  else
    match plain? t <|> (plainForm? t).bind plain? with
    | some n => .value n
    | none => .unreadable

end LineJoin.Service.IntegerText
