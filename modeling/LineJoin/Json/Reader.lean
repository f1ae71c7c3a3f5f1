import LineJoin.Json.Fault

/-!
# Reading JSON

A reader that says what it missed and where. Inside, a place is the number of characters that are
left; `read` turns it into a place from the start. White space is the four characters of the format;
`NaN` and the two infinities are read as numbers; whole numbers have a bound on their digits; of two
fields with one name the later value counts, in the earlier place.

Two escapes that are the halves of a pair stand for one character. A half without the other is kept,
and its string is then no text (`Phrase.broken`). How deep containers may stand in each other is up
to whoever reads: it depends on the room that is left.
-/

namespace LineJoin.Json

/-- Why reading stops, where a place is the number of characters that are left. -/
inductive Miss
  | malformed (complaint : Complaint) (left : Nat)
  | oversized (digits : Nat)
  | tooDeep (container : Container)
  deriving DecidableEq, Repr

/-- The fault of a text at which reading stops. -/
def Miss.inText (t : Text) : Miss → Fault
  | malformed complaint left => .malformed complaint (.after t (t.length - left))
  | oversized digits => .oversized digits
  | tooDeep container => .tooDeep container

/-! ## Strings -/

/-- The value of a hexadecimal digit. -/
def hexValue? (c : Char) : Option Nat :=
  let n := c.toNat
  if 0x30 ≤ n ∧ n ≤ 0x39 then some (n - 0x30)
  else if 0x41 ≤ n ∧ n ≤ 0x46 then some (n - 0x37)
  else if 0x61 ≤ n ∧ n ≤ 0x66 then some (n - 0x57)
  else none

/-- The number that four hexadecimal digits stand for. -/
def hex4? (a b c d : Char) : Option Nat := do
  return (((← hexValue? a) * 16 + (← hexValue? b)) * 16 + (← hexValue? c)) * 16 + (← hexValue? d)

/-- The character of a one-letter escape. -/
def shortEscape? (c : Char) : Option Nat :=
  if c = Text.quotationMark ∨ c = '\\' ∨ c = '/' then some c.toNat
  else if c = 'b' then some 0x08
  else if c = 'f' then some 0x0C
  else if c = 'n' then some 0x0A
  else if c = 'r' then some 0x0D
  else if c = 't' then some 0x09
  else none

/-- Whether a text starts with the escape of a code unit. -/
def startsWithUnit : Text → Bool
  | '\\' :: 'u' :: _ => true
  | _ => false

/-- An escaped code unit before the code points that follow. If these start with another escaped
unit, the two may be a pair. -/
def joinUnit (paired : Bool) (unit : Nat) : List Nat → List Nat
  | low :: points =>
    if paired && Text.isHighUnit unit && Text.isLowUnit low then Text.pairPoint unit low :: points
    else unit :: low :: points
  | [] => [unit]

section Source

variable (half? : Nat → Option Nat)

/-- The code points of a string up to its closing mark, and the text after the mark. `opening` is
the place of the opening mark. -/
def stringPoints (opening : Nat) : Text → Except Miss (List Nat × Text)
  | [] => .error (.malformed .unterminated opening)
  | '\\' :: 'u' :: a :: b :: c :: d :: e :: rest =>
    match hex4? a b c d with
    | none => .error (.malformed .unicodeEscape (rest.length + 6))
    | some unit => do
      let (points, after) ← stringPoints opening (e :: rest)
      return (joinUnit (startsWithUnit (e :: rest)) unit points, after)
  | '\\' :: 'u' :: rest => .error (.malformed .unicodeEscape (rest.length + 1))
  | ['\\'] => .error (.malformed .unterminated opening)
  | '\\' :: c :: rest =>
    match shortEscape? c with
    | none => .error (.malformed .escape (rest.length + 2))
    | some point => do
      let (points, rest) ← stringPoints opening rest
      return (point :: points, rest)
  | c :: rest =>
    if c = Text.quotationMark then .ok ([], rest)
    else if c.toNat < 0x20 then .error (.malformed .control (rest.length + 1))
    else do
      let (points, after) ← stringPoints opening rest
      return ((half? rest.length).getD c.toNat :: points, after)

/-- A string after its opening mark, whose place is given. -/
def readString (opening : Nat) (t : Text) : Except Miss (Phrase × Text) := do
  let (points, rest) ← stringPoints half? opening t
  return (.ofPoints points, rest)

end Source

/-! ## Numbers -/

/-- An ASCII digit. -/
def isDigit (c : Char) : Bool := decide (0x30 ≤ c.toNat) && decide (c.toNat ≤ 0x39)

/-- The number that ASCII digits stand for. -/
def natOf (digits : Text) : Nat := Numeral.ofDigits (digits.map (·.toNat - 0x30))

/-- The digits before the point, which start with a zero only if it is the only one. -/
def wholePart? : Text → Option (Text × Text)
  | '0' :: rest => some (['0'], rest)
  | t => if (t.takeWhile isDigit).isEmpty then none else some (t.takeWhile isDigit, t.dropWhile isDigit)

/-- The digits after the point; none if there is no digit after it. -/
def fractionPart : Text → Text × Text
  | '.' :: rest =>
    if (rest.takeWhile isDigit).isEmpty then ([], '.' :: rest)
    else (rest.takeWhile isDigit, rest.dropWhile isDigit)
  | t => ([], t)

/-- The exponent; none if no digit follows its letter and sign. -/
def exponentPart (t : Text) : Option Int × Text :=
  match t with
  | c :: rest =>
    if c = 'e' ∨ c = 'E' then
      let (negative, digits) := match rest with
        | '+' :: digits => (false, digits)
        | '-' :: digits => (true, digits)
        | digits => (false, digits)
      if (digits.takeWhile isDigit).isEmpty then (none, t)
      else
        let value := Int.ofNat (natOf (digits.takeWhile isDigit))
        (some (if negative then -value else value), digits.dropWhile isDigit)
    else (none, t)
  | [] => (none, t)

/-- A number, if the text starts with one. -/
def readNumber? (t : Text) : Option (Except Miss Json × Text) :=
  let (negative, unsigned) := match t with
    | '-' :: rest => (true, rest)
    | rest => (false, rest)
  match wholePart? unsigned with
  | none => none
  | some (whole, rest) =>
    let (fraction, rest) := fractionPart rest
    let (exponent, rest) := exponentPart rest
    if fraction.isEmpty && exponent.isNone then
      if Numeral.maxDigits < whole.length then some (.error (.oversized whole.length), rest)
      else
        let value := Int.ofNat (natOf whole)
        some (.ok (int (if negative then -value else value)), rest)
    else
      some (.ok (real (Binary64.ofDecimal negative (natOf (whole ++ fraction))
        (exponent.getD 0 - fraction.length))), rest)

/-- The fixed words, each with its value. -/
def words : List (String × Json) :=
  [("null", null), ("true", bool true), ("false", bool false), ("NaN", real .nan),
   ("Infinity", real (.infinite false)), ("-Infinity", real (.infinite true))]

/-- A word, if the text starts with one. -/
def readWord? (t : Text) : Option (Json × Text) :=
  words.findSome? fun (word, value) => (word.toList.isPrefixOf? t).map ((value, ·))

/-! ## Values -/

/-- White space of the format. -/
def isGap (c : Char) : Bool := c == ' ' || c == '\t' || c == '\n' || c == '\r'

/-- A text without leading white space. -/
def skipGap (t : Text) : Text := t.dropWhile isGap

/-- A word or a number. -/
def readScalar (t : Text) : Except Miss (Json × Text) :=
  match readWord? t with
  | some result => .ok result
  | none =>
    match readNumber? t with
    | some (.ok value, rest) => .ok (value, rest)
    | some (.error fault, _) => .error fault
    | none => .error (.malformed .value t.length)

section Values

variable (half? : Nat → Option Nat)

/-- The name of a field and its colon, and the text where the value starts. -/
def readName (t : Text) : Except Miss (Phrase × Text) :=
  match t with
  | c :: rest =>
    if c = Text.quotationMark then do
      let (name, rest) ← readString half? t.length rest
      match skipGap rest with
      | ':' :: rest => return (name, skipGap rest)
      | rest => .error (.malformed .colon rest.length)
    else .error (.malformed .name t.length)
  | [] => .error (.malformed .name 0)

mutual

/-- The value that a text starts with, and the text after it. The depth is how many containers may
still be opened. -/
def readValue : (budget depth : Nat) → Text → Except Miss (Json × Text)
  | 0, _, t => .error (.malformed .value t.length)
  | _ + 1, _, [] => .error (.malformed .value 0)
  | budget + 1, depth, c :: rest =>
    if c = Text.quotationMark then do
      let (value, rest) ← readString half? (rest.length + 1) rest
      return (ofPhrase value, rest)
    else if c = '[' then
      match depth, skipGap rest with
      | 0, _ => .error (.tooDeep .array)
      | _ + 1, ']' :: rest => .ok (array [], rest)
      | depth + 1, rest => do
        let (items, rest) ← readItems budget depth rest
        return (array items, rest)
    else if c = '{' then
      match depth, skipGap rest with
      | 0, _ => .error (.tooDeep .object)
      | _ + 1, '}' :: rest => .ok (object [], rest)
      | depth + 1, rest => do
        let (fields, rest) ← readFields budget depth [] rest
        return (object fields, rest)
    else readScalar (c :: rest)

/-- The items of an array from one of them on. -/
def readItems : (budget depth : Nat) → Text → Except Miss (List Json × Text)
  | 0, _, t => .error (.malformed .value t.length)
  | budget + 1, depth, t => do
    let (item, rest) ← readValue budget depth t
    match skipGap rest with
    | ']' :: rest => return ([item], rest)
    | ',' :: rest =>
      let (items, rest) ← readItems budget depth (skipGap rest)
      return (item :: items, rest)
    | rest => .error (.malformed .comma rest.length)

/-- The fields of an object from one of them on, after those already read. -/
def readFields : (budget depth : Nat) → List (Phrase × Json) → Text →
    Except Miss (List (Phrase × Json) × Text)
  | 0, _, _, t => .error (.malformed .name t.length)
  | budget + 1, depth, fields, t => do
    let (name, rest) ← readName half? t
    let (value, rest) ← readValue budget depth rest
    let fields := putField fields name value
    match skipGap rest with
    | '}' :: rest => return (fields, rest)
    | ',' :: rest => readFields budget depth fields (skipGap rest)
    | rest => .error (.malformed .comma rest.length)

end

end Values

/-- The one value that a source holds. -/
def readWhole (depth : Nat) (source : Source) : Except Miss Json := do
  let (value, rest) ←
    readValue source.half? (2 * source.text.length + 2) depth (skipGap source.text)
  match skipGap rest with
  | [] => return value
  | extra => .error (.malformed .extra extra.length)

/-- The value that a text holds, if its containers stand in each other at most so deep. Places are
counted in the text without a byte order mark. -/
def read (depth : Nat) (t : Text) : Except Fault Json :=
  match decode t with
  | .error fault => .error (.undecodable fault)
  | .ok source => (readWhole depth source).mapError (·.inText source.text)

end LineJoin.Json
