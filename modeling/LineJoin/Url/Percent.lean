import LineJoin.Text.Utf8
import LineJoin.Json.Reader

/-!
# Percent encoding

Each part of an address keeps a set of printable ASCII characters, and every other character is
written byte by byte, a percent sign and two hexadecimal digits for each. The percent sign itself is
kept in every part, so what is encoded already is not encoded again.
-/

namespace LineJoin.Url

/-- The parts of an address in which characters are encoded. -/
inductive Part
  | userinfo
  | host
  | path
  | query
  | fragment
  deriving DecidableEq, Repr

/-- A letter, a digit, or one of the marks that stand for themselves in every part. -/
def isUnreserved (c : Char) : Bool := c.isAlphanum || "-._~".toList.contains c

/-- The marks that divide the inside of a part. -/
def innerDelimiters : Text := "!$&()*+,;=".toList ++ [Text.apostrophe]

/-- The two braces. -/
def braces : Text := [Char.ofNat 0x7B, Char.ofNat 0x7D]

/-- Space, quotation mark and angle brackets, which wrap an address in running text. -/
def wrappingMarks : Text := " <>".toList ++ [Text.quotationMark]

/-- What a path encodes besides those and the marks that end it. -/
def pathMarks : Text := Text.graveAccent :: braces

namespace Part

/-- The printable ASCII characters that a part encodes; a host lists what it keeps instead. -/
def encodes : Part → Text
  | userinfo => wrappingMarks ++ "#?/;=@[\\]^|".toList ++ pathMarks
  | host => []
  | path => wrappingMarks ++ "#?".toList ++ pathMarks
  | query => wrappingMarks ++ ['#']
  | fragment => Text.graveAccent :: wrappingMarks

/-- Whether a part keeps a character as it is. -/
def keeps (part : Part) (c : Char) : Bool :=
  match part with
  | host =>
    isUnreserved c || innerDelimiters.contains c || "%|\\".toList.contains c
      || braces.contains c || c == Text.quotationMark || c == Text.graveAccent
  | part => decide (0x20 ≤ c.toNat) && decide (c.toNat < 0x7F) && !part.encodes.contains c

end Part

/-- A byte as it is written. -/
def encodeByte (byte : UInt8) : Text := '%' :: (Text.hex 2 byte.toNat).map Char.toUpper

/-- A text with the characters encoded that a part does not keep. -/
def encode (part : Part) (t : Text) : Text :=
  t.flatMap fun c => if part.keeps c then [c] else (Text.Utf8.encodeChar c).flatMap encodeByte

/-- The bytes of an encoded text. A percent sign without two digits after it is one like any other
character. -/
def decodeBytes : Text → Text.Bytes
  | [] => []
  | '%' :: a :: b :: rest =>
    match Json.hexValue? a, Json.hexValue? b with
    | some high, some low => UInt8.ofNat (16 * high + low) :: decodeBytes rest
    | _, _ => Text.Utf8.encodeChar '%' ++ decodeBytes (a :: b :: rest)
  | c :: rest => Text.Utf8.encodeChar c ++ decodeBytes rest

/-- The text that is encoded; one whose bytes are no text stays as it is. -/
def decode (t : Text) : Text :=
  match Text.Utf8.decode (decodeBytes t) with
  | .ok decoded => decoded
  | .error _ => t

end LineJoin.Url
