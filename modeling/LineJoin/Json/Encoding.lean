import LineJoin.Text.Phrase
import LineJoin.Text.Utf8

/-!
# Encodings of JSON texts

A JSON text starts with two ASCII characters, or is one alone, so zero bytes at its start tell that
its characters are two or four bytes wide, and which byte comes first. Anything else is UTF-8. In a
wide encoding half a pair of code units by itself is not refused. It is no character, so a source
keeps it apart: in the text the replacement character holds its place.
-/

namespace LineJoin.Json

open Text

/-- A JSON text as it is read: its characters, and the code points that are none. -/
structure Source where
  text : Text
  /-- The half at a place, which is counted by the characters after it. -/
  half? : Nat → Option Nat

/-- No half at any place. -/
def noHalf : Nat → Option Nat := fun _ => none

namespace Source

/-- A text without halves. -/
def ofText (t : Text) : Source := ⟨t, noHalf⟩

/-- The source that code points make up. -/
def ofPoints (points : List Nat) : Source :=
  let backwards := points.reverse
  { text := points.map fun n => if isHalf n then Char.ofNat 0xFFFD else Char.ofNat n
    half? := fun after => backwards[after]?.filter isHalf }

end Source

/-! ## Wide encodings -/

/-- An encoding in which every unit has two or four bytes. -/
structure Wide where
  isLong : Bool
  bigEndian : Bool
  deriving DecidableEq, Repr

namespace Wide

/-- The name of an encoding. -/
def name (w : Wide) : String :=
  (if w.isLong then "utf-32-" else "utf-16-") ++ (if w.bigEndian then "be" else "le")

/-- The number of bytes in a unit. -/
def width (w : Wide) : Nat := if w.isLong then 4 else 2

/-- The number that the bytes of a unit stand for. -/
def unit (w : Wide) (bytes : Text.Bytes) : Nat :=
  (if w.bigEndian then bytes else bytes.reverse).foldl (fun n byte => 256 * n + byte.toNat) 0

/-- The encoding that the first bytes of a text tell, if it is a wide one. -/
def detect? : Text.Bytes → Option Wide
  | [0, _] => some ⟨false, true⟩
  | [_, 0] => some ⟨false, false⟩
  | 0 :: b :: _ :: _ :: _ => some ⟨b == 0, true⟩
  | _ :: 0 :: c :: d :: _ => some ⟨c == 0 && d == 0, false⟩
  | _ => none

/-- Where and why decoding stopped. -/
structure Fault where
  encoding : Wide
  first : Nat
  /-- The bytes at fault. -/
  bytes : Text.Bytes
  /-- Whether the text ends inside a unit; else a unit is beyond the last code point. -/
  isTruncated : Bool
  deriving DecidableEq, Repr

/-- The words that report a fault: one byte is named by its value, several by their positions. -/
def Fault.message (f : Fault) : Text :=
  Text.apostrophe :: f.encoding.name.toList ++ Text.apostrophe :: " codec can't decode ".toList
    ++ (match f.bytes with
        | [byte] =>
          "byte 0x".toList ++ Text.hex 2 byte.toNat ++ " in position ".toList
            ++ Numeral.decimal f.first
        | bytes =>
          "bytes in position ".toList ++ Numeral.decimal f.first ++ '-'
            :: Numeral.decimal (f.first + bytes.length - 1))
    ++ (if f.isTruncated then ": truncated data" else ": code point not in range(0x110000)").toList

/-- The units of a text from a position on. -/
def units (w : Wide) (position : Nat) : Text.Bytes → Except Fault (List Nat)
  | [] => .ok []
  | byte :: rest =>
    let bytes := (byte :: rest).take w.width
    if bytes.length < w.width then .error ⟨w, position, bytes, true⟩
    else if 0x110000 ≤ w.unit bytes then .error ⟨w, position, bytes, false⟩
    else (w.units (position + w.width) (rest.drop (w.width - 1))).map (w.unit bytes :: ·)
termination_by bytes => bytes.length
decreasing_by simp only [List.length_drop, List.length_cons]; omega

/-- Units of two bytes as code points, two halves that belong together as one. -/
def joinPairs : List Nat → List Nat
  | [] => []
  | [n] => [n]
  | high :: low :: rest =>
    if isHighUnit high && isLowUnit low then pairPoint high low :: joinPairs rest
    else high :: joinPairs (low :: rest)

/-- The code points that units stand for. Only units of two bytes come in pairs. -/
def points (w : Wide) (units : List Nat) : List Nat :=
  if w.isLong then units else joinPairs units

end Wide

/-! ## Texts -/

/-- A text without the byte order mark that it may start with. -/
def dropMark : Text → Text
  | c :: rest => if c.toNat = 0xFEFF then rest else c :: rest
  | [] => []

/-- The JSON text in a sequence of bytes, which is given as the text that it is in UTF-8. -/
def decode (t : Text) : Except Wide.Fault Source :=
  match Wide.detect? (Text.Utf8.encode (t.take 4)) with
  | none => .ok (.ofText (dropMark t))
  | some w => (w.units 0 (Text.Utf8.encode t)).map fun units => .ofPoints (w.points units)

end LineJoin.Json
