import LineJoin.Json.Basic
import LineJoin.Json.Encoding

/-!
# Faults in JSON texts

What a reader of JSON missed, and where; or why it did not come so far.
-/

namespace LineJoin.Json

/-- What was wrong. -/
inductive Complaint
  | value
  | name
  | colon
  | comma
  | unterminated
  | control
  | escape
  | unicodeEscape
  | extra
  deriving DecidableEq, Repr

/-- The words for what was wrong. -/
def Complaint.phrase : Complaint → String
  | value => "Expecting value"
  | name => "Expecting property name enclosed in double quotes"
  | colon => "Expecting ':' delimiter"
  | comma => "Expecting ',' delimiter"
  | unterminated => "Unterminated string starting at"
  | control => "Invalid control character at"
  | escape => "Invalid \\escape"
  | unicodeEscape => "Invalid \\uXXXX escape"
  | extra => "Extra data"

/-- A place in a text: the number of characters before it, its line and its column. -/
structure Place where
  offset : Nat
  line : Nat
  column : Nat
  deriving DecidableEq, Repr

/-- The place after some characters of a text. -/
def Place.after (t : Text) (offset : Nat) : Place where
  offset := offset
  line := (t.take offset).count '\n' + 1
  column := ((t.take offset).reverse.takeWhile (· != '\n')).length + 1

/-- What holds other values. -/
inductive Container
  | array
  | object
  deriving DecidableEq, Repr

/-- The word for a container. -/
def Container.noun : Container → String
  | array => "array"
  | object => "object"

/-- Why a text is not read. -/
inductive Fault
  /-- Something is wrong at a place. -/
  | malformed (complaint : Complaint) (place : Place)
  /-- A whole number has too many digits. -/
  | oversized (digits : Nat)
  /-- Containers stand in each other too deep. -/
  | tooDeep (container : Container)
  /-- The bytes are no text. -/
  | undecodable (fault : Wide.Fault)
  deriving DecidableEq, Repr

/-- The words that report a fault. -/
def Fault.message : Fault → Text
  | malformed complaint place =>
    complaint.phrase.toList ++ ": line ".toList ++ Numeral.decimal place.line
      ++ " column ".toList ++ Numeral.decimal place.column
      ++ " (char ".toList ++ Numeral.decimal place.offset ++ ")".toList
  | oversized digits =>
    "Exceeds the limit (4300 digits) for integer string conversion: value has ".toList
      ++ Numeral.decimal digits
      ++ " digits; use sys.set_int_max_str_digits() to increase the limit".toList
  | tooDeep container =>
    "maximum recursion depth exceeded while decoding a JSON ".toList ++ container.noun.toList
      ++ " from a unicode string".toList
  | undecodable fault => fault.message

end LineJoin.Json
