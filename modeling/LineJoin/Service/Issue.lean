import LineJoin.Json.Fault

/-!
# Issues

What the service finds wrong with a request: a kind of issue, where in the request it is, and the
value at fault. A request can have several, and all of them are reported.
-/

namespace LineJoin.Service

/-- A step from a value into one of its parts. -/
inductive Part
  | field (name : String)
  | item (index : Nat)
  deriving DecidableEq, Repr

/-- What is wrong with a value. -/
inductive IssueKind
  | missing
  | notJson (complaint : Json.Complaint)
  | notObject
  | notString
  | notList
  | emptyList
  | notInteger
  | fractional
  | notIntegerText
  | integerTooLarge
  | notFinite
  | negative
  | notBoolean
  | notBooleanWord
  deriving DecidableEq, Repr

/-- An issue at a place of a request. -/
structure Issue where
  kind : IssueKind
  place : List Part
  input : Json

namespace IssueKind

/-- The tag of a kind of issue. -/
def tag : IssueKind → String
  | missing => "missing"
  | notJson _ => "json_invalid"
  | notObject => "model_attributes_type"
  | notString => "string_type"
  | notList => "list_type"
  | emptyList => "too_short"
  | notInteger => "int_type"
  | fractional => "int_from_float"
  | notIntegerText => "int_parsing"
  | integerTooLarge => "int_parsing_size"
  | notFinite => "finite_number"
  | negative => "greater_than_equal"
  | notBoolean => "bool_type"
  | notBooleanWord => "bool_parsing"

/-- The words for a kind of issue. -/
def message : IssueKind → String
  | missing => "Field required"
  | notJson _ => "JSON decode error"
  | notObject => "Input should be a valid dictionary or object to extract fields from"
  | notString => "Input should be a valid string"
  | notList => "Input should be a valid list"
  | emptyList => "List should have at least 1 item after validation, not 0"
  | notInteger => "Input should be a valid integer"
  | fractional => "Input should be a valid integer, got a number with a fractional part"
  | notIntegerText => "Input should be a valid integer, unable to parse string as an integer"
  | integerTooLarge => "Unable to parse input string as an integer, exceeded maximum size"
  | notFinite => "Input should be a finite number"
  | negative => "Input should be greater than or equal to 0"
  | notBoolean => "Input should be a valid boolean"
  | notBooleanWord => "Input should be a valid boolean, unable to interpret input"

/-- The bounds or the complaint behind a kind of issue, where there is one. -/
def context? : IssueKind → Option Json
  | notJson complaint => some (.object [("error", .str complaint.phrase.toList)])
  | emptyList =>
    some (.object [("field_type", .str "List".toList), ("min_length", .int 1),
      ("actual_length", .int 0)])
  | negative => some (.object [("ge", .int 0)])
  | _ => none

end IssueKind

/-- A step into a value, as it is reported. -/
def Part.json : Part → Json
  | field name => .str name.toList
  | item index => .int index

/-- An issue as it is reported: its place starts at the body of the request. -/
def Issue.json (issue : Issue) : Json :=
  let fields : List (Phrase × Json) := [("type", .str issue.kind.tag.toList),
    ("loc", .array (.str "body".toList :: issue.place.map Part.json)),
    ("msg", .str issue.kind.message.toList),
    ("input", issue.input)]
  let context : Option (Phrase × Json) := issue.kind.context?.map fun c => ("ctx", c)
  .object (fields ++ context.toList)

end LineJoin.Service
