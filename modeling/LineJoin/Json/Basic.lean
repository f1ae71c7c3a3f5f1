import LineJoin.Binary64
import LineJoin.Text.Phrase

/-!
# JSON values

A value keeps whole numbers apart from the others, strings that are texts apart from those with half
a pair in them, and the fields of an object in their order. The described form is how a value stands
inside a message.
-/

namespace LineJoin

/-- A JSON value. -/
inductive Json
  | null
  | bool (value : Bool)
  | int (value : Int)
  | real (value : Binary64)
  | str (value : Text)
  | broken (value : BrokenText)
  | array (items : List Json)
  | object (fields : List (Phrase × Json))

namespace Json

/-- The value of an object's field. -/
def get? (key : String) : Json → Option Json
  | object fields => fields.lookup (key : Phrase)
  | _ => none

/-- A string. -/
def ofPhrase : Phrase → Json
  | .text t => str t
  | .broken b => broken b

/-- A text, or nothing. -/
def ofText? : Option Text → Json
  | some t => str t
  | none => null

/-- An array of texts. -/
def texts (ts : List Text) : Json := array (ts.map str)

/-- Fields in which a later value of a key takes the place of an earlier one. -/
def putField (fields : List (Phrase × Json)) (key : Phrase) (value : Json) :
    List (Phrase × Json) :=
  if fields.any (·.1 == key) then fields.map fun f => if f.1 == key then (key, value) else f
  else fields ++ [(key, value)]

/-! ## The described form -/

mutual

/-- How a value is written inside a message. -/
def describe : Json → Text
  | null => "None".toList
  | bool true => "True".toList
  | bool false => "False".toList
  | int n => Numeral.decimalInt n
  | real x => x.render
  | str t => Text.quoted t
  | broken b => b.quoted
  | array items => '[' :: (describeItems items ++ [']'])
  | object fields => '{' :: (describeFields fields ++ ['}'])

/-- Items with a comma between them. -/
def describeItems : List Json → Text
  | [] => []
  | [item] => describe item
  | item :: items => describe item ++ ',' :: ' ' :: describeItems items

/-- Fields with a comma between them. -/
def describeFields : List (Phrase × Json) → Text
  | [] => []
  | [(key, value)] => key.quoted ++ ':' :: ' ' :: describe value
  | (key, value) :: fields =>
    key.quoted ++ ':' :: ' ' :: (describe value ++ ',' :: ' ' :: describeFields fields)

end

/-- A value as a message of its own: a string is taken as it is. -/
def asMessage : Json → Phrase
  | str t => t
  | broken b => .broken b
  | value => describe value

end Json

end LineJoin
