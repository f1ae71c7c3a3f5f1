import LineJoin.Service.IntegerText
import LineJoin.Service.Issue

/-!
# Validation

From JSON to the fields of a request. Strings are taken as they are and never made from other
values; whole numbers may also come as texts, Booleans or numbers without a fraction; Booleans may
also come as words. Every field is checked, so that the issues of all of them are reported, in the
order in which the fields are declared.

A string with half a pair in it passes as a string. The joins behind validation work on texts, and
take the replacement character for the half: as little as the half is it blank or part of a marker.
A reply that would hold the half itself has no encoding; how a service fails over it is not told
here.
-/

namespace LineJoin.Service

/-- A value, or the issues that it has. -/
abbrev Checked (α : Type) := Except (List Issue) α

namespace Checked

/-- One issue. -/
def fail {α : Type} (kind : IssueKind) (place : List Part) (input : Json) : Checked α :=
  .error [⟨kind, place, input⟩]

/-- Two values, or the issues of both. -/
def both {α β : Type} (a : Checked α) (b : Checked β) : Checked (α × β) :=
  match a, b with
  | .ok x, .ok y => .ok (x, y)
  | .error issues, .ok _ => .error issues
  | .ok _, .error issues => .error issues
  | .error first, .error second => .error (first ++ second)

/-- The values of a list, or the issues of all its items. -/
def all {α : Type} : List (Checked α) → Checked (List α)
  | [] => .ok []
  | item :: items => (both item (all items)).map fun (x, xs) => x :: xs

end Checked

open Checked

/-! ## Values of one type -/

/-- A string. -/
def checkString (place : List Part) : Json → Checked Text
  | .str t => .ok t
  | .broken b => .ok b.standIn
  | input => fail .notString place input

/-- A string or null. -/
def checkStringOrNull (place : List Part) : Json → Checked (Option Text)
  | .null => .ok none
  | input => (checkString place input).map some

/-- The first number beyond a signed 64-bit word. -/
def wordBound : Int := 0x8000000000000000

/-- A whole number. -/
def checkInteger (place : List Part) : Json → Checked Int
  | .int n => .ok n
  | .bool b => .ok (if b then 1 else 0)
  | .real x =>
    match x with
    | .finite .. =>
      match x.toInt? with
      | none => fail .fractional place (.real x)
      | some n =>
        if -wordBound < n ∧ n < wordBound then .ok n else fail .integerTooLarge place (.real x)
    | _ => fail .notFinite place (.real x)
  | .str t =>
    match IntegerText.read t with
    | .value n => .ok n
    | .overlong => fail .integerTooLarge place (.str t)
    | .unreadable => fail .notIntegerText place (.str t)
  | .broken b => fail .notIntegerText place (.broken b)
  | input => fail .notInteger place input

/-- A line number: a whole number from zero on. -/
def checkLine (place : List Part) (input : Json) : Checked Nat :=
  match checkInteger place input with
  | .ok n => if n < 0 then fail .negative place input else .ok n.toNat
  | .error issues => .error issues

/-- The words for a Boolean. -/
def booleanWords : List (String × Bool) :=
  [("0", false), ("off", false), ("f", false), ("false", false), ("n", false), ("no", false),
   ("1", true), ("on", true), ("t", true), ("true", true), ("y", true), ("yes", true)]

/-- An ASCII letter in lower case. -/
def asciiLower (c : Char) : Char :=
  if 0x41 ≤ c.toNat ∧ c.toNat ≤ 0x5A then Char.ofNat (c.toNat + 0x20) else c

/-- A Boolean from a whole number. -/
def booleanOf (place : List Part) (input : Json) (n : Int) : Checked Bool :=
  if n = 0 then .ok false
  else if n = 1 then .ok true
  else fail .notBooleanWord place input

/-- A Boolean. -/
def checkBoolean (place : List Part) : Json → Checked Bool
  | .bool b => .ok b
  | .int n =>
    if -wordBound ≤ n ∧ n < wordBound then booleanOf place (.int n) n
    else fail .notBoolean place (.int n)
  | .real x =>
    match x.toInt? with
    | some n =>
      if -wordBound < n ∧ n < wordBound then booleanOf place (.real x) n
      else fail .notBoolean place (.real x)
    | none => fail .notBoolean place (.real x)
  | .str t =>
    match booleanWords.lookup (String.ofList (t.map asciiLower)) with
    | some b => .ok b
    | none => fail .notBooleanWord place (.str t)
  | .broken b => fail .notBooleanWord place (.broken b)
  | input => fail .notBoolean place input

/-- A list with at least one item, all of which pass. -/
def checkItems {α : Type} (check : List Part → Json → Checked α) (place : List Part) :
    Json → Checked (List α)
  | .array [] => fail .emptyList place (.array [])
  | .array items =>
    Checked.all (items.mapIdx fun index item => check (place ++ [.item index]) item)
  | input => fail .notList place input

/-! ## Fields -/

/-- A field that has to be there. -/
def required {α : Type} (check : List Part → Json → Checked α) (place : List Part) (name : String)
    (object : Json) : Checked α :=
  match object.get? name with
  | some value => check (place ++ [.field name]) value
  | none => fail .missing (place ++ [.field name]) object

/-- A field that may be left out. -/
def optional {α : Type} (check : List Part → Json → Checked α) (fallback : α) (place : List Part)
    (name : String) (object : Json) : Checked α :=
  match object.get? name with
  | some value => check (place ++ [.field name]) value
  | none => .ok fallback

/-- The fields of an object. -/
def checkObject {α : Type} (fields : List Part → Json → Checked α) (place : List Part) :
    Json → Checked α
  | .object fs => fields place (.object fs)
  | input => fail .notObject place input

/-! ## Requests -/

/-- Lines to join into one. -/
structure JoinRequest where
  lines : List Text
  language : Option Text
  deriving DecidableEq, Repr

/-- Two lines to join. -/
structure PairRequest where
  first : Text
  second : Text
  language : Option Text
  deriving DecidableEq, Repr

/-- A text whose context is asked for, with or without the states on the way. -/
structure ClassifyRequest where
  text : Text
  language : Option Text
  trace : Bool
  deriving DecidableEq, Repr

/-- A document and the first and last lines of the selections to join in it. -/
structure DocumentRequest where
  text : Text
  selections : List (Nat × Nat)
  language : Option Text
  deriving DecidableEq, Repr

/-- The language that a request names, if it names one. -/
def languageField (place : List Part) (object : Json) : Checked (Option Text) :=
  optional checkStringOrNull none place "language" object

/-- The fields of a join. -/
def JoinRequest.check : Json → Checked JoinRequest :=
  checkObject (fun place object =>
    (both (required (checkItems checkString) place "lines" object)
      (languageField place object)).map
    fun (lines, language) => ⟨lines, language⟩) []

/-- The fields of a join of two lines. -/
def PairRequest.check : Json → Checked PairRequest :=
  checkObject (fun place object =>
    (both (required checkString place "first" object)
      (both (required checkString place "second" object) (languageField place object))).map
    fun (first, second, language) => ⟨first, second, language⟩) []

/-- The fields of a classification. -/
def ClassifyRequest.check : Json → Checked ClassifyRequest :=
  checkObject (fun place object =>
    (both (required checkString place "text" object)
      (both (languageField place object)
        (optional checkBoolean false place "trace" object))).map
    fun (text, language, trace) => ⟨text, language, trace⟩) []

/-- The first and the last line of a selection. -/
def checkSelection : List Part → Json → Checked (Nat × Nat) :=
  checkObject fun place object =>
    both (required checkLine place "start_line" object)
      (required checkLine place "end_line" object)

/-- The fields of a join in a document. -/
def DocumentRequest.check : Json → Checked DocumentRequest :=
  checkObject (fun place object =>
    (both (required checkString place "text" object)
      (both (required (checkItems checkSelection) place "selections" object)
        (languageField place object))).map
    fun (text, selections, language) => ⟨text, selections, language⟩) []

end LineJoin.Service
