import LineJoin.Json.Basic

/-!
# Numbers among JSON values

A Boolean counts as zero or one. Whole numbers are compared exactly with the others; a value that is
not a number has no order. A whole number that is computed may have more digits than are written.
-/

namespace LineJoin.Json

/-- The whole number that a value is by its type. -/
def toInt? : Json → Option Int
  | int n => some n
  | bool b => some (if b then 1 else 0)
  | _ => none

/-- A number as an exact fraction with a positive denominator, or one of the values beyond. -/
inductive Magnitude
  | below
  | fraction (num : Int) (den : Nat)
  | above
  | unordered

/-- The magnitude of a number. -/
def magnitude? : Json → Option Magnitude
  | real (.finite negative mantissa exponent) =>
    let (num, den) := Binary64.scale mantissa 1 exponent
    some (.fraction (if negative then -Int.ofNat num else Int.ofNat num) den)
  | real (.infinite true) => some .below
  | real (.infinite false) => some .above
  | real .nan => some .unordered
  | value => value.toInt?.map (.fraction · 1)

/-- Whether one magnitude is less than another. -/
def Magnitude.lt : Magnitude → Magnitude → Bool
  | fraction a b, fraction c d => decide (a * d < c * b)
  | below, fraction .. | below, above | fraction .., above => true
  | _, _ => false

/-- Whether one number is less than another, if both are numbers. -/
def less? (a b : Json) : Option Bool := do
  return (← a.magnitude?).lt (← b.magnitude?)

/-- The number that is one more. -/
def increment? : Json → Option Json
  | real (.finite negative mantissa exponent) =>
    let (num, den) := Binary64.scale mantissa 1 exponent
    let sum : Int := (if negative then -Int.ofNat num else Int.ofNat num) + den
    some (real (Binary64.ofFraction (decide (sum < 0)) sum.natAbs den))
  | real x => some (real x)
  | value => value.toInt?.map fun n => int (n + 1)

/-- Whether a value is a whole number with more digits than are written. -/
def isOverlong : Json → Bool
  | int n => decide (Numeral.maxDigits < (Numeral.decimal n.natAbs).length)
  | _ => false

/-- How many parts a value has, if it is one that has parts. -/
def size? : Json → Option Nat
  | str t => some t.length
  | broken b => some b.points.length
  | array items => some items.length
  | object fields => some fields.length
  | _ => none

/-- The parts of a value one after the other: items, characters, or the names of fields. -/
def parts? : Json → Option (List Json)
  | str t => some (t.map fun c => str [c])
  | broken b => some (b.points.map fun n => ofPhrase (.ofPoints [n]))
  | array items => some items
  | object fields => some (fields.map fun (name, _) => ofPhrase name)
  | _ => none

end LineJoin.Json
