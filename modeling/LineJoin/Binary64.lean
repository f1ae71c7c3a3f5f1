import LineJoin.Numeral

/-!
# Double-precision numbers

A finite number is `mantissa · 2 ^ exponent`, kept exactly. A decimal is rounded to the nearest such
number, a tie to the even mantissa; a number is written with the fewest digits that read back as
it, and of those the nearest. Everything is exact arithmetic on natural numbers.
-/

namespace LineJoin

/-- A double-precision number. -/
inductive Binary64
  | finite (negative : Bool) (mantissa : Nat) (exponent : Int)
  | infinite (negative : Bool)
  | nan
  deriving DecidableEq, Repr

namespace Binary64

/-! ## Powers -/

/-- A power of two. -/
def twoPow (n : Nat) : Nat := Nat.pow 2 n

/-- A power of ten. -/
def tenPow (n : Nat) : Nat := Nat.pow 10 n

/-! ## Reading -/

/-- The quotient rounded to the nearest whole number, a tie to the even one. -/
def roundHalfEven (num den : Nat) : Nat :=
  let floor := num / den
  let twice := 2 * (num % den)
  if twice < den then floor
  else if den < twice then floor + 1
  else floor + floor % 2

/-- A fraction times a power of two, as numerator and denominator. -/
def scale (num den : Nat) (exponent : Int) : Nat × Nat :=
  if 0 ≤ exponent then (num * twoPow exponent.toNat, den)
  else (num, den * twoPow exponent.natAbs)

/-- The largest power of two that a positive fraction reaches. -/
def floorLog2 (num den : Nat) : Int :=
  let guess : Int := num.log2 - den.log2
  let (n, d) := scale num den (-guess)
  if d ≤ n then guess else guess - 1

/-- The nearest double-precision number to a fraction. -/
def ofFraction (negative : Bool) (num den : Nat) : Binary64 :=
  if num = 0 then finite negative 0 0
  else
    let exponent := max (floorLog2 num den - 52) (-1074)
    let (n, d) := scale num den (-exponent)
    let mantissa := roundHalfEven n d
    let (mantissa, exponent) :=
      if mantissa = twoPow 53 then (twoPow 52, exponent + 1) else (mantissa, exponent)
    if 971 < exponent then infinite negative else finite negative mantissa exponent

/-- The nearest double-precision number to `digits · 10 ^ exponent`. Exponents far out of range are
settled without computing the power. -/
def ofDecimal (negative : Bool) (digits : Nat) (exponent : Int) : Binary64 :=
  let size : Int := (Numeral.decimal digits).length
  if digits = 0 ∨ size + exponent < -400 then finite negative 0 0
  else if 400 < size + exponent then infinite negative
  else if 0 ≤ exponent then ofFraction negative (digits * tenPow exponent.toNat) 1
  else ofFraction negative digits (tenPow exponent.natAbs)

/-! ## Whole numbers -/

/-- The whole number that a number is, if it is one. -/
def toInt? : Binary64 → Option Int
  | finite negative mantissa exponent =>
    let (num, den) := scale mantissa 1 exponent
    if num % den = 0 then
      some (if negative then -Int.ofNat (num / den) else Int.ofNat (num / den))
    else none
  | _ => none

/-! ## Writing -/

/-- The place of the first significant digit of a positive number: `0` for the units. -/
def decimalPlace (mantissa : Nat) (exponent : Int) : Int :=
  let (num, den) := scale (mantissa * tenPow 400) 1 exponent
  ((Numeral.decimal (num / den)).length : Int) - 401

/-- The nearer of the two `count`-digit neighbours of a number that read back as it, with the place
of the last digit. -/
def roundTo? (mantissa : Nat) (exponent : Int) (count : Nat) : Option (Nat × Int) :=
  let place := decimalPlace mantissa exponent - count + 1
  let onGrid (quarters : Nat) : Nat × Nat :=
    let (num, den) := scale quarters 4 exponent
    if 0 ≤ place then (num, den * tenPow place.toNat) else (num * tenPow place.natAbs, den)
  let below := if mantissa = twoPow 52 ∧ -1074 < exponent then 1 else 2
  let (lowNum, den) := onGrid (4 * mantissa - below)
  let (highNum, _) := onGrid (4 * mantissa + 2)
  let (num, _) := onGrid (4 * mantissa)
  let inside (d : Nat) : Bool :=
    if mantissa % 2 = 0 then decide (lowNum ≤ d * den) && decide (d * den ≤ highNum)
    else decide (lowNum < d * den) && decide (d * den < highNum)
  let floor := num / den
  let nearest := roundHalfEven num den
  let other := if nearest = floor then floor + 1 else floor
  if inside nearest then some (nearest, place)
  else if inside other then some (other, place)
  else none

/-- The fewest digits that read back, with the place of the last one. -/
def shortest (mantissa : Nat) (exponent : Int) : Nat × Int :=
  ((List.range 17).findSome? fun n => roundTo? mantissa exponent (n + 1)).getD (mantissa, 0)

/-- The digits of a number without trailing zeros. -/
def significantDigits (n : Nat) : Text :=
  ((Numeral.decimal n).reverse.dropWhile (· == '0')).reverse

/-- Digits with the point after the first `point` of them; positional while the point stays within
four places before the digits and sixteen after their start, with an exponent otherwise. -/
def place (digits : Text) (point : Int) : Text :=
  if point ≤ -4 ∨ 16 < point then
    let exponent := point - 1
    let magnitude := Numeral.decimal exponent.natAbs
    digits.take 1 ++ (if digits.length ≤ 1 then [] else '.' :: digits.drop 1)
      ++ 'e' :: (if exponent < 0 then '-' else '+')
      :: (List.replicate (2 - magnitude.length) '0' ++ magnitude)
  else if point ≤ 0 then
    ['0', '.'] ++ List.replicate point.natAbs '0' ++ digits
  else
    let whole := digits.take point.toNat
    let fraction := digits.drop point.toNat
    whole ++ List.replicate (point.toNat - whole.length) '0' ++ '.' ::
      (if fraction.isEmpty then ['0'] else fraction)

/-- The written form of a number. -/
def render : Binary64 → Text
  | nan => "nan".toList
  | infinite negative => (if negative then "-inf" else "inf").toList
  | finite negative mantissa exponent =>
    let sign : Text := if negative then ['-'] else []
    if mantissa = 0 then sign ++ "0.0".toList
    else
      let (digits, last) := shortest mantissa exponent
      sign ++ place (significantDigits digits) ((Numeral.decimal digits).length + last)

end Binary64

end LineJoin
