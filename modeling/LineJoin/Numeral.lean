import LineJoin.Text.Blank
import LineJoin.Text.DecimalDigit

/-!
# Numerals

Whole numbers as people write them: decimal digits of any script, single underscores between
digits, an optional sign, white space around. Numbers are written back in plain decimal, and what
is written reads back as the same number as long as it stays within the length that is read.
-/

namespace LineJoin.Numeral

open Text

/-- The longest run of digits that is read as a number. -/
def maxDigits : Nat := 4300

/-- The values of a run of digits in which a single underscore may stand between two digits. -/
def digits? : Text → Option (List Nat)
  | [] => none
  | c :: rest =>
    match digitValue? c with
    | none => none
    | some d =>
      match rest with
      | [] => some [d]
      | '_' :: more => (digits? more).map (d :: ·)
      | more@(_ :: _) => (digits? more).map (d :: ·)

/-- The number that a run of digit values stands for, the most significant first. -/
def ofDigits (ds : List Nat) : Nat := ds.foldl (fun n d => 10 * n + d) 0

/-- A number without a sign. -/
def magnitude? (t : Text) : Option Nat :=
  match digits? t with
  | some ds => if ds.length ≤ maxDigits then some (ofDigits ds) else none
  | none => none

/-- A number with an optional sign and white space around it. -/
def read? (t : Text) : Option Int :=
  match trimSpace t with
  | '+' :: rest => (magnitude? rest).map Int.ofNat
  | '-' :: rest => (magnitude? rest).map fun n => -Int.ofNat n
  | rest => (magnitude? rest).map Int.ofNat

/-- A number in decimal. -/
def decimal (n : Nat) : Text :=
  if n < 10 then [digitChar n] else decimal (n / 10) ++ [digitChar (n % 10)]
termination_by n
decreasing_by omega

/-- A signed number in decimal. -/
def decimalInt (i : Int) : Text :=
  if i < 0 then '-' :: decimal i.natAbs else decimal i.natAbs

end LineJoin.Numeral
