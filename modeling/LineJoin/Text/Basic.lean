/-!
# Texts

A text is a list of code points. Lengths, markers and positions all count code points, so every
fact about a text is a fact about a list.
-/

namespace LineJoin

/-- A sequence of code points. -/
abbrev Text := List Char

namespace Text

/-- Whether a number lies in one of a table's ranges, both ends included. -/
def inRanges (ranges : List (Nat × Nat)) (n : Nat) : Bool :=
  ranges.any fun range => decide (range.1 ≤ n) && decide (n ≤ range.2)

/-- Whether a text comes before another, or is the same, in the order of code points. -/
def le : Text → Text → Bool
  | [], _ => true
  | _ :: _, [] => false
  | a :: as, b :: bs => decide (a.toNat < b.toNat) || (a == b && le as bs)

/-- The text before and the text after the first occurrence of a character. -/
def splitFirst (sep : Char) : Text → Option (Text × Text)
  | [] => none
  | c :: rest =>
    if c = sep then some ([], rest)
    else (splitFirst sep rest).map fun (before, after) => (c :: before, after)

end Text

end LineJoin
