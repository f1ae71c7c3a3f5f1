import LineJoin.Context
import LineJoin.Error

/-!
# Joining lines

How two lines meet depends on what the first leaves open. In code they are parted by one space, but
not after an opening bracket or before closing punctuation; in a comment the second line loses its
own marker first; in a literal nothing is touched. Several lines are joined from the left, so that
each one meets everything before it.
-/

namespace LineJoin

namespace RuleSet

/-- Two texts with one space between them, or none if one of them is empty. -/
def spaced (left right : Text) : Text :=
  if left.isEmpty || right.isEmpty then left ++ right else left ++ ' ' :: right

/-- A code line without trailing blanks and without the marker that continues it. -/
def codeLeft (R : RuleSet) (accumulated : Text) : Text :=
  let left := Text.trimEnd accumulated
  match R.lineContinuation with
  | none | some [] => left
  | some marker =>
    match marker.isSuffixOf? left with
    | some before => Text.trimEnd before
    | none => left

/-- Whether two code texts touch: an opening bracket on the left or closing punctuation on the
right. -/
def touches (R : RuleSet) (left right : Text) : Bool :=
  left.getLast?.any (R.openingBrackets.contains ·)
    || right.head?.any (R.closingPunctuation.contains ·)

/-- Code meets code. -/
def joinCode (R : RuleSet) (accumulated line : Text) : Text :=
  let left := R.codeLeft accumulated
  let right := Text.trimStart line
  if R.touches left right then left ++ right else spaced left right

/-- A line without leading blanks, without one line-comment marker and the blanks after it. -/
def lineCommentRight (R : RuleSet) (line : Text) : Text :=
  let right := Text.trimStart line
  match R.stripLineMarker? right with
  | some body => Text.trimStart body
  | none => right

/-- A line continues a line comment. -/
def joinLineComment (R : RuleSet) (accumulated line : Text) : Text :=
  spaced (Text.trimEnd accumulated) (R.lineCommentRight line)

/-- A line without leading blanks and without the decoration of an inner comment line. -/
def blockCommentRight (R : RuleSet) (line : Text) : Text :=
  let right := Text.trimStart line
  match R.continuation with
  | some decoration => (decoration.strip? right).getD right
  | none => right

/-- A line continues a block comment. -/
def joinBlockComment (R : RuleSet) (accumulated line : Text) : Text :=
  spaced (Text.trimEnd accumulated) (R.blockCommentRight line)

/-- A line joined onto a text that ends in the given region. -/
def joinIn (R : RuleSet) : Region → (accumulated line : Text) → Text
  | .code => R.joinCode
  | .lineComment => R.joinLineComment
  | .blockComment => R.joinBlockComment
  | .literal => (· ++ ·)

/-- A line joined onto a text, in the context that the text leaves open. -/
def joinPair (R : RuleSet) (accumulated line : Text) : Except Error Text :=
  match R.classify accumulated with
  | some context => .ok (R.joinIn context.region accumulated line)
  | none => .error .endlessScan

/-- Lines joined into one, from the left. -/
def joinAll (R : RuleSet) : List Text → Except Error Text
  | [] => .error .noLines
  | line :: lines => lines.foldlM R.joinPair line

/-- The contexts in which the lines after the first are joined, as far as the scans end. -/
def joinContexts (R : RuleSet) (accumulated : Text) : List Text → List Context
  | [] => []
  | line :: lines =>
    match R.classify accumulated with
    | none => []
    | some context =>
      context :: R.joinContexts (R.joinIn context.region accumulated line) lines

end RuleSet

end LineJoin
