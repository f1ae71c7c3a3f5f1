import LineJoin.Text.Blank
import LineJoin.Text.Quoted

/-!
# Rule sets

The marker vocabulary of one language: what starts a comment, what opens and closes a literal, what
escapes inside it, and which characters take no space beside them when two lines meet. Line-comment
markers are kept longest first, so the first one that a text starts with is the longest one.
-/

namespace LineJoin

/-- A character that opens a literal and closes it again. -/
inductive Quote
  | single
  | double
  | grave
  deriving DecidableEq, Repr

namespace Quote

/-- The character itself. -/
def char : Quote → Char
  | single => Text.apostrophe
  | double => Text.quotationMark
  | grave => Text.graveAccent

/-- The quote that a text spells. -/
def ofText? (t : Text) : Option Quote :=
  [single, double, grave].find? fun q => t = [q.char]

end Quote

/-- The decoration that starts the inner lines of a block comment. -/
inductive Continuation
  /-- A star followed by blanks or the end of the line. -/
  | star
  /-- A vertical bar, with or without blanks after it. -/
  | bar
  deriving DecidableEq, Repr

namespace Continuation

/-- What follows the decoration and its blanks, when a text starts with it. -/
def strip? : Continuation → Text → Option Text
  | star, '*' :: rest =>
    match rest with
    | [] => some []
    | c :: _ => if Text.isBlank c then some (rest.dropWhile Text.isBlank) else none
  | bar, '|' :: rest => some (rest.dropWhile Text.isBlank)
  | _, _ => none

end Continuation

/-- The markers of one language. -/
structure RuleSet where
  /-- The tag of the rule set. -/
  name : Text
  /-- Markers that make the rest of a line a comment. -/
  lineMarkers : List Text := [['/', '/', '/'], ['/', '/']]
  /-- The marker that opens a block comment and the one that closes it. -/
  block : Option (Text × Text) := some (['/', '*'], ['*', '/'])
  /-- The quotes of literals. -/
  quotes : List Quote := [.single, .double, .grave]
  /-- Inside a literal this takes the character after it out of play; empty means no escapes. -/
  escape : Text := ['\\']
  /-- The decoration dropped from the inner lines of a block comment. -/
  continuation : Option Continuation := some .star
  /-- A marker at the end of a code line that continues it, dropped when the lines meet. -/
  lineContinuation : Option Text := none
  /-- No space is put after these characters. -/
  openingBrackets : Text := ['(', '[', '{']
  /-- No space is put before these characters. -/
  closingPunctuation : Text := [')', ']', '}', ',', ';']
  /-- Line markers never grow along the list. -/
  longest_first : lineMarkers.Pairwise (fun a b => b.length ≤ a.length) := by decide

namespace RuleSet

/-- What follows the first line marker in the list that a text starts with. -/
def stripLineMarker? (R : RuleSet) (t : Text) : Option Text :=
  R.lineMarkers.findSome? (·.isPrefixOf? t)

end RuleSet

end LineJoin
