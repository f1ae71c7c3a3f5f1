import LineJoin.Error
import LineJoin.Text.LetterCase

/-!
# Choosing a rule set

By language name, or by declaring the markers. A name may be a tag or an alias in any letter case,
with blanks around it; no name at all means the default rule set, and an unknown name is an error,
never a silent default. A declaration is checked and its line markers are put in order.
-/

namespace LineJoin

namespace RuleSet

/-- Markers with longer ones before shorter ones, and those of one length in their given order. -/
def longestFirst (markers : List Text) : List Text :=
  markers.mergeSort fun a b => decide (b.length ≤ a.length)

/-- Ordering by length leaves no marker before a longer one. -/
theorem longestFirst_pairwise (markers : List Text) :
    (longestFirst markers).Pairwise (fun a b => b.length ≤ a.length) := by
  have sorted := @List.pairwise_mergeSort Text (fun a b => decide (b.length ≤ a.length))
    (fun a b c hab hbc => by simp only [decide_eq_true_eq] at *; omega)
    (fun a b => by simp only [Bool.or_eq_true, decide_eq_true_eq]; omega) markers
  exact sorted.imp fun h => by simpa using h

/-- The tag that a language name stands for, which may not be registered. -/
def tagOf (language : Text) : Text :=
  let tag := Text.lower (Text.trim language)
  (aliases.lookup tag).getD tag

/-- The rule set of a language name. -/
def ofLanguage : Option Text → Except Error RuleSet
  | none | some [] => .ok fallback
  | some language =>
    match ofTag? (tagOf language) with
    | some R => .ok R
    | none => .error (.unknownLanguage language)

/-- A rule set as it is declared, before the delimiters are checked and the markers ordered. -/
structure Declaration where
  name : Text := "custom".toList
  lineMarkers : List Text := [['/', '/', '/'], ['/', '/']]
  block : Option (Text × Text) := some (['/', '*'], ['*', '/'])
  delimiters : List Text := [[Quote.single.char], [Quote.double.char], [Quote.grave.char]]
  escape : Text := ['\\']
  continuation : Option Continuation := some .star
  lineContinuation : Option Text := none
  openingBrackets : Text := ['(', '[', '{']
  closingPunctuation : Text := [')', ']', '}', ',', ';']

/-- The quote that a declared delimiter stands for. -/
def Declaration.quote (d : Declaration) (delimiter : Text) : Except Error Quote :=
  match Quote.ofText? delimiter with
  | some q => .ok q
  | none => .error (.unsupportedDelimiter delimiter d.name)

/-- The rule set that a declaration describes. -/
def Declaration.ruleSet (d : Declaration) : Except Error RuleSet := do
  let quotes ← d.delimiters.mapM d.quote
  return {
    name := d.name
    lineMarkers := longestFirst d.lineMarkers
    block := d.block
    quotes := quotes
    escape := d.escape
    continuation := d.continuation
    lineContinuation := d.lineContinuation
    openingBrackets := d.openingBrackets
    closingPunctuation := d.closingPunctuation
    longest_first := longestFirst_pairwise d.lineMarkers }

/-- Rules given by themselves: by tag, or declared. -/
inductive Given
  | tag (tag : Text)
  | declared (declaration : Declaration)

/-- The rule set that was given. -/
def Given.ruleSet : Given → Except Error RuleSet
  | tag t =>
    match ofTag? t with
    | some R => .ok R
    | none => .error (.unregisteredTag t)
  | declared d => d.ruleSet

/-- How one invocation chooses its rules: given rules come before a language name. -/
structure Choice where
  rules : Option Given := none
  language : Option Text := none

/-- The chosen rule set. -/
def Choice.ruleSet (choice : Choice) : Except Error RuleSet :=
  match choice.rules with
  | some given => given.ruleSet
  | none => ofLanguage choice.language

end RuleSet

end LineJoin
