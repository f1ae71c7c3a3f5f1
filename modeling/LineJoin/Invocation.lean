import LineJoin.Join
import LineJoin.RuleSet.Choice

/-!
# Joining by rules or by language

The two ways to say which rules a join follows are alternatives: giving both is an error. That there
is something to join is checked before the rules are.
-/

namespace LineJoin

/-- The rule set of an invocation, from a rule set or a language but not both. -/
def resolveRules (rules : Option RuleSet) (language : Option Text) : Except Error RuleSet :=
  match rules, language with
  | some _, some _ => .error .rulesAndLanguage
  | some R, none => .ok R
  | none, language => RuleSet.ofLanguage language

/-- A line joined onto a text. -/
def joinPair (first second : Text) (rules : Option RuleSet) (language : Option Text) :
    Except Error Text := do
  (← resolveRules rules language).joinPair first second

/-- Lines joined into one. -/
def joinAll (lines : List Text) (rules : Option RuleSet) (language : Option Text) :
    Except Error Text :=
  if lines.isEmpty then .error .noLines
  else do (← resolveRules rules language).joinAll lines

end LineJoin
