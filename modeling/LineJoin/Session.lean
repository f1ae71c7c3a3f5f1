import LineJoin.RuleSet.Choice
import LineJoin.Workspace

/-!
# Sessions

A run of steps over one workspace. Each step asks something or changes something, and may fail; the
steps after it go on from what it left behind. A step that writes to a clipboard says which one, and
whether it refuses at that time.
-/

namespace LineJoin

/-- The bounds of a selection as they are given, before they are checked. -/
abbrev Span := Int × Int

/-- One step of a session. -/
inductive Step
  | lineAt (index : Int)
  | replaceLines (start stop : Int) (line : Text)
  | linesFor (span : Span)
  | endsOnLastLine (span : Span)
  | join (spans : List Span) (choice : RuleSet.Choice)
  | joinToClipboard (spans : List Span) (target : Option Outlet) (choice : RuleSet.Choice)
  | run (id : Text) (spans : List Span) (target : Option Outlet) (choice : RuleSet.Choice)

/-- What a step answers. -/
inductive Answer
  | done
  | line (line : Text)
  | lines (lines : List Text)
  | flag (value : Bool)
  | report (report : Report)

/-- The selection with the given bounds. -/
def Span.selection (span : Span) : Except Error Selection := Selection.ofLines span.1 span.2

open LineJoin.Action in
/-- Carry out a command. Its selections are checked before its rules are chosen. -/
def carryOut (spans : List Span) (choice : RuleSet.Choice)
    (command : RuleSet → List Selection → Action Report) : Action Answer := do
  let selections ← ofResult (spans.mapM Span.selection)
  let R ← ofResult choice.ruleSet
  return .report (← command R selections)

open LineJoin.Action in
/-- What a step does. -/
def Step.perform : Step → Action Answer
  | lineAt index => do return .line (← ofResult ((← get).document.lineAt index))
  | replaceLines start stop line => do
    Action.replaceLines start stop line
    return .done
  | linesFor span => do
    let s ← ofResult span.selection
    return .lines (← ofResult ((← get).document.linesFor s))
  | endsOnLastLine span => do
    let s ← ofResult span.selection
    return .flag ((← get).document.endsOnLastLine s)
  | join spans choice => carryOut spans choice Action.join
  | joinToClipboard spans target choice =>
    carryOut spans choice fun R selections => Action.joinToClipboard R selections target
  | run id spans target choice =>
    carryOut spans choice fun R selections => Action.run id R selections target

/-- The workspace after a step, whether it fails or not. -/
def Step.after (step : Step) (w : Workspace) : Workspace :=
  match step.perform w with
  | .ok _ w => w
  | .error _ w => w

/-- The answer to a step. -/
def Step.answer (step : Step) (w : Workspace) : Except Error Answer :=
  match step.perform w with
  | .ok answer _ => .ok answer
  | .error e _ => .error e

/-- Each step's answer, with the workspace after it. -/
def runSteps (w : Workspace) : List Step → List (Except Error Answer × Workspace)
  | [] => []
  | step :: steps => (step.answer w, step.after w) :: runSteps (step.after w) steps

end LineJoin
