import LineJoin.Command

/-!
# Workspaces

A document with its clipboards, and the commands as actions on both. An action may fail, and what it
changed before it failed stays changed: edits are made one after the other, and nothing takes them
back.
-/

namespace LineJoin

/-- A document with its clipboards. -/
structure Workspace where
  document : Document
  clipboards : Clipboards := {}
  deriving DecidableEq, Repr

/-- An action on a workspace, which keeps the changes made before a failure. -/
abbrev Action := EStateM Error Workspace

namespace Action

/-- The value of a computation that changes nothing. -/
def ofResult {α : Type} : Except Error α → Action α
  | .ok a => pure a
  | .error e => throw e

/-- Replace the lines of the document from `start` to `stop` by one. -/
def replaceLines (start stop : Int) (line : Text) : Action Unit := do
  let edited ← ofResult ((← get).document.replaceLines start stop line)
  modify fun w => { w with document := edited }

/-- Write a text to a clipboard. -/
def write (target : Outlet) (t : Text) : Action Unit := do
  let written ← ofResult ((← get).clipboards.write target t)
  modify fun w => { w with clipboards := written }

/-- Join the selections in place. All lines are joined before the first edit, and the edits are made
from the bottom up. -/
def join (R : RuleSet) (selections : List Selection) : Action Report := do
  let document := (← get).document
  let ⟨accepted, skipped⟩ := partition document selections
  let joined ← ofResult (joinedLines R document accepted)
  (accepted.zip joined).reverse.forM fun (s, line) => replaceLines s.start s.last line
  return ⟨joined, skipped⟩

/-- Join the selections onto a clipboard, with the document's line break between the results. -/
def joinToClipboard (R : RuleSet) (selections : List Selection) (target : Option Outlet) :
    Action Report := do
  let document := (← get).document
  let ⟨accepted, skipped⟩ := partition document selections
  let joined ← ofResult (joinedLines R document accepted)
  unless joined.isEmpty do
    match target with
    | none => throw .noClipboard
    | some target => write target (document.newline.intercalate joined)
  return ⟨joined, skipped⟩

/-- Run the command with an identifier. -/
def run (id : Text) (R : RuleSet) (selections : List Selection) (target : Option Outlet) :
    Action Report :=
  match Command.ofId? id with
  | none => throw (.unknownCommand id)
  | some .join => join R selections
  | some .joinToClipboard =>
    match target with
    | none => throw (.clipboardNeeded id)
    | some target => joinToClipboard R selections target

end Action

end LineJoin
