import LineJoin.Clipboard
import LineJoin.Document
import LineJoin.Join

/-!
# Commands

Joining the selections of a document, in place or onto a clipboard. A selection that ends on the
last line has nothing to join, and one that shares a line with a selection accepted before it would
join that line twice; both are skipped and reported. Edits in place run from the bottom up, so that
the line numbers above an edit stay right.
-/

namespace LineJoin

/-! ## Which selections are joined -/

/-- Why a selection is skipped. -/
inductive SkipReason
  | lastLine
  | overlap
  deriving DecidableEq, Repr

/-- Why a selection is skipped when those in `claimed` were accepted, if it is. -/
def skipReason? (d : Document) (claimed : List Selection) (s : Selection) : Option SkipReason :=
  if d.endsOnLastLine s then some .lastLine
  else if claimed.any s.overlaps then some .overlap
  else none

/-- Selections with what becomes of each: those from the first on, when the selections in `claimed`
were accepted before them. -/
def judge (d : Document) (claimed : List Selection) :
    List Selection → List (Selection × Option SkipReason)
  | [] => []
  | s :: rest =>
    match skipReason? d claimed s with
    | some reason => (s, some reason) :: judge d claimed rest
    | none => (s, none) :: judge d (claimed ++ [s]) rest

/-- Selections in document order. -/
def inDocumentOrder (selections : List Selection) : List Selection :=
  selections.mergeSort Selection.le

/-- What becomes of each selection, in document order. -/
def verdicts (d : Document) (selections : List Selection) :
    List (Selection × Option SkipReason) :=
  judge d [] (inDocumentOrder selections)

/-- The selections that are joined and those that are skipped, both in document order. -/
structure Partition where
  accepted : List Selection
  skipped : List Selection
  deriving DecidableEq, Repr

/-- The partition of selections for a document. -/
def partition (d : Document) (selections : List Selection) : Partition where
  accepted := ((verdicts d selections).filter (·.2.isNone)).map (·.1)
  skipped := ((verdicts d selections).filter (·.2.isSome)).map (·.1)

/-! ## The two commands -/

/-- What a command did: the joined lines and the selections it skipped, in document order. -/
structure Report where
  joined : List Text
  skipped : List Selection
  deriving DecidableEq, Repr

/-- The lines of each selection, joined. -/
def joinedLines (R : RuleSet) (d : Document) (accepted : List Selection) :
    Except Error (List Text) :=
  accepted.mapM fun s => do R.joinAll (← d.linesFor s)

/-- A document in which each selection's lines are replaced by the line beside it, the last
selection first. -/
def replaceAll (d : Document) (edits : List (Selection × Text)) : Except Error Document :=
  edits.foldrM (fun (s, line) d => d.replaceLines s.start s.last line) d

/-- Join the selections in place. -/
def joinLines (R : RuleSet) (d : Document) (selections : List Selection) :
    Except Error (Document × Report) := do
  let ⟨accepted, skipped⟩ := partition d selections
  let joined ← joinedLines R d accepted
  let edited ← replaceAll d (accepted.zip joined)
  return (edited, ⟨joined, skipped⟩)

/-- Join the selections onto a clipboard, with the document's line break between the results. The
document stays as it is, and nothing is written if every selection was skipped. -/
def joinToClipboard (R : RuleSet) (d : Document) (selections : List Selection)
    (target : Option Outlet) (clipboards : Clipboards) :
    Except Error (Clipboards × Report) := do
  let ⟨accepted, skipped⟩ := partition d selections
  let joined ← joinedLines R d accepted
  if joined.isEmpty then return (clipboards, ⟨joined, skipped⟩)
  match target with
  | none => .error .noClipboard
  | some target =>
    let written ← clipboards.write target (d.newline.intercalate joined)
    return (written, ⟨joined, skipped⟩)

/-! ## Commands by identifier -/

/-- The commands that an editor can register. -/
inductive Command
  | join
  | joinToClipboard
  deriving DecidableEq, Repr

namespace Command

/-- Every command. -/
def all : List Command := [join, joinToClipboard]

/-- The identifier of a command. -/
def id : Command → String
  | join => "context-join.join"
  | joinToClipboard => "context-join.joinToClipboard"

/-- The command with an identifier. -/
def ofId? (id : Text) : Option Command := all.find? (·.id.toList == id)

end Command

end LineJoin
