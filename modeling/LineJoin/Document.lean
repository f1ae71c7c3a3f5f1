import LineJoin.Selection

/-!
# Documents

Lines without their terminators, the terminator that writing puts back, and whether the last line
has one. Reading takes both styles of line break and remembers the more frequent one.
-/

namespace LineJoin

/-- A text as lines. -/
structure Document where
  lines : List Text := []
  newline : Text := ['\n']
  trailingNewline : Bool := false
  deriving DecidableEq, Repr

namespace Document

/-- The pieces of a text between its line breaks: a line feed, with or without a carriage return
before it. -/
def pieces : Text → List Text
  | [] => [[]]
  | '\r' :: '\n' :: rest => [] :: pieces rest
  | '\n' :: rest => [] :: pieces rest
  | c :: rest =>
    match pieces rest with
    | [] => [[c]]
    | piece :: more => (c :: piece) :: more

/-- How many line feeds have a carriage return before them, and how many have none. -/
def breakCounts : Text → Nat × Nat
  | [] => (0, 0)
  | '\r' :: '\n' :: rest => ((breakCounts rest).1 + 1, (breakCounts rest).2)
  | '\n' :: rest => ((breakCounts rest).1, (breakCounts rest).2 + 1)
  | _ :: rest => breakCounts rest

/-- The more frequent line break of a text; a line feed if neither is. -/
def newlineOf (t : Text) : Text :=
  if (breakCounts t).2 < (breakCounts t).1 then ['\r', '\n'] else ['\n']

/-- The document that a text holds. A break at the end ends the last line and starts no other. -/
def ofText (t : Text) : Document :=
  let all := pieces t
  if 1 < all.length ∧ all.getLast? = some [] then ⟨all.dropLast, newlineOf t, true⟩
  else ⟨all, newlineOf t, false⟩

/-- The text of a document. -/
def toText (d : Document) : Text :=
  d.newline.intercalate d.lines ++ if d.trailingNewline then d.newline else []

/-- How many lines a document has. -/
def lineCount (d : Document) : Nat := d.lines.length

/-- A line by its number. -/
def lineAt (d : Document) (index : Int) : Except Error Text :=
  match (if index < 0 then none else d.lines[index.toNat]?) with
  | some line => .ok line
  | none => .error (.lineOutside index d.lineCount)

/-- A document with the lines from `start` to `stop` replaced by one. If `stop` is before `start`,
the line is put in before `start` and none is taken out. -/
def replaceLines (d : Document) (start stop : Int) (line : Text) : Except Error Document := do
  let _ ← d.lineAt start
  let _ ← d.lineAt stop
  let first := start.toNat
  return { d with lines := d.lines.take first ++ line :: d.lines.drop (max first (stop.toNat + 1)) }

/-- The lines that a selection joins. -/
def linesFor (d : Document) (s : Selection) : Except Error (List Text) :=
  if s.last < d.lineCount then .ok ((d.lines.drop s.start).take s.size)
  else .error (.lineOutside (max s.start d.lineCount : Nat) d.lineCount)

/-- Whether a selection ends on the last line of a document or past it. -/
def endsOnLastLine (d : Document) (s : Selection) : Bool := decide (d.lineCount ≤ s.stop + 1)

end Document

end LineJoin
