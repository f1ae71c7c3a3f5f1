import LineJoin.Error

/-!
# Selections

An inclusive range of lines, counted from zero. A selection of one line stands for that line and
the next; a longer one for exactly its lines. People write ranges counted from one.
-/

namespace LineJoin

/-- A range of lines, first and last included. -/
structure Selection where
  start : Nat
  stop : Nat
  start_le_stop : start ≤ stop
  deriving DecidableEq, Repr

namespace Selection

/-- The selection of the lines from `start` to `stop`. -/
def ofLines (start stop : Int) : Except Error Selection :=
  if start < 0 ∨ stop < 0 then .error .negativeLine
  else if h : start.toNat ≤ stop.toNat then .ok ⟨start.toNat, stop.toNat, h⟩
  else .error (.endBeforeStart start.toNat stop.toNat)

/-- Whether only one line is selected. -/
def isSingle (s : Selection) : Bool := s.start == s.stop

/-- The last line that is joined: a single line takes the next one with it. -/
def last (s : Selection) : Nat := if s.isSingle then s.start + 1 else s.stop

/-- How many lines are joined. -/
def size (s : Selection) : Nat := s.last + 1 - s.start

/-- Whether the lines to join of two selections have one in common. -/
def overlaps (s t : Selection) : Bool := decide (s.start ≤ t.last) && decide (t.start ≤ s.last)

/-- The order of selections in a document: by first line, then by last. -/
def le (s t : Selection) : Bool :=
  decide (s.start < t.start) || (s.start == t.start && decide (s.stop ≤ t.stop))

/-- The texts on both sides of the first hyphen, or the whole text twice. -/
def bounds (t : Text) : Text × Text := (Text.splitFirst '-' t).getD (t, t)

/-- A range such as `3-5` or `7`, counted from one. -/
def parse (raw : Text) : Except Error Selection :=
  let (first, last) := bounds (Text.trim raw)
  match Numeral.read? first, Numeral.read? last with
  | some start, some stop =>
    if start < 1 ∨ stop < 1 then .error (.rangeBelowOne raw) else ofLines (start - 1) (stop - 1)
  | _, _ => .error (.invalidRange raw)

/-- The range of a selection, counted from one. -/
def range (s : Selection) : Text :=
  Numeral.decimal (s.start + 1) ++ '-' :: Numeral.decimal (s.stop + 1)

/-- The written form of a selection in a log. -/
def render (s : Selection) : Text :=
  "Selection(start_line=".toList ++ Numeral.decimal s.start ++ ", end_line=".toList
    ++ Numeral.decimal s.stop ++ ")".toList

end Selection

end LineJoin
