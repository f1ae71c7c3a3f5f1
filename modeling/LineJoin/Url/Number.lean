import LineJoin.Json.Reader
import LineJoin.Text.Basic

/-!
# Numeric addresses of hosts

Four numbers up to 255 with points between them, or up to eight groups of hexadecimal digits with
colons between them, where one gap of two colons stands for the groups that are missing.
-/

namespace LineJoin.Url

/-- A text cut at every occurrence of a character. -/
def splitAt (sep : Char) : Text → List Text
  | [] => [[]]
  | c :: rest =>
    match splitAt sep rest with
    | [] => [[c]]
    | piece :: pieces => if c = sep then [] :: piece :: pieces else (c :: piece) :: pieces

/-! ## Four numbers -/

/-- Whether a text looks like four numbers: four runs of digits with points between them. -/
def looksQuad (t : Text) : Bool :=
  (splitAt '.' t).length == 4 && (splitAt '.' t).all fun run => !run.isEmpty && run.all Json.isDigit

/-- A number from 0 to 255 without a leading zero. -/
def isOctet (t : Text) : Bool :=
  match Json.wholePart? t with
  | some (whole, []) => decide (whole.length ≤ 3) && decide (Json.natOf whole ≤ 255)
  | _ => false

/-- Four numbers with points between them. -/
def isQuad (t : Text) : Bool :=
  (splitAt '.' t).length == 4 && (splitAt '.' t).all isOctet

/-! ## Groups of hexadecimal digits -/

/-- One to four hexadecimal digits. -/
def isGroup (t : Text) : Bool :=
  !t.isEmpty && decide (t.length ≤ 4) && t.all fun c => (Json.hexValue? c).isSome

/-- The groups of a text. Four numbers at the end count as two groups. -/
def groups? (t : Text) : Option (List Text) :=
  let pieces := splitAt ':' t
  match pieces.getLast? with
  | none => none
  | some last =>
    if pieces.length < 3 then none
    else if last.contains '.' then
      if isQuad last then some (pieces.dropLast ++ [['0'], ['0']]) else none
    else some pieces

/-- The pieces on one side of the gap; an empty one beside the end of the text is no group. -/
def besideGap (pieces : List Text) : List Text := if pieces == [[]] then [] else pieces

/-- Whether pieces between colons make up an address. An empty piece that is not at an end is the
gap, and there is at most one. -/
def areGroups (pieces : List Text) : Bool :=
  if 9 < pieces.length then false
  else
    match ((pieces.drop 1).dropLast).findIdx? (·.isEmpty) with
    | none => pieces.length == 8 && pieces.all isGroup
    | some index =>
      let before := besideGap (pieces.take (index + 1))
      let after := besideGap (pieces.drop (index + 2))
      decide (before.length + after.length ≤ 7) && (before ++ after).all isGroup

/-- Groups of hexadecimal digits with colons between them, and a zone after a percent sign. -/
def isGrouped (t : Text) : Bool :=
  if t.contains '/' then false
  else
    match Text.splitFirst '%' t with
    | none => ((groups? t).map areGroups).getD false
    | some (address, zone) =>
      !zone.isEmpty && !zone.contains '%' && ((groups? address).map areGroups).getD false

end LineJoin.Url
