import LineJoin.Url.Label
import LineJoin.Url.Number
import LineJoin.Url.Percent

/-!
# Hosts

A host is four numbers, groups of hexadecimal digits in brackets, or a name. What looks like one of
the first two has to be one; a name is in lower case and in ASCII.
-/

namespace LineJoin.Url

/-- Why a text is no address. -/
inductive Fault
  | tooLong
  | control (c : Char) (position : Nat)
  | badQuad (host : Text)
  | badGroups (host : Text)
  | badName (host : Text)
  | badPort (port : Text)
  | doubleSlash
  | leadingColon
  deriving DecidableEq, Repr

/-- The words that report why a text is no address. -/
def Fault.message : Fault → Text
  | tooLong => "URL too long".toList
  | control c position =>
    "Invalid non-printable ASCII character in URL, ".toList ++ Text.quoted [c]
      ++ " at position ".toList ++ Numeral.decimal position ++ ['.']
  | badQuad host => "Invalid IPv4 address: ".toList ++ Text.quoted host
  | badGroups host => "Invalid IPv6 address: ".toList ++ Text.quoted host
  | badName host => "Invalid IDNA hostname: ".toList ++ Text.quoted host
  | badPort port => "Invalid port: ".toList ++ Text.quoted port
  | doubleSlash => "Relative URLs cannot have a path starting with '//'".toList
  | leadingColon => "Relative URLs cannot have a path starting with ':'".toList

/-- A text between brackets. -/
def bracketed? : Text → Option Text
  | '[' :: rest => if rest.getLast? = some ']' then some rest.dropLast else none
  | _ => none

/-- A text cut at every point between labels. -/
def labels : Text → List Text
  | [] => [[]]
  | c :: rest =>
    match labels rest with
    | [] => [[c]]
    | piece :: pieces => if isLabelPoint c then [] :: piece :: pieces else (c :: piece) :: pieces

/-- Labels with full stops between them. -/
def joinLabels : List Text → Text
  | [] => []
  | [label] => label
  | label :: rest => label ++ '.' :: joinLabels rest

/-- A name beyond ASCII in ASCII. It may end in a point, and is at most 253 characters long without
it. -/
def name? (t : Text) : Option Text :=
  let pieces := labels (Text.small t)
  let (parts, closing) := if pieces.getLast? = some [] then (pieces.dropLast, ['.']) else (pieces, [])
  match parts.mapM label? with
  | none | some [] => none
  | some written =>
    let name := joinLabels written
    if name.length ≤ 253 then some (name ++ closing) else none

/-- A host as an address holds it: numbers as they are, groups without their brackets, and names in
ASCII. -/
def readHost (t : Text) : Except Fault Text :=
  if t.isEmpty then .ok []
  else if looksQuad t then if isQuad t then .ok t else .error (.badQuad t)
  else
    match bracketed? t with
    | some groups => if isGrouped groups then .ok groups else .error (.badGroups t)
    | none =>
      if t.all isAscii then .ok (encode .host (Text.lower t))
      else
        match name? t with
        | some name => .ok name
        | none => .error (.badName t)

end LineJoin.Url
