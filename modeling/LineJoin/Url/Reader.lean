import LineJoin.Url.Basic

/-!
# Reading addresses

An address is a scheme with a colon, an authority after two slashes, a path, a query after a question
mark and a fragment after a number sign; all but the path may be missing. The authority is what
stands before its last at sign, a host, and a port after a colon.
-/

namespace LineJoin.Url

/-- The longest text that is read as an address. -/
def maxLength : Nat := 65536

/-- A control character of ASCII, with its position, if a text holds one. -/
def control? (t : Text) : Option Fault :=
  (t.zipIdx.find? fun (c, _) => decide (c.toNat < 0x20) || c.toNat == 0x7F).map
    fun (c, position) => .control c position

/-! ## Parts -/

/-- A character that may stand in a scheme. -/
def isSchemeChar (c : Char) : Bool := c.isAlphanum || "+.-".toList.contains c

/-- The scheme and the text after its colon. -/
def takeScheme (t : Text) : Text × Text :=
  let scheme := t.takeWhile isSchemeChar
  match t.dropWhile isSchemeChar, scheme.head? with
  | ':' :: rest, none => ([], rest)
  | ':' :: rest, some c => if c.isAlpha then (scheme, rest) else ([], t)
  | _, _ => ([], t)

/-- The authority and the text after it. -/
def takeAuthority : Text → Text × Text
  | '/' :: '/' :: rest =>
    let ends (c : Char) : Bool := c == '/' || c == '?' || c == '#'
    (rest.takeWhile (!ends ·), rest.dropWhile (!ends ·))
  | t => ([], t)

/-- The text before a mark, and the text after it if the mark is there. -/
def splitMarked (mark : Char) (t : Text) : Text × Option Text :=
  match Text.splitFirst mark t with
  | some (before, after) => (before, some after)
  | none => (t, none)

/-- The text before the last occurrence of a character, and the text after it. -/
def splitLast (sep : Char) (t : Text) : Option (Text × Text) :=
  (Text.splitFirst sep t.reverse).map fun (after, before) => (before.reverse, after.reverse)

/-- The host and what follows it. A host in brackets ends at the last closing one. -/
def takeHost (t : Text) : Text × Text :=
  match t.head?, splitLast ']' t with
  | some '[', some (inside, rest) => (inside ++ [']'], rest)
  | _, _ => (t.takeWhile (· != ':'), t.dropWhile (· != ':'))

/-- The port that a scheme has anyway. -/
def defaultPort? (scheme : Text) : Option Int :=
  let table : List (String × Int) :=
    [("ftp", 21), ("http", 80), ("https", 443), ("ws", 80), ("wss", 443)]
  table.lookup (String.ofList scheme)

/-- A port that a scheme does not have anyway. -/
def readPort (scheme t : Text) : Except Fault (Option Int) :=
  let digits := match t with
    | ':' :: digits => digits
    | digits => digits
  if digits.isEmpty then .ok none
  else
    match Numeral.read? digits with
    | none => .error (.badPort digits)
    | some port => .ok (if some port = defaultPort? scheme then none else some port)

/-- An address with an authority. -/
def withAuthority (u : Url) (t : Text) : Except Fault Url := do
  let (userinfo, rest) := (splitLast '@' t).getD ([], t)
  let (name, rest) := takeHost rest
  return { u with
    userinfo := encode .userinfo userinfo
    host := ← readHost name
    port := ← readPort u.scheme rest }

/-- What a path may not be where there is neither a scheme nor an authority. -/
def pathFault? (u : Url) (path : Text) : Option Fault :=
  if u.scheme.isEmpty && u.authority.isEmpty then
    match path with
    | '/' :: '/' :: _ => some .doubleSlash
    | ':' :: _ => some .leadingColon
    | _ => none
  else none

/-! ## The whole address -/

/-- An address with a path, a query and a fragment. -/
def withRest (u : Url) (t : Text) : Except Fault Url :=
  let (rest, fragment) := splitMarked '#' t
  let (path, query) := splitMarked '?' rest
  match pathFault? u path with
  | some fault => .error fault
  | none =>
    .ok { u with
      path := u.normalPath path
      query := query.map (encode .query)
      fragment := fragment.map (encode .fragment) }

/-- The address that a text writes. -/
def read (t : Text) : Except Fault Url :=
  if maxLength < t.length then .error .tooLong
  else
    match control? t with
    | some fault => .error fault
    | none => do
      let (scheme, rest) := takeScheme t
      let (authority, rest) := takeAuthority rest
      let u ← withAuthority { scheme := Text.lower scheme } authority
      withRest u rest

end LineJoin.Url
