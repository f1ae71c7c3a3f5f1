import LineJoin.Url.Host

/-!
# Addresses

An address in its normal form: every part is in ASCII with what it does not keep encoded, the scheme
and the host are in lower case, the port that a scheme has anyway is left out, and a path under a
scheme or a host has no dot segments. The target of an address is its path with its query, as a
request names it; addresses are extended at the end of their target.
-/

namespace LineJoin

/-- An address. A query or a fragment may be there and empty. -/
structure Url where
  scheme : Text := []
  userinfo : Text := []
  host : Text := []
  port : Option Int := none
  path : Text := []
  query : Option Text := none
  fragment : Option Text := none
  deriving DecidableEq, Repr

namespace Url

/-- The text of an address between its scheme and its path. -/
def authority (u : Url) : Text :=
  (if u.userinfo.isEmpty then [] else u.userinfo ++ ['@'])
    ++ (if u.host.contains ':' then '[' :: u.host ++ [']'] else u.host)
    ++ (match u.port with
        | some port => ':' :: Numeral.decimalInt port
        | none => [])

/-- A part that may be missing, after the mark that announces it. -/
def marked (mark : Char) : Option Text → Text
  | some part => mark :: part
  | none => []

/-- The text of an address. -/
def toText (u : Url) : Text :=
  (if u.scheme.isEmpty then [] else u.scheme ++ [':'])
    ++ (if u.authority.isEmpty then [] else '/' :: '/' :: u.authority)
    ++ u.path ++ marked '?' u.query ++ marked '#' u.fragment

/-- The path and the query, as a request names them. -/
def target (u : Url) : Text :=
  (if u.path.isEmpty then ['/'] else u.path) ++ marked '?' u.query

/-- The path that a service sees. -/
def servicePath (u : Url) : Text := decode (if u.path.isEmpty then ['/'] else u.path)

/-- Whether an address says where to connect. -/
def isAbsolute (u : Url) : Bool := !u.scheme.isEmpty && !u.host.isEmpty

/-! ## Paths -/

/-- Segments with slashes between them. -/
def joinSegments : List Text → Text
  | [] => []
  | [segment] => segment
  | segment :: rest => segment ++ '/' :: joinSegments rest

/-- The segments kept, the last first, after one more: a dot is left out, and two dots take the
segment before them away, but never the start of the path. -/
def pushSegment (kept : List Text) (segment : Text) : List Text :=
  if segment = ['.'] then kept
  else if segment = ['.', '.'] then if kept = [[]] then kept else kept.drop 1
  else segment :: kept

/-- A path without dot segments. -/
def dropDots (path : Text) : Text :=
  joinSegments ((splitAt '/' path).foldl pushSegment []).reverse

/-- A path as an address holds it: dot segments stay only where there is neither a scheme nor an
authority. -/
def normalPath (u : Url) (path : Text) : Text :=
  encode .path (if u.scheme.isEmpty && u.authority.isEmpty then path else dropDots path)

/-! ## Targets -/

/-- An address with another target. -/
def withTarget (u : Url) (target : Text) : Url :=
  match Text.splitFirst '?' target with
  | some (path, query) => { u with path := u.normalPath path, query := some (encode .query query) }
  | none => { u with path := u.normalPath target, query := none }

/-- An address whose target ends in a slash. -/
def asBase (u : Url) : Url :=
  if u.target.getLast? = some '/' then u else u.withTarget (u.target ++ ['/'])

/-- The address that a reference stands for under a base: an absolute one by itself, any other at
the end of the base's target. -/
def resolve (base reference : Url) : Url :=
  if reference.isAbsolute then reference
  else base.withTarget (base.target ++ reference.target.dropWhile (· == '/'))

end Url

end LineJoin
