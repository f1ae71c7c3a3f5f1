import LineJoin.Scan.State

/-!
# Scanning a text

A scanner looks only for the markers that would change the state it is in, the longest first, and
inside a literal for the escape marker before any other. All else is taken one character at a time.

An empty block-comment marker makes a token without text. Such a token changes the state, so after
two of them in a row the scanner stands where it stood, and goes round for ever. A scan that ends
therefore makes at most two tokens for each character, and `scanFrom` gives up after that many: its
`none` means that the scan never ends.
-/

namespace LineJoin.Scan

/-- A marker and what it is to the automaton. -/
structure Marker where
  text : Text
  kind : TokenKind
  deriving DecidableEq, Repr

/-- A piece of a text, with the state after it. -/
structure Token where
  state : State
  kind : TokenKind
  lexeme : Text
  deriving DecidableEq, Repr

/-- The markers to look for, longest first, and the escape marker. -/
structure Scanner where
  markers : List Marker
  escape : Text

namespace Scanner

/-- The markers that would change a state. -/
def active (sc : Scanner) (s : State) : List Marker := sc.markers.filter (s.reactsTo ·.kind)

/-- Whether the escape marker stands here and counts. -/
def escapesAt (sc : Scanner) (s : State) (rest : Text) : Bool :=
  s.escapes && !sc.escape.isEmpty && sc.escape.isPrefixOf rest

/-- The kind and the text of the token that a text starts with. -/
def piece (sc : Scanner) (s : State) (rest : Text) : TokenKind × Text :=
  if sc.escapesAt s rest then (.escape, rest.take (sc.escape.length + 1))
  else
    match (sc.active s).find? (·.text.isPrefixOf rest) with
    | some marker => (marker.kind, marker.text)
    | none => (.other, rest.take 1)

/-- The token that a text starts with. -/
def token (sc : Scanner) (s : State) (rest : Text) : Token :=
  let (kind, lexeme) := sc.piece s rest
  ⟨s.next kind, kind, lexeme⟩

/-- The tokens of a text, if there are no more than `budget` of them. -/
def scanWithin (sc : Scanner) : (budget : Nat) → State → Text → Option (List Token)
  | _, _, [] => some []
  | 0, _, _ :: _ => none
  | budget + 1, s, c :: cs =>
    let token := sc.token s (c :: cs)
    (sc.scanWithin budget token.state ((c :: cs).drop token.lexeme.length)).map (token :: ·)

/-- The tokens of a text from a state on, or `none` if they never end. -/
def scanFrom (sc : Scanner) (s : State) (t : Text) : Option (List Token) :=
  sc.scanWithin (2 * t.length) s t

end Scanner

end Scan

namespace RuleSet

open Scan

/-- The markers of a rule set. An empty line marker comments out nothing and is left out. -/
def markers (R : RuleSet) : List Marker :=
  (R.lineMarkers.filter (!·.isEmpty)).map (⟨·, .lineComment⟩)
    ++ (match R.block with
        | some (opener, closer) => [⟨opener, .blockOpen⟩, ⟨closer, .blockClose⟩]
        | none => [])
    ++ R.quotes.map fun q => ⟨[q.char], .quote q⟩

/-- The scanner of a rule set. -/
def scanner (R : RuleSet) : Scanner where
  markers := R.markers.mergeSort fun a b => decide (b.text.length ≤ a.text.length)
  escape := R.escape

/-- The tokens of a text, scanned from code on. -/
def tokenize (R : RuleSet) (t : Text) : Option (List Token) := R.scanner.scanFrom .code t

/-- The state after each token of a text. -/
def scanStates (R : RuleSet) (t : Text) : Option (List State) :=
  (R.tokenize t).map (·.map (·.state))

end RuleSet

end LineJoin
