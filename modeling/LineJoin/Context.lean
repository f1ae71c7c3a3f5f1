import LineJoin.Scan.Scanner

/-!
# Context

What a text leaves open at its end. A comment or a literal that is not closed is reported as open,
never as an error; a text without an answer is one whose scan never ends.
-/

namespace LineJoin

/-- The kinds of region in which a text can end. -/
inductive Region
  | code
  | lineComment
  | blockComment
  | literal
  deriving DecidableEq, Repr

/-- The region open at the end of a text, and for a literal the delimiter that opened it. -/
structure Context where
  region : Region
  delimiter : Option Text := none
  deriving DecidableEq, Repr

/-- The name of a region in answers. -/
def Region.name : Region → String
  | code => "code"
  | lineComment => "line_comment"
  | blockComment => "block_comment"
  | literal => "string_literal"

namespace Context

/-- The written form of a context: a literal is followed by its delimiter in parentheses. -/
def render (c : Context) : Text :=
  match c.region with
  | .literal =>
    c.region.name.toList ++ "(".toList ++ c.delimiter.getD "None".toList ++ ")".toList
  | _ => c.region.name.toList

/-- The context of a state, where `delimiter` is the text of the last quote. -/
def ofState (s : Scan.State) (delimiter : Option Text) : Context :=
  match s with
  | .code => ⟨.code, none⟩
  | .lineComment => ⟨.lineComment, none⟩
  | .blockComment => ⟨.blockComment, none⟩
  | .literal _ => ⟨.literal, delimiter⟩

/-- The context after a list of tokens that starts in code. -/
def ofTokens (tokens : List Scan.Token) : Context :=
  ofState ((tokens.getLast?.map (·.state)).getD .code)
    ((tokens.filter (·.kind.isQuote)).getLast?.map (·.lexeme))

end Context

/-- The context that a text leaves open. -/
def RuleSet.classify (R : RuleSet) (t : Text) : Option Context :=
  (R.tokenize t).map Context.ofTokens

end LineJoin
