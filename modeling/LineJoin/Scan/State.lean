import LineJoin.RuleSet.Basic

/-!
# The scanning automaton

Six states and eight kinds of token, and the state that each kind leads to from each state. A line
comment is left by nothing, a block comment by its closing marker alone, and a literal only by the
quote that opened it.
-/

namespace LineJoin.Scan

/-- What is open at a point of a text. -/
inductive State
  | code
  | lineComment
  | blockComment
  | literal (quote : Quote)
  deriving DecidableEq, Repr

/-- What a piece of a text is to the automaton. -/
inductive TokenKind
  | lineComment
  | blockOpen
  | blockClose
  | quote (quote : Quote)
  | escape
  | other
  deriving DecidableEq, Repr

namespace State

/-- Every state. -/
def all : List State :=
  [code, lineComment, blockComment, literal .single, literal .double, literal .grave]

/-- The state after a token. -/
def next : State → TokenKind → State
  | code, .lineComment => lineComment
  | code, .blockOpen => blockComment
  | code, .quote q => literal q
  | blockComment, .blockClose => code
  | literal q, .quote q' => if q' = q then code else literal q
  | s, _ => s

/-- Whether the escape marker counts: inside literals only. -/
def escapes : State → Bool
  | literal _ => true
  | _ => false

/-- Whether a token of this kind would change the state. -/
def reactsTo (s : State) (kind : TokenKind) : Bool := s.next kind != s

/-- The name of a state in a trace. -/
def name : State → String
  | code => "code"
  | lineComment => "in_line_comment"
  | blockComment => "in_block_comment"
  | literal .single => "in_single_quote"
  | literal .double => "in_double_quote"
  | literal .grave => "in_template_literal"

end State

namespace TokenKind

/-- Every kind of token. -/
def all : List TokenKind :=
  [lineComment, blockOpen, blockClose, quote .single, quote .double, quote .grave, escape, other]

/-- Whether a token of this kind is a quote. -/
def isQuote : TokenKind → Bool
  | quote _ => true
  | _ => false

/-- The name of a kind in a trace. -/
def name : TokenKind → String
  | lineComment => "line_comment"
  | blockOpen => "block_open"
  | blockClose => "block_close"
  | quote .single => "single_quote"
  | quote .double => "double_quote"
  | quote .grave => "backtick"
  | escape => "escape"
  | other => "other"

end TokenKind

end LineJoin.Scan
