import LineJoin.Client
import LineJoin.Command
import LineJoin.Service.Status

/-!
# Log lines

What a run tells about its steps, if the level asks for it: which selections are skipped and why,
in which context each line is joined, what went to a clipboard and which requests were answered.
-/

namespace LineJoin.CommandLine

/-- The weight of a log line. -/
inductive Level
  | debug
  | info
  deriving DecidableEq, Repr

namespace Level

/-- The name of a level. -/
def name : Level → String
  | debug => "DEBUG"
  | info => "INFO"

/-- The weight of a level. -/
def weight : Level → Nat
  | debug => 10
  | info => 20

end Level

/-- A log line: its level, the part of the program that speaks, and what it says. -/
structure Entry where
  level : Level
  speaker : String
  message : Text
  deriving DecidableEq, Repr

/-- The text of a log line. -/
def Entry.line (e : Entry) : Text :=
  e.level.name.toList ++ ' ' :: e.speaker.toList ++ ": ".toList ++ e.message

/-- The least weight that is written under a level name; an unknown name is a warning's. -/
def leastWeight (name : Text) : Nat :=
  let table : List (String × Nat) :=
    [("NOTSET", 0), ("DEBUG", 10), ("INFO", 20), ("WARN", 30), ("WARNING", 30), ("ERROR", 40),
     ("CRITICAL", 50), ("FATAL", 50)]
  (table.lookup (String.ofList name)).getD 30

/-- Something of the log's own that a name stands for, and that is not a level. -/
inductive Misnomer
  /-- The layout of a log line. -/
  | layout
  /-- The table of layouts, which is not even a text. -/
  | layoutTable
  deriving DecidableEq, Repr

/-- What a name stands for that is not a level. -/
def misnomer? (name : Text) : Option Misnomer :=
  if name = "BASIC_FORMAT".toList then some .layout
  else if name = "_STYLES".toList then some .layoutTable
  else none

/-- The words that refuse a layout as a level. -/
def unknownLevel : Text := "Unknown level: '%(levelname)s:%(name)s:%(message)s'".toList

/-- The words for the reason of a skip. -/
def reasonPhrase : SkipReason → String
  | .lastLine => "ends on the last line"
  | .overlap => "overlaps another selection"

/-- What is said about the selections that are skipped. -/
def skipEntries (d : Document) (selections : List Selection) : List Entry :=
  (verdicts d selections).filterMap fun (s, reason) =>
    reason.map fun reason => {
      level := .info
      speaker := "context_join.adapters.commands"
      message := "Skipping selection ".toList ++ s.render ++ ": ".toList
        ++ (reasonPhrase reason).toList }

/-- What is said about the joins of some lines. -/
def joinEntries (R : RuleSet) : List Text → List Entry
  | [] => []
  | line :: lines =>
    (R.joinContexts line lines).map fun context => {
      level := .debug
      speaker := "context_join.core.joiner"
      message := "Joining at ".toList ++ context.render ++ " (rule set ".toList ++ R.name
        ++ ")".toList }

/-- What is said when the selections of a document are joined. -/
def commandEntries (R : RuleSet) (d : Document) (selections : List Selection) : List Entry :=
  skipEntries d selections ++ (partition d selections).accepted.flatMap fun s =>
    match d.linesFor s with
    | .ok lines => joinEntries R lines
    | .error _ => []

/-- What is said when joined selections went to a clipboard. -/
def clipboardEntry (count : Nat) (target : Clipboard) : Entry where
  level := .info
  speaker := "context_join.adapters.commands"
  message := "Wrote ".toList ++ Numeral.decimal count ++ " joined selection(s) to ".toList
    ++ target.name.toList ++ " clipboard".toList

/-- What is said when the service starts. -/
def serveEntry (host : Text) (port : Int) : Entry where
  level := .info
  speaker := "context_join.server.app"
  message := "Starting context-join API on ".toList ++ host ++ ':' :: Numeral.decimalInt port

/-- What is said about a request that was answered. -/
def requestEntry? (sent : Sent) : Option Entry :=
  match sent.status with
  | some status =>
    if Client.namesScheme sent.url then
      some {
        level := .info
        speaker := "httpx"
        message := "HTTP Request: ".toList ++ sent.method.toList ++ ' ' :: sent.url
          ++ ' ' :: Text.quotationMark :: "HTTP/1.1 ".toList ++ Numeral.decimal status
          ++ ' ' :: (Service.statusPhrase status).toList ++ [Text.quotationMark] }
    else none
  | none => none

end LineJoin.CommandLine
