import LineJoin.Command
import LineJoin.Json.Printer
import LineJoin.RuleSet.Choice
import LineJoin.Service.Validation

/-!
# Endpoints

What the service answers to a request whose fields are known. An unknown language is a bad request
whatever else the request says; a selection that ends before it starts cannot be processed; every
other request has its result. The service keeps nothing between requests.
-/

namespace LineJoin.Service

/-- An answer of the service: a status and a body, which may be empty. -/
structure Reply where
  status : Nat
  body : Option Json

namespace Reply

/-- The text of the body. -/
def text (reply : Reply) : Text :=
  match reply.body with
  | some value => value.print
  | none => []

/-- Success with a value. -/
def success (value : Json) : Reply := ⟨200, some value⟩

/-- A failure with its detail. -/
def detail (status : Nat) (value : Json) : Reply := ⟨status, some (.object [("detail", value)])⟩

/-- A failure in words. -/
def failure (status : Nat) (message : Text) : Reply := detail status (.str message)

end Reply

/-- The reply that needs the rules of a language: a bad request if there are none. -/
def withLanguage (language : Option Text) (reply : RuleSet → Reply) : Reply :=
  match RuleSet.ofLanguage language with
  | .ok R => reply R
  | .error e => .failure 400 e.message

/-- The reply of a join: the line and the name of the rules. A failure of the join itself is the
service's own. -/
def joinReply (R : RuleSet) : Except Error Text → Reply
  | .ok result => .success (.object [("result", .str result), ("language", .str R.name)])
  | .error e => .failure 500 e.message

/-- Join lines into one. -/
def join (request : JoinRequest) : Reply :=
  withLanguage request.language fun R => joinReply R (R.joinAll request.lines)

/-- Join two lines. -/
def joinPair (request : PairRequest) : Reply :=
  withLanguage request.language fun R => joinReply R (R.joinPair request.first request.second)

/-- A selection by its first and last line. -/
def selectionJson (s : Selection) : Json :=
  .object [("start_line", .int s.start), ("end_line", .int s.stop)]

/-- An edited document and what was done to it. -/
def documentJson (d : Document) (report : Report) : Json :=
  .object [("text", .str d.toText), ("joined", .texts report.joined),
    ("skipped", .array (report.skipped.map selectionJson))]

/-- The selections of a request, joined in its document. -/
def editDocument (R : RuleSet) (request : DocumentRequest) :
    Except Error (Document × Report) := do
  let selections ← request.selections.mapM fun (start, stop) => Selection.ofLines start stop
  joinLines R (Document.ofText request.text) selections

/-- Join the selections of a document. -/
def joinDocument (request : DocumentRequest) : Reply :=
  withLanguage request.language fun R =>
    match editDocument R request with
    | .ok (d, report) => .success (documentJson d report)
    | .error e => .failure 422 e.message

/-- The names of the states on the way through a text. -/
def traceJson (R : RuleSet) (t : Text) : Json :=
  match R.scanStates t with
  | some states => .texts (states.map (·.name.toList))
  | none => .null

/-- Report the context that a text leaves open. -/
def classify (request : ClassifyRequest) : Reply :=
  withLanguage request.language fun R =>
    match R.classify request.text with
    | some context =>
      .success (.object [("kind", .str context.region.name.toList),
        ("delimiter", .ofText? context.delimiter),
        ("states", if request.trace then traceJson R request.text else .null)])
    | none => .failure 500 Error.endlessScan.message

/-- A registered language: its name, other names and markers. -/
def languageJson (R : RuleSet) : Json :=
  .object [("name", .str R.name),
    ("aliases", .texts (RuleSet.inOrder ((RuleSet.aliases.filter (·.2 == R.name)).map (·.1)))),
    ("line_comment_markers", .texts R.lineMarkers),
    ("block_comment", match R.block with
      | some (opener, closer) => .texts [opener, closer]
      | none => .null),
    ("string_delimiters", .texts (R.quotes.map ([·.char])))]

/-- List the registered languages by name. -/
def languages : Reply :=
  .success (.array ((RuleSet.tags.filterMap RuleSet.ofTag?).map languageJson))

/-- The version of the service. -/
def version : String := "0.1.0"

/-- Say that the service is there. -/
def health : Reply :=
  .success (.object [("status", .str "ok".toList), ("version", .str version.toList)])

end LineJoin.Service
