import LineJoin.CommandLine.World
import LineJoin.Json.Number

/-!
# Runs of the command line

What one run does to the world around it: files, output, clipboards, requests. A run joins the whole
input into one line, or the selected lines of a document in place; here or through the service. A
failure keeps what was done before it. Most failures are reported and end the run with status 1, also
those of a text that cannot be written and of a number that is too long to be reported; a reply of
the service that has the wrong shape is not foreseen, and ends the run by itself.
-/

namespace LineJoin.CommandLine

/-! ## Input -/

/-- A text in which every line break is a line feed. -/
def unifyBreaks : Text → Text
  | [] => []
  | '\r' :: '\n' :: rest => '\n' :: unifyBreaks rest
  | '\r' :: rest => '\n' :: unifyBreaks rest
  | c :: rest => c :: unifyBreaks rest

/-- The path of the input; none means the standard input. -/
def Options.path? (o : Options) : Option Path :=
  match o.file with
  | none => none
  | some t => if t = ['-'] then none else some (Path.ofText t)

/-- The language of a run: the one asked for, else the one of the file's extension, else the one of
the settings. -/
def languageFor (job : Job) (path : Option Path) : Text :=
  match job.options.language with
  | some (c :: cs) => c :: cs
  | _ =>
    let extension := Text.lower ((path.map (·.extension)).getD [])
    if (RuleSet.ofTag? extension).isSome || (RuleSet.aliases.lookup extension).isSome then extension
    else job.settings.language

/-- The service to use, if one is named. -/
def Options.server? (o : Options) : Option Text :=
  match o.server with
  | none | some [] => none
  | some url => some url

/-- The text that bytes encode. -/
def ofBytes (bytes : Text.Bytes) : Run Text :=
  match Text.Utf8.decode bytes with
  | .ok t => pure t
  | .error fault => throw (.undecodable fault)

/-- The text of the input. A file is read as it is; the standard input has line feeds only. -/
def readInput (job : Job) : Option Path → Run Text
  | none => do return unifyBreaks (← ofBytes job.stdin)
  | some file => do ofBytes ((← get).files.content file)

/-- Ask the service that is named. What the service says about the request when it answers it here is
logged before the request itself. -/
def ask (job : Job) (url : Text) (call : Client.Call) (entries : List Entry) : Run Json := do
  let w ← get
  let client : Client :=
    { base := Client.baseOf job.settings (some url)
      transport := w.transport
      depth := job.settings.depth }
  let (opened, client) := client.enter
  ofClient opened
  let (value, client) := client.call call
  modify fun w => { w with transport := client.transport, sent := w.sent ++ client.sent }
  match w.transport, value with
  | .service, .ok _ => log job entries
  | _, _ => pure ()
  log job (client.sent.filterMap requestEntry?)
  ofClient value

/-! ## The whole input as one line -/

/-- Join the whole input into one line and write it. -/
def joinWhole (job : Job) (language t : Text) : Run Unit := do
  let lines := (Document.ofText t).lines
  let R ← ofLibrary (RuleSet.ofLanguage (some language))
  match job.options.server? with
  | some url =>
    let line ← ask job url (.joinLines (.texts lines) (.str language)) (joinEntries R lines)
    output ((← ofText line) ++ ['\n'])
  | none =>
    log job (joinEntries R lines)
    output ((← ofLibrary (R.joinAll lines)) ++ ['\n'])

/-! ## Selected lines -/

/-- The bounds of a skipped selection, counted from zero, as a reply gives them. -/
structure Skipped where
  start : Json
  stop : Json

/-- A skipped selection of a command run here. -/
def Skipped.ofSelection (s : Selection) : Skipped := ⟨.int s.start, .int s.stop⟩

/-- A skipped selection of a reply. -/
def Skipped.ofReply (value : Json) : Run Skipped := do
  let start ← ofClient (Client.fieldOf "start_line" value)
  let stop ← ofClient (Client.fieldOf "end_line" value)
  if ← ofShape (start.less? (.int 0)) then throw (.library .negativeLine)
  if ← ofShape (stop.less? (.int 0)) then throw (.library .negativeLine)
  if ← ofShape (stop.less? start) then throw (.replyOrder start stop)
  return ⟨start, stop⟩

/-- Report a skipped selection, counted from one. A bound that is too long to be written is not
reported. -/
def Skipped.report (s : Skipped) : Run Unit := do
  let start ← ofShape s.start.increment?
  let stop ← ofShape s.stop.increment?
  if start.isOverlong || stop.isOverlong then throw .overlong
  status ("  Skipped lines ".toList ++ start.describe ++ '-' :: stop.describe
    ++ " (reaches the last line of the document or overlaps)".toList)

/-- Report the skipped selections one after the other. -/
def reportSkipped (skipped : List Skipped) : Run Unit := skipped.forM Skipped.report

/-- Join the selections onto the chosen clipboard. -/
def joinToClipboard (job : Job) (language t : Text) (selections : List Selection) : Run Unit := do
  if job.options.server?.isSome then throw .serverToClipboard
  let document := Document.ofText t
  let target := job.options.clipboard
  let R ← ofLibrary (RuleSet.ofLanguage (some language))
  log job (commandEntries R document selections)
  let w ← get
  let (clipboards, report) ←
    ofLibrary (LineJoin.joinToClipboard R document selections (w.outlet target) w.clipboards)
  modify fun w => { w with stdout := clipboards.stream, copied := clipboards.system }
  let count := report.joined.length
  if 0 < count then log job [clipboardEntry count target]
  reportSkipped (report.skipped.map .ofSelection)
  if 0 < count then
    status ("Copied ".toList ++ Numeral.decimal count ++ " joined selection(s) to the ".toList
      ++ target.name.toList ++ " clipboard".toList)

/-- The outcome of joining selections: the new text, what was joined and what was skipped. The first
two may have any shape when they come from a reply. -/
structure Edit where
  text : Json
  joined : Json
  skipped : List Skipped

/-- Join the selections through the service. -/
def editByService (job : Job) (url language t : Text) (selections : List Selection) : Run Edit := do
  let R ← ofLibrary (RuleSet.ofLanguage (some language))
  let body ← ask job url
    (.joinDocument (.str t) (.array (selections.map Service.selectionJson)) (.str language))
    (commandEntries R (Document.ofText t) selections)
  let text ← ofClient (Client.fieldOf "text" body)
  let joined ← ofClient (Client.fieldOf "joined" body)
  let skipped ← ofShape (← ofClient (Client.fieldOf "skipped" body)).parts?
  return ⟨text, joined, ← skipped.mapM Skipped.ofReply⟩

/-- Join the selections here. -/
def editHere (job : Job) (language t : Text) (selections : List Selection) : Run Edit := do
  let document := Document.ofText t
  let R ← ofLibrary (RuleSet.ofLanguage (some language))
  log job (commandEntries R document selections)
  let (edited, report) ← ofLibrary (joinLines R document selections)
  return ⟨.str edited.toText, .texts report.joined, report.skipped.map .ofSelection⟩

/-- Replace the content of a file. The file is emptied before the text is written, and before it shows
whether there is one. -/
def writeFile (file : Path) (text : Json) : Run Unit := do
  modify fun w => { w with files := w.files.write file [] }
  let t ← ofText text
  modify fun w => { w with files := w.files.write file (Text.Utf8.encode t) }

/-- Join the selections and write the document, to its file or to the standard output. The target
is a path as it was given, with the file that it leads to. -/
def joinInPlace (job : Job) (target : Option (Path × Path)) (language t : Text)
    (selections : List Selection) : Run Unit := do
  let edit ← match job.options.server? with
    | some url => editByService job url language t selections
    | none => editHere job language t selections
  reportSkipped edit.skipped
  match target, job.options.stdout with
  | some (path, file), false =>
    writeFile file edit.text
    let count ← ofShape edit.joined.size?
    status ("Joined ".toList ++ Numeral.decimal count ++ " selection(s) in ".toList
      ++ path.toText)
  | _, _ => output (← ofText edit.text)

/-! ## A run -/

/-- Join what the options ask for. -/
def joinInput (job : Job) : Run Unit := do
  let path := job.options.path?
  let target ← match path with
    | none => pure none
    | some p =>
      match (← get).files.locate p with
      | some file => pure (some (p, file))
      | none => throw (.notFound p)
  let language := languageFor job path
  let _ ← ofLibrary (RuleSet.ofLanguage (some language))
  let t ← readInput job (target.map (·.2))
  if job.options.lines.isEmpty then joinWhole job language t
  else
    let selections ← ofLibrary (job.options.lines.mapM Selection.parse)
    if job.options.toClipboard then joinToClipboard job language t selections
    else joinInPlace job target language t selections

/-- Start the service. -/
def serve (job : Job) : Run Unit := do
  match job.settings.port with
  | .error e => throw (.startup e)
  | .ok port =>
    log job [serveEntry job.settings.host port]
    modify fun w => { w with served := w.served ++ [(job.settings.host, port)] }

/-- Do what the options ask for. -/
def perform (job : Job) : Run Unit := do
  checkLevel job
  if job.options.serve then serve job else joinInput job

/-- How a run ends: with a status, or by a failure that is not foreseen. -/
inductive Exit
  | status (code : Nat)
  | unforeseen (failure : Failure)

/-- The end of a run and the world after it. -/
structure Outcome where
  exit : Exit
  world : World

/-- The words with which a run says how it is used. -/
def usage : Text := "usage: context-join [options] [file]\n".toList

/-- A world with a line more on its standard error. -/
def World.report (w : World) (line : Text) : World :=
  { w with stderr := w.stderr ++ line ++ ['\n'] }

/-- The end of an action: a failure is reported if there is something to say about it. -/
def conclude (action : Run Unit) (w : World) : Outcome :=
  match action w with
  | .ok _ w => ⟨.status 0, w⟩
  | .error failure w =>
    match failure.report? with
    | some message => ⟨.status 1, w.report ("Error: ".toList ++ message)⟩
    | none => ⟨.unforeseen failure, w⟩

/-- Run a command line. -/
def run (argv : List Text) (settings : Settings) (stdin : Text.Bytes) (w : World) : Outcome :=
  match parse argv with
  | .error misuse => ⟨.status 2, w.report ("context-join: error: ".toList ++ misuse.message)⟩
  | .ok .help => ⟨.status 0, { w with stdout := w.stdout ++ usage }⟩
  | .ok (.run options) => conclude (perform { options, settings, stdin }) w

end LineJoin.CommandLine
