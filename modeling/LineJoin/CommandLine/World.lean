import LineJoin.Client
import LineJoin.CommandLine.Arguments
import LineJoin.CommandLine.Log
import LineJoin.CommandLine.Path

/-!
# The world of a run

What a run of the command line is told, what it can change, and how it can fail. Actions keep the
changes that were made before a failure: a line that was written stays written.
-/

namespace LineJoin.CommandLine

/-- Why a run fails. -/
inductive Failure
  /-- There is no such file. -/
  | notFound (path : Path)
  /-- The input is not UTF-8. -/
  | undecodable (fault : Text.Utf8.Fault)
  /-- Rules, ranges, joins or clipboards failed. -/
  | library (error : Error)
  /-- The service failed, or its reply has the wrong shape. -/
  | client (error : Client.Error)
  /-- A skipped selection in a reply ends before it starts. -/
  | replyOrder (start stop : Json)
  /-- The service cannot write to a clipboard here. -/
  | serverToClipboard
  /-- The service cannot be started. -/
  | startup (error : Error)
  /-- A number that is reported has more digits than are written. -/
  | overlong
  /-- A text to be written has half a pair in it. -/
  | unwritable (text : BrokenText)
  /-- The level of the log is none. -/
  | logLevel (misnomer : Misnomer)

/-- What is written about a failure; nothing about one that is not foreseen. -/
def Failure.report? : Failure → Option Text
  | notFound path => some ("File not found: ".toList ++ path.toText)
  | undecodable fault => some fault.message
  | library error => some error.message
  | client (.missingField _) | client .wrongShape | client (.badAddress _) => none
  | startup _ | logLevel _ => none
  | client error => some error.message
  | replyOrder start stop =>
    some ("Selection end line ".toList ++ stop.describe ++ " is before start line ".toList
      ++ start.describe)
  | serverToClipboard => some "--server cannot be combined with --to-clipboard".toList
  | overlong =>
    some ("Exceeds the limit (4300 digits) for integer string conversion; ".toList
      ++ "use sys.set_int_max_str_digits() to increase the limit".toList)
  | unwritable text => some text.encodeMessage

/-- What a run can change. -/
structure World where
  files : FileTree := []
  stdout : Text := []
  stderr : Text := []
  /-- The texts that the system clipboard received. -/
  copied : List Text := []
  /-- Why the system clipboard refuses, if it does. -/
  systemFault : Option Text := none
  transport : Transport := .service
  sent : List Sent := []
  served : List (Text × Int) := []

/-- The clipboards of a run: the stream is the standard output. -/
def World.clipboards (w : World) : Clipboards where
  stream := w.stdout
  system := w.copied

/-- A clipboard as a run finds it. -/
def World.outlet (w : World) (clipboard : Clipboard) : Outlet := ⟨clipboard, w.systemFault⟩

/-- What a run is told: its options, the settings and the standard input. -/
structure Job where
  options : Options := {}
  settings : Settings := {}
  stdin : Text.Bytes := []

/-- An action of a run, which keeps the changes made before a failure. -/
abbrev Run := EStateM Failure World

/-- The value of a computation of the library. -/
def ofLibrary {α : Type} : Except Error α → Run α
  | .ok a => pure a
  | .error e => throw (.library e)

/-- The value of a computation of the client. -/
def ofClient {α : Type} : Except Client.Error α → Run α
  | .ok a => pure a
  | .error e => throw (.client e)

/-- The value of a part that has to be there for the reply to have its shape. -/
def ofShape {α : Type} : Option α → Run α
  | some a => pure a
  | none => throw (.client .wrongShape)

/-- Write a line to the standard error. -/
def status (line : Text) : Run Unit :=
  modify fun w => { w with stderr := w.stderr ++ line ++ ['\n'] }

/-- Write a text to the standard output. -/
def output (t : Text) : Run Unit := modify fun w => { w with stdout := w.stdout ++ t }

/-- The text that a value has to be in order to be written. -/
def ofText : Json → Run Text
  | .str t => pure t
  | .broken b => throw (.unwritable b)
  | _ => throw (.client .wrongShape)

/-- The least weight of the log lines that a job writes. -/
def Job.leastWeight (job : Job) : Nat :=
  if job.options.verbose then Level.debug.weight
  else CommandLine.leastWeight job.settings.logLevel

/-- Refuse a level that is none. -/
def checkLevel (job : Job) : Run Unit :=
  match job.options.verbose, misnomer? job.settings.logLevel with
  | false, some misnomer => throw (.logLevel misnomer)
  | _, _ => pure ()

/-- Write the log lines that the level asks for. -/
def log (job : Job) (entries : List Entry) : Run Unit :=
  let written := entries.filter (job.leastWeight ≤ ·.level.weight)
  modify fun w => { w with stderr := w.stderr ++ written.flatMap (·.line ++ ['\n']) }

end LineJoin.CommandLine
