import LineJoin.CommandLine.Run

/-!
# The program

The command line as a program: it gathers the settings, the file that is named and the standard
input, runs, and carries out what the run decided. Requests are not sent and the service is not
started, because the program has no network; a run that needs it fails to connect.
-/

namespace LineJoin.CommandLine

/-- The variables that the settings are made from. -/
def settingVariables : List String :=
  ["CONTEXT_JOIN_LANGUAGE", "CONTEXT_JOIN_HOST", "CONTEXT_JOIN_SERVER_URL",
   "CONTEXT_JOIN_LOG_LEVEL", "CONTEXT_JOIN_PORT"]

/-- The environment, as far as the settings need it. -/
def gatherEnvironment : IO Environment :=
  settingVariables.filterMapM fun name => do
    return (← IO.getEnv name).map fun value => (name, value.toList)

/-- The file that a path names, if it can be read. -/
def gatherFile (path : Path) : IO FileTree := do
  try
    return [(path, (← IO.FS.readBinFile (String.ofList path.toText)).toList)]
  catch _ => return []

/-- Everything on the standard input. -/
partial def gatherInput (input : IO.FS.Stream) (sofar : ByteArray) : IO ByteArray := do
  let chunk ← input.read 65536
  if chunk.isEmpty then return sofar else gatherInput input (sofar ++ chunk)

/-- Write the files whose content changed. -/
def writeChanges (before after : FileTree) : IO Unit :=
  (before.zip after).forM fun ((path, old), (_, new)) => do
    if old != new then
      IO.FS.writeBinFile (String.ofList path.toText) ⟨new.toArray⟩

/-- Run the program on its arguments. -/
def program (args : List String) : IO UInt32 := do
  let argv := args.map (·.toList)
  let settings := Settings.ofEnvironment (← gatherEnvironment)
  let path? := match parse argv with
    | .ok (.run options) => some options.path?
    | _ => none
  let files ← match path? with
    | some (some path) => gatherFile path
    | _ => pure []
  let stdin ← match path? with
    | some none => gatherInput (← IO.getStdin) .empty
    | _ => pure .empty
  let world : World :=
    { files
      systemFault := some "no copy mechanism was found".toList
      transport := .script [.failure "no network".toList] }
  let outcome := run argv settings stdin.toList world
  writeChanges files outcome.world.files
  IO.print (String.ofList outcome.world.stdout)
  IO.eprint (String.ofList outcome.world.stderr)
  match outcome.exit with
  | .status code => return UInt32.ofNat code
  | .unforeseen _ =>
    IO.eprintln "Error: the run ended unforeseen"
    return 1

end LineJoin.CommandLine

/-- The entry point. -/
def main (args : List String) : IO UInt32 := LineJoin.CommandLine.program args
