import LineJoin.Error
import LineJoin.Text.LetterCase

/-!
# Settings

What the environment decides: the language when nothing else names one, where the service listens
and where it is reached, how much is logged, and how deep JSON may nest. A variable that is set
counts even if it is empty; for the depth there is none, it is what the stack of the run has room
for.
-/

namespace LineJoin

/-- Environment variables with their values. -/
abbrev Environment := List (String × Text)

/-- The settings of a run. -/
structure Settings where
  language : Text := "default".toList
  host : Text := "127.0.0.1".toList
  serverUrl : Text := "http://127.0.0.1:8765".toList
  logLevel : Text := "WARNING".toList
  /-- The port as it is written, without blanks around it. -/
  portText : Text := "8765".toList
  /-- How many containers of a JSON text may stand in each other. -/
  depth : Nat := 960
  deriving DecidableEq, Repr

namespace Settings

/-- The settings that an environment makes. -/
def ofEnvironment (env : Environment) : Settings :=
  let d : Settings := {}
  { language := (env.lookup "CONTEXT_JOIN_LANGUAGE").getD d.language
    host := (env.lookup "CONTEXT_JOIN_HOST").getD d.host
    serverUrl := (env.lookup "CONTEXT_JOIN_SERVER_URL").getD d.serverUrl
    logLevel := Text.upper ((env.lookup "CONTEXT_JOIN_LOG_LEVEL").getD d.logLevel)
    portText := Text.trim ((env.lookup "CONTEXT_JOIN_PORT").getD d.portText) }

/-- The port of the service. -/
def port (s : Settings) : Except Error Int :=
  match Numeral.read? s.portText with
  | some n => .ok n
  | none => .error (.portNotInteger s.portText)

end Settings

end LineJoin
