import LineJoin.Error

/-!
# Clipboards

Three places that a joined text can go to. Memory keeps the last text, the stream receives every
text with a line feed after it, and the system clipboard may refuse. Whether it does can change from
one write to the next, so it is said with the clipboard that is written to.
-/

namespace LineJoin

/-- A kind of clipboard. -/
inductive Clipboard
  | system
  | memory
  | stream
  deriving DecidableEq, Repr

namespace Clipboard

/-- Every clipboard. -/
def all : List Clipboard := [system, memory, stream]

/-- The word that chooses a clipboard. -/
def key : Clipboard → String
  | system => "system"
  | memory => "memory"
  | stream => "stream"

/-- The name of a clipboard in messages. -/
def name : Clipboard → String
  | system => "System"
  | memory => "Memory"
  | stream => "Stream"

end Clipboard

/-- A clipboard to write to, and the fault that the system clipboard has at that time, if any. -/
structure Outlet where
  clipboard : Clipboard
  fault : Option Text := none
  deriving DecidableEq, Repr

/-- Why a clipboard refuses a text, if it does. Only the system clipboard can. -/
def Outlet.refusal? (target : Outlet) : Option Text :=
  if target.clipboard = .system then target.fault else none

/-- What the clipboards have received. -/
structure Clipboards where
  memory : Option Text := none
  stream : Text := []
  system : List Text := []
  deriving DecidableEq, Repr

namespace Clipboards

/-- The clipboards after one of them received a text. -/
def receive (cs : Clipboards) : Clipboard → Text → Clipboards
  | .memory, t => { cs with memory := some t }
  | .stream, t => { cs with stream := cs.stream ++ t ++ ['\n'] }
  | .system, t => { cs with system := cs.system ++ [t] }

/-- The clipboards after a text was written to one of them. -/
def write (cs : Clipboards) (target : Outlet) (t : Text) : Except Error Clipboards :=
  match target.refusal? with
  | some reason => .error (.clipboardUnavailable reason)
  | none => .ok (cs.receive target.clipboard t)

end Clipboards

end LineJoin
