import LineJoin.Service.Router
import LineJoin.Url.Reader

/-!
# Transports

Where requests go: to the service itself, or to a script of replies. What comes back is a status
with a text, or the news that the connection failed.
-/

namespace LineJoin

/-- Where the service is when it is asked directly. -/
def Service.address : Url := { scheme := "http".toList, host := "service".toList, path := ['/'] }

/-- The request that asks the service directly for what a reference names. -/
def Service.Request.ofReference (method reference body : Text) : Except Url.Fault Service.Request :=
  (Url.read reference).map fun r => ⟨method, (Service.address.resolve r).servicePath, body⟩

/-- What comes back for a request: a status with a text, or a connection that failed. -/
inductive Received
  | reply (status : Nat) (text : Text)
  | failure (message : Text)
  deriving DecidableEq, Repr

/-- Where requests go. A script answers each request with its next reply, and goes on with the last
one. -/
inductive Transport
  | service
  | script (replies : List Received)
  deriving DecidableEq, Repr

namespace Transport

/-- The reply to a request and the transport after it. The depth is that of the JSON which the
service reads. -/
def send (transport : Transport) (depth : Nat) (request : Service.Request) :
    Received × Transport :=
  match transport with
  | service =>
    let reply := Service.respond depth request
    (.reply reply.status reply.text, service)
  | script [] => (.failure [], script [])
  | script [last] => (last, script [last])
  | script (reply :: replies) => (reply, script replies)

end Transport

/-- The status of a reply. -/
def Received.status? : Received → Option Nat
  | reply status _ => some status
  | failure _ => none

/-- A request that was sent, with the status that came back, if one did. -/
structure Sent where
  method : String
  url : Text
  payload : Option Json
  status : Option Nat

end LineJoin
