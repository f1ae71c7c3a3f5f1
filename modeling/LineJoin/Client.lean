import LineJoin.Json.Number
import LineJoin.Settings
import LineJoin.Transport
import LineJoin.Url.Reader

/-!
# The client of the service

A client is opened, which takes its base address apart, calls the service and is closed. Each call is
one request; a reply below 400 is its JSON value, any other is an error with the detail that the
service gives, or its whole text. What a call sends is not looked into, only the lines of a join have
to be a sequence. A client also knows how deep the JSON may nest that it reads.
-/

namespace LineJoin

namespace Client

/-- Why a call has no value. -/
inductive Error
  /-- The base address is none. -/
  | badAddress (fault : Url.Fault)
  /-- The client is not open. -/
  | notOpen
  /-- The service was not reached. -/
  | connection (message : Text)
  /-- The request went to an address without a scheme, whose reply is not accepted. -/
  | noScheme (url : Text)
  /-- The service answered with a status from 400 on. -/
  | service (status : Nat) (detail : Phrase)
  /-- The reply is not JSON. -/
  | notJson (fault : Json.Fault)
  /-- The reply has no such field. -/
  | missingField (name : String)
  /-- The reply, or a part of it, is not the kind of value that is needed. -/
  | wrongShape
  deriving DecidableEq, Repr

/-- The words that report a failure, as they are shown; a value of the wrong shape has none of its
own. -/
def Error.message : Error → Text
  | badAddress fault => fault.message
  | notOpen =>
    ("JoinServiceClient must be used as a context manager: "
      ++ "with JoinServiceClient() as client: ...").toList
  | connection message => message
  | noScheme url => "unknown url type: ".toList ++ Text.quoted url
  | service status detail =>
    "context-join service error ".toList ++ Numeral.decimal status ++ ": ".toList ++ detail.shown
  | notJson fault => fault.message
  | missingField name => Text.quoted name.toList
  | wrongShape => []

end Client

/-- A client: where it calls, the base of its requests while it is open, how it sends, how deep it
reads and what it has sent. -/
structure Client where
  base : Text
  opened : Option Url := none
  transport : Transport := .service
  depth : Nat := ({} : Settings).depth
  sent : List Sent := []

namespace Client

/-- The base address without slashes at its end; an empty one means the address of the settings. -/
def baseOf (settings : Settings) (base : Option Text) : Text :=
  let chosen := match base with
    | none | some [] => settings.serverUrl
    | some url => url
  (chosen.reverse.dropWhile (· == '/')).reverse

/-- The part of a value under a name. -/
def fieldOf (name : String) : Json → Except Error Json
  | .object fields =>
    match fields.lookup (name : Phrase) with
    | some value => .ok value
    | none => .error (.missingField name)
  | _ => .error .wrongShape

/-- The detail of a failed reply: what it says under that name, or its whole text. A text that is
too deep is not read for its detail either. -/
def detailOf (depth : Nat) (text : Text) : Except Error Phrase :=
  match Json.read depth text with
  | .ok (.object fields) =>
    .ok (((fields.lookup ("detail" : Phrase)).map Json.asMessage).getD text)
  | .error (.tooDeep container) => .error (.notJson (.tooDeep container))
  | _ => .ok text

/-- What a reply means. -/
def interpret (depth : Nat) : Received → Except Error Json
  | .failure message => .error (.connection message)
  | .reply status text =>
    if 400 ≤ status then do .error (.service status (← detailOf depth text))
    else (Json.read depth text).mapError .notJson

/-- Open a client. -/
def enter (c : Client) : Except Error Unit × Client :=
  match Url.read c.base with
  | .ok url => (.ok (), { c with opened := some url.asBase })
  | .error fault => (.error (.badAddress fault), c)

/-- Close a client. -/
def leave (c : Client) : Client := { c with opened := none }

/-- Whether the text of an address starts with a scheme: something before the first colon, and no
slash in it. -/
def namesScheme (url : Text) : Bool :=
  match url.dropWhile fun c => c != '/' && c != ':' with
  | ':' :: _ => url.head? != some ':'
  | _ => false

/-- What a reply from an address means. A number sign at the end of the address is not reported. -/
def accept (depth : Nat) (url : Url) (received : Received) : Except Error Json :=
  match received with
  | .reply _ _ =>
    let text := url.toText
    if namesScheme text then interpret depth received
    else .error (.noScheme (if text.getLast? = some '#' then text.dropLast else text))
  | .failure _ => interpret depth received

/-- Send a request to an endpoint. -/
def request (c : Client) (endpoint : Service.Endpoint) (payload : Option Json) :
    Except Error Json × Client :=
  match c.opened with
  | none => (.error .notOpen, c)
  | some base =>
    let url := base.resolve { path := endpoint.path.toList }
    let body := (payload.map Json.print).getD []
    let (received, transport) :=
      c.transport.send c.depth ⟨endpoint.method.toList, url.servicePath, body⟩
    let sent : Sent := ⟨endpoint.method, url.toText, payload, received.status?⟩
    (accept c.depth url received, { c with transport, sent := c.sent ++ [sent] })

/-- What can be asked of the service. The parts of a call are sent as they are given. -/
inductive Call
  | joinLines (lines language : Json)
  | joinPair (first second language : Json)
  | joinDocument (text selections language : Json)
  | classify (text language : Json)
  | languages
  | health

namespace Call

/-- The endpoint of a call. -/
def endpoint : Call → Service.Endpoint
  | joinLines .. => .join
  | joinPair .. => .joinPair
  | joinDocument .. => .joinDocument
  | classify .. => .classify
  | languages => .languages
  | health => .health

/-- What a call sends. The lines of a join may be any sequence. -/
def payload : Call → Except Error (Option Json)
  | joinLines lines language =>
    match lines.parts? with
    | some items => .ok (some (.object [("lines", .array items), ("language", language)]))
    | none => .error .wrongShape
  | joinPair first second language =>
    .ok (some (.object [("first", first), ("second", second), ("language", language)]))
  | joinDocument text selections language =>
    .ok (some (.object [("text", text), ("selections", selections), ("language", language)]))
  | classify text language => .ok (some (.object [("text", text), ("language", language)]))
  | languages | health => .ok none

/-- The value of a call, taken from the reply: a join gives its line alone. -/
def result : Call → Json → Except Error Json
  | joinLines .., reply | joinPair .., reply => fieldOf "result" reply
  | _, reply => .ok reply

end Call

/-- Make a call. -/
def call (c : Client) (call : Call) : Except Error Json × Client :=
  match call.payload with
  | .error e => (.error e, c)
  | .ok payload =>
    let (reply, c) := c.request call.endpoint payload
    (reply.bind call.result, c)

/-- One step in the life of a client. -/
inductive Step
  | enter
  | leave
  | call (call : Call)

/-- What a step gives, and the client after it. -/
def step (c : Client) : Step → Except Error Json × Client
  | .enter =>
    let (opened, c) := c.enter
    (opened.map fun _ => .bool true, c)
  | .leave => (.ok .null, c.leave)
  | .call k => c.call k

end Client

end LineJoin
