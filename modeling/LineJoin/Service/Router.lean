import LineJoin.Service.Endpoint
import LineJoin.Text.LetterCase

/-!
# Routing

From a method, a path and a body to the endpoint that answers. A body that is not JSON, or does not
have the fields that the endpoint needs, is answered with its issues. A path that would be an
endpoint's but for slashes at its end is answered with a redirection.
-/

namespace LineJoin.Service

/-- The endpoints. -/
inductive Endpoint
  | join
  | joinPair
  | joinDocument
  | classify
  | languages
  | health
  deriving DecidableEq, Repr

/-- A request as it arrives: the path is decoded, and has no query. -/
structure Request where
  method : Text
  path : Text
  body : Text
  deriving DecidableEq, Repr

namespace Endpoint

/-- Every endpoint. -/
def all : List Endpoint := [join, joinPair, joinDocument, classify, languages, health]

/-- The path of an endpoint. -/
def path : Endpoint → String
  | join => "/join"
  | joinPair => "/join/pair"
  | joinDocument => "/documents/join"
  | classify => "/classify"
  | languages => "/languages"
  | health => "/health"

/-- The method of an endpoint. -/
def method : Endpoint → String
  | languages | health => "GET"
  | _ => "POST"

/-- The endpoint at a path. -/
def at? (path : Text) : Option Endpoint := all.find? (·.path.toList == path)

end Endpoint

/-- The reply to a request with issues. -/
def issuesReply (issues : List Issue) : Reply := .detail 422 (.array (issues.map Issue.json))

/-- The reply to a body from which an endpoint takes its fields. -/
def withFields {α : Type} (check : Json → Checked α) (reply : α → Reply) (depth : Nat)
    (body : Text) : Reply :=
  if body.isEmpty then issuesReply [⟨.missing, [], .null⟩]
  else
    match Json.read depth body with
    | .error (.malformed complaint place) =>
      issuesReply [⟨.notJson complaint, [.item place.offset], .object []⟩]
    | .error _ => .failure 400 "There was an error parsing the body".toList
    | .ok value =>
      match check value with
      | .ok request => reply request
      | .error issues => issuesReply issues

/-- What an endpoint answers to a body, whose containers may stand in each other so deep. -/
def Endpoint.reply : Endpoint → (depth : Nat) → (body : Text) → Reply
  | join => withFields JoinRequest.check Service.join
  | joinPair => withFields PairRequest.check Service.joinPair
  | joinDocument => withFields DocumentRequest.check Service.joinDocument
  | classify => withFields ClassifyRequest.check Service.classify
  | languages => fun _ _ => Service.languages
  | health => fun _ _ => Service.health

/-- The path with a slash at its end instead of none, or none instead of some. -/
def toggleSlash (path : Text) : Text :=
  if path.getLast? = some '/' then (path.reverse.dropWhile (· == '/')).reverse else path ++ ['/']

/-- The reply of the endpoint at a path to a method and a body. -/
def route (depth : Nat) (method path body : Text) : Reply :=
  match Endpoint.at? path with
  | some endpoint =>
    if endpoint.method.toList = method then endpoint.reply depth body
    else .failure 405 "Method Not Allowed".toList
  | none =>
    if (Endpoint.at? (toggleSlash path)).isSome then ⟨307, none⟩
    else .failure 404 "Not Found".toList

/-- The reply to a request. A request for the head alone gets no body. -/
def respond (depth : Nat) (request : Request) : Reply :=
  let method := Text.upper request.method
  let reply := route depth method request.path request.body
  if method = "HEAD".toList then { reply with body := none } else reply

end LineJoin.Service
