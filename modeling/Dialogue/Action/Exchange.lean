import Dialogue.Action.Request
import Dialogue.Config.Basic

/-!
# Exchanges with action servers

An action server is posted a request and answers with a status and a body.  A bad
request whose body names an action is a refusal of that action; the body of any other
success is a response, and every other status is a failure of the server.
-/

namespace Dialogue

/-- What is posted to an action server. -/
structure Post where
  /-- The path and the query of the address. -/
  target : String
  /-- The body. -/
  body : ActionRequest

/-- The first line of a request. -/
def Post.line (post : Post) : String :=
  s!"POST {post.target} HTTP/1.1"

/-- How a request ended. -/
inductive Exchange where
  /-- The server answered. -/
  | answered (status : Nat) (body : String)
  /-- No answer came back. -/
  | failed (message : String)
  /-- No answer came back in time. -/
  | timedOut

/-- The status of a bad request. -/
def badRequest : Nat := 400

/-- Whether a status tells success. -/
def isSuccess (status : Nat) : Bool :=
  200 ≤ status && status < 300

/-- The members of a refusal in order. -/
def refusalMembers : List String :=
  ["action_name", "error"]

/-- The action that the body of a bad request refuses to run, and why. -/
def refusal? (body : String) : Option (String × String) := do
  let members ← Json.recordOfText? Json.ofMembers refusalMembers body
  let name ← members.optional "action_name" Json.string?
  let error ← members.optional "error" Json.string?
  return (← name, error.getD "")

/-- The query with a token as its last field. -/
def queryWithToken (query token : Option String) : Option String :=
  match token with
  | none => query
  | some token =>
      let field := "token=" ++ Url.encodeField token
      match query with
      | none => some field
      | some "" => some field
      | some query => some (query ++ "&" ++ field)

namespace ActionEndpoint

/-- What is posted to run an action, if the address of the server is of use. -/
def post? (readUrl : Url.Reader) (endpoint : ActionEndpoint) (action : String)
    (tracker : Tracker) (domain : Domain) : Option Post := do
  let url ← (readUrl endpoint.url).filter fun url => Config.serverSchemes.contains url.scheme
  let query := match queryWithToken url.query endpoint.token with
    | none => ""
    | some query => "?" ++ query
  return ⟨url.path ++ query, ActionRequest.of action tracker domain⟩

/-- What the end of a request means for the action. -/
def receive (endpoint : ActionEndpoint) (action : String) :
    Exchange → Except ActionError ActionResponse
  | .failed message => .error (.transport action message)
  | .timedOut => .error (.timeout action endpoint.timeoutSecs)
  | .answered status body =>
      match if status = badRequest then refusal? body else none with
      | some (name, reason) => .error (.rejected name reason)
      | none =>
          if !isSuccess status then .error (.server action status body)
          else
            match ActionResponse.ofText? body with
            | some response => .ok response
            | none => .error (.decode action "the body is no response")

/-- Runs actions by an action server, given how addresses are read and how a request to it
ends. -/
def executor (readUrl : Url.Reader) (endpoint : ActionEndpoint)
    (send : ActionEndpoint → Post → Exchange) : Executor :=
  fun action tracker domain =>
    endpoint.receive action <|
      match endpoint.post? readUrl action tracker domain with
      | some post => send endpoint post
      | none => .failed "the address is of no use"

end ActionEndpoint

end Dialogue
