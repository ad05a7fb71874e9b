import ChatRace.Chat.Request
import ChatRace.Http.Request
import ChatRace.Http.Response

/-!
# Endpoints

What a client can ask the gateway for, and what it is told when it asks for something else or in another
way. A request for an answer has to be a JSON document of limited size that holds a `ClientRequest`.
-/

namespace ChatRace

/-- What a client can ask for. -/
inductive Endpoint where
  | health
  | metrics
  | models
  | chat
  deriving DecidableEq, Repr

namespace Endpoint

/-- The path of an endpoint. -/
def path : Endpoint → String
  | health => "/healthz"
  | metrics => "/metrics"
  | models => "/v1/models"
  | chat => "/v1/chat/completions"

/-- All endpoints. -/
def all : List Endpoint := [health, metrics, models, chat]

/-- The methods that an endpoint allows. -/
def methods : Endpoint → List String
  | health | metrics | models => ["GET", "HEAD"]
  | chat => ["POST"]

/-- The endpoint with a path. -/
def ofPath? (path : String) : Option Endpoint :=
  all.find? (·.path == path)

/-- The response to a method that an endpoint does not allow. -/
def notAllowed (e : Endpoint) : Http.Response :=
  ⟨405, Http.Headers.empty.insert "allow" (",".intercalate e.methods), ""⟩

/-- The endpoint that a request is for, or the response if there is none. -/
def find (r : Http.Request) : Except Http.Response Endpoint :=
  match ofPath? r.path with
  | none => .error (.bare 404)
  | some e => if e.methods.contains r.method then .ok e else .error e.notAllowed

end Endpoint

/-- Why the body of a request is not read, or cannot be. -/
inductive BodyFault where
  | notJson
  | tooLong
  | fault (f : Json.Fault)
  deriving DecidableEq, Repr

namespace BodyFault

/-- The longest body that is read. -/
def maxBody : Nat := 2 * 1024 * 1024

/-- The response to a body that is not read. -/
def response (locate : Json.Locator) (body : List UInt8) : BodyFault → Http.Response
  | notJson => .plain 415 "Expected request with `Content-Type: application/json`"
  | tooLong => .plain 413 "Failed to buffer the request body: length limit exceeded"
  | fault f =>
    match f.cause.category with
    | .data =>
      .plain 422 ("Failed to deserialize the JSON body into the target type: " ++ f.located locate body)
    | .syntactic | .eof => .plain 400 ("Failed to parse the request body as JSON: " ++ f.located locate body)

end BodyFault

namespace Chat.ClientRequest

/-- The request for an answer in the body of a request. -/
def ofBody (r : Http.Request) : Except BodyFault ClientRequest :=
  if !r.headers.saysJson then .error .notJson
  else if BodyFault.maxBody < r.body.length then .error .tooLong
  else
    match Json.decodeFirst reader r.body with
    | .ok c => .ok c
    | .error f => .error (.fault f)

end Chat.ClientRequest

end ChatRace
