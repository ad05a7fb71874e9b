import ChatRace.Http.Header
import ChatRace.Json.Value

/-!
# Responses

A response whose body is known as a whole.
-/

namespace ChatRace.Http

/-- A response. -/
structure Response where
  status : Nat
  headers : Headers
  body : String
  deriving DecidableEq, Repr

namespace Response

/-- A response without fields and body. -/
def bare (status : Nat) : Response := ⟨status, .empty, ""⟩

/-- A response with a body of a media type. -/
def typed (status : Nat) (mediaType body : String) : Response :=
  ⟨status, Headers.empty.insert "content-type" mediaType, body⟩

/-- A plain text. -/
def plain (status : Nat) (body : String) : Response :=
  typed status "text/plain; charset=utf-8" body

/-- A JSON document. -/
def json (status : Nat) (v : Json.Value) : Response :=
  typed status "application/json" v.render

end Response

end ChatRace.Http
