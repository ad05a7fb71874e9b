import ChatRace.Chat.Wire
import ChatRace.Http.Response
import ChatRace.Race.Error

/-!
# Problems

What a client is told when there is no answer: a status and an error document. A `Problem` that comes from a
lost race is also counted, under its reason.
-/

namespace ChatRace

/-- Why a client gets no answer. -/
inductive Problem where
  | badRequest (message : String)
  | backend (message : String)
  | timeout (message : String)
  | internal (message : String)
  deriving DecidableEq, Repr

namespace Problem

/-- The description of a problem. -/
def message : Problem → String
  | badRequest m | backend m | timeout m | internal m => m

/-- The reason under which a lost race is counted; none if there was no race. -/
def raceFailure? : Problem → Option String
  | backend _ => some "all_failed"
  | timeout _ => some "timeout"
  | badRequest _ | internal _ => none

/-- The status of the response. -/
def status : Problem → Nat
  | badRequest _ => 400
  | backend _ => 502
  | timeout _ => 504
  | internal _ => 500

/-- The sort of error in the error document. -/
def kind : Problem → String
  | badRequest _ => "invalid_request_error"
  | backend _ => "backend_error"
  | timeout _ => "timeout_error"
  | internal _ => "server_error"

/-- The response to a client. -/
def response (p : Problem) : Http.Response :=
  .json p.status (Chat.errorDocument p.message p.kind)

end Problem

/-- What a client is told of a lost race. -/
def RaceError.problem (e : RaceError) : Problem :=
  match e with
  | .noCandidates | .unknownBackend _ => .badRequest e.message
  | .allFailed _ => .backend e.message
  | .timeout _ => .timeout e.message

end ChatRace
