import ChatRace.Chat.Reply
import ChatRace.Chat.Request

/-!
# Backends

A backend answers requests after some time, with a whole reply or with a stream whose items each take their
time once they are pulled. All times are in milliseconds. What a backend does with a call depends on the
request alone. Each backend is reached on a line of its own, and a `Traffic` log records what happens on the
lines.
-/

namespace ChatRace

open Chat

/-- Why a backend did not answer. -/
inductive BackendError where
  | unavailable (detail : String)
  | timeout (detail : String)
  | invalidResponse (detail : String)
  deriving DecidableEq, Repr

/-- The description of an error. -/
def BackendError.message : BackendError → String
  | unavailable d => "backend unavailable: " ++ d
  | timeout d => "backend timeout: " ++ d
  | invalidResponse d => "backend invalid response: " ++ d

/-- What comes of something that a backend was asked for. -/
inductive Outcome (α : Type) where
  | value (a : α)
  | failure (e : BackendError)
  /-- The call ends without any result. -/
  | crash
  deriving DecidableEq, Repr

/-- An item of a stream: it comes `delay` after it has been pulled. -/
structure Item where
  delay : Nat
  outcome : Outcome Chunk
  deriving DecidableEq, Repr

/-- The course of a call: what comes of it, and after how long. -/
structure Course (α : Type) where
  latency : Nat
  outcome : Outcome α
  deriving Repr

/-- A backend: the course of a call for a whole reply, and of a call for a stream. -/
structure Backend where
  name : String
  /-- The line on which the backend is reached. -/
  line : Nat
  buffered : BackendRequest → Course Reply
  streamed : BackendRequest → Course (List Item)

namespace Backend

/-- A backend that follows a script whatever it is asked. -/
def scripted (name : String) (line latency : Nat) (reply : Outcome Reply) (stream : Outcome (List Item)) :
    Backend :=
  ⟨name, line, fun _ => ⟨latency, reply⟩, fun _ => ⟨latency, stream⟩⟩

end Backend

/-! ### Traffic -/

/-- What happens on the line to a backend. -/
inductive Traffic where
  /-- A call is made, and with it a connection. -/
  | called (line : Nat) (request : BackendRequest)
  /-- An item of a stream has come. -/
  | pulled (line : Nat)
  /-- A connection ends. -/
  | released (line : Nat)

namespace Traffic

/-- The calls on a line, in order. -/
def calls (line : Nat) (log : List Traffic) : List BackendRequest :=
  log.filterMap fun
    | .called l r => if l = line then some r else none
    | _ => none

/-- The number of items that have come on a line. -/
def pulls (line : Nat) (log : List Traffic) : Nat :=
  log.countP fun
    | .pulled l => l == line
    | _ => false

/-- The number of connections that have ended on a line. -/
def releases (line : Nat) (log : List Traffic) : Nat :=
  log.countP fun
    | .released l => l == line
    | _ => false

/-- The number of connections on a line that have not ended. -/
def openOn (line : Nat) (log : List Traffic) : Nat :=
  (calls line log).length - releases line log

@[simp] theorem calls_append (line : Nat) (a b : List Traffic) :
    calls line (a ++ b) = calls line a ++ calls line b := by
  simp [calls]

@[simp] theorem pulls_append (line : Nat) (a b : List Traffic) :
    pulls line (a ++ b) = pulls line a + pulls line b := by
  simp [pulls]

@[simp] theorem releases_append (line : Nat) (a b : List Traffic) :
    releases line (a ++ b) = releases line a + releases line b := by
  simp [releases]

end Traffic

end ChatRace
