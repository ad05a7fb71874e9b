import ChatRace.Attempt.Basic
import ChatRace.Http.Response
import ChatRace.Relay.Transmission

/-!
# Answers

How the winner's unit becomes a response: a whole reply one with a JSON document, the beginning of a stream
one with server-sent events. Either names the winner in a header field, if a field can hold the name. An
`Answer` is a response as a client has got it.
-/

namespace ChatRace

open Chat

/-- What is drawn or read off the clock for one request: its identifier, and the identifier and the time of
the answer to it. -/
structure Identity where
  requestId : String
  answerId : String
  created : Int
  deriving DecidableEq, Repr

/-- What all parts of an answer by a winner have in common. -/
def Identity.stamp (i : Identity) (winner : String) : Stamp := ⟨i.answerId, i.created, winner⟩

/-- The response that a client has got, with the times since the sending. -/
structure Answer where
  status : Nat
  headers : Http.Headers
  body : String
  /-- The frames in which the body has come, each with its time. -/
  frames : List (Nat × String)
  /-- Whether the client has been told that the body is complete. -/
  complete : Bool
  headAfter : Nat
  endAfter : Nat
  deriving DecidableEq, Repr

namespace Answer

/-- What a client has got of a response with a whole body, which is one frame unless it is empty. -/
def whole (room : Option Nat) (after : Nat) (r : Http.Response) : Answer :=
  let frames := if r.body.isEmpty then [] else [(after, r.body)]
  let isTaken := room.elim true (frames.length ≤ ·)
  { status := r.status
    headers := r.headers
    body := if isTaken then r.body else ""
    frames := if isTaken then frames else []
    complete := room.elim true (frames.length < ·)
    headAfter := after
    endAfter := after }

/-- What a client has got of a streamed response to a request that was sent at `sent`. -/
def streamed (headers : Http.Headers) (t : Transmission) (complete : Bool) (headAfter endAfter : Nat)
    (sent : Nat := 0) : Answer :=
  { status := 200
    headers
    body := t.body
    frames := t.frames.reverse.map fun (time, text) => (time - sent, text)
    complete
    headAfter
    endAfter }

end Answer

/-- The response with a winner's unit. -/
inductive WinnerResponse where
  | whole (r : Http.Response)
  | streamed (headers : Http.Headers) (t : Transmission)

namespace WinnerResponse

/-- The header field that names the winner. -/
def winnerField : String := "x-race-winner"

/-- The header of a response with a winner's unit. -/
def headers (mediaType : String) (winner : String) : Http.Headers :=
  (Http.Headers.empty.insert "content-type" mediaType).apply winnerField winner

/-- The header of a streamed response with a winner's unit. -/
def streamHeaders (winner : String) : Http.Headers :=
  ((Http.Headers.empty.insert "content-type" "text/event-stream").insert "cache-control" "no-cache").apply
    winnerField winner

/-- The response at `now` to a client who takes `room` frames. -/
def ofUnit (i : Identity) (winner : String) (line now : Nat) (room : Option Nat) : FirstUnit → WinnerResponse
  | .buffered r => .whole ⟨200, headers "application/json" winner, ((i.stamp winner).completion r).render⟩
  | .streamed first rest =>
    .streamed (streamHeaders winner)
      (Transmission.start line now room (Relay.beats (i.stamp winner) first rest))

end WinnerResponse

end ChatRace
