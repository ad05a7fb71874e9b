import ChatRace.Chat.Candidates
import ChatRace.Chat.Message
import ChatRace.Uuid

/-!
# Requests

A `ClientRequest` is what a client sends. The front door makes a `RaceRequest` of it, with one entry per
candidate, or refuses it; the request that one candidate gets is a `BackendRequest`.
-/

namespace ChatRace.Chat

open Json

/-- A request as a client sends it. -/
structure ClientRequest where
  model : String
  messages : List Message
  generation : Generation
  stream : Bool
  /-- Whether `model` may list several candidates. -/
  fastestResponse : Bool
  user : Option String

namespace ClientRequest

/-- The fields of a request that have been read. -/
structure Draft where
  model : Option String
  messages : Option (List Message)
  maxTokens : Option (Option UInt32)
  temperature : Option (Option Float32)
  topP : Option (Option Float32)
  stream : Option Bool
  fastestResponse : Option Bool
  user : Option (Option String)

/-- Requests as documents hold them. -/
def schema : Record Draft ClientRequest where
  name := "ChatCompletionsRequest"
  fields := [
    { key := "model", required := true, isSet := (·.model.isSome),
      read := fun v d => (Reader.text v).map fun x => { d with model := some x } },
    { key := "messages", required := true, isSet := (·.messages.isSome),
      read := fun v d => (Reader.list Message.reader v).map fun x => { d with messages := some x } },
    { key := "max_tokens", required := false, isSet := (·.maxTokens.isSome),
      read := fun v d => (Reader.optional Reader.word v).map fun x => { d with maxTokens := some x } },
    { key := "temperature", required := false, isSet := (·.temperature.isSome),
      read := fun v d => (Reader.optional Reader.single v).map fun x => { d with temperature := some x } },
    { key := "top_p", required := false, isSet := (·.topP.isSome),
      read := fun v d => (Reader.optional Reader.single v).map fun x => { d with topP := some x } },
    { key := "stream", required := false, isSet := (·.stream.isSome),
      read := fun v d => (Reader.bool v).map fun x => { d with stream := some x } },
    { key := "fastest_response", required := false, isSet := (·.fastestResponse.isSome),
      read := fun v d => (Reader.bool v).map fun x => { d with fastestResponse := some x } },
    { key := "user", required := false, isSet := (·.user.isSome),
      read := fun v d => (Reader.optional Reader.text v).map fun x => { d with user := some x } }]
  empty := ⟨none, none, none, none, none, none, none, none⟩
  finish := fun d =>
    match Record.require "model" d.model, Record.require "messages" d.messages with
    | .ok model, .ok messages =>
      .ok {
        model, messages
        generation := ⟨d.maxTokens.join, d.temperature.join, d.topP.join⟩
        stream := d.stream.getD false
        fastestResponse := d.fastestResponse.getD false
        user := d.user.join }
    | .error c, _ => .error c
    | _, .error c => .error c

/-- Reads a request. -/
def reader : Reader ClientRequest := schema.reader

end ClientRequest

/-- Why the front door refuses a request. -/
inductive Refusal where
  | noCandidates
  /-- Several candidates are listed, and the client did not ask for a race. -/
  | raceNotAllowed (count : Nat)
  | noMessages
  deriving DecidableEq, Repr

/-- The description of a refusal. -/
def Refusal.message : Refusal → String
  | noCandidates => "model is required"
  | raceNotAllowed n => "model lists " ++ toString n ++ " candidates; set fastest_response to race them"
  | noMessages => "messages must not be empty"

/-- A request to one backend. -/
structure BackendRequest where
  requestId : String
  model : String
  messages : List Message
  generation : Generation
  stream : Bool

/-- An accepted request, to be answered by the fastest of its candidates. -/
structure RaceRequest where
  requestId : String
  candidates : List String
  messages : List Message
  generation : Generation
  stream : Bool

namespace RaceRequest

/-- The request that one candidate gets. -/
def forBackend (r : RaceRequest) (id : String) : BackendRequest :=
  ⟨r.requestId, id, r.messages, r.generation, r.stream⟩

end RaceRequest

/-- The identifier of a request with some random bits. -/
def requestId (random : Nat) : String :=
  "req_" ++ (Uuid.ofRandom random).text

namespace ClientRequest

/-- Why a request is refused, if it is. -/
def refusal? (r : ClientRequest) : Option Refusal :=
  let cs := candidates r.model
  if cs.isEmpty then some .noCandidates
  else if 1 < cs.length && !r.fastestResponse then some (.raceNotAllowed cs.length)
  else if r.messages.isEmpty then some .noMessages
  else none

/-- The race that a request asks for, under the identifier `id`. -/
def toRace (r : ClientRequest) (id : String) : Except Refusal RaceRequest :=
  match r.refusal? with
  | some refusal => .error refusal
  | none => .ok ⟨id, candidates r.model, r.messages, r.generation, r.stream⟩

end ClientRequest

end ChatRace.Chat
