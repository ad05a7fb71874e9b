import ChatRace.Chat.Reply
import ChatRace.Json.Value

/-!
# Answers on the wire

The documents that clients get: whole answers, the events of a streamed answer, the list of models, and
errors. All events of one answer carry the same `Stamp`.
-/

namespace ChatRace.Chat

open Json

/-- What all parts of one answer have in common: its identifier, when it was made (in seconds), and by which
model. -/
structure Stamp where
  id : String
  created : Int
  model : String
  deriving DecidableEq, Repr

/-- Counts of tokens as a document. -/
def Usage.toJson (u : Usage) : Value :=
  .object [
    ("prompt_tokens", .int u.promptTokens.toNat),
    ("completion_tokens", .int u.completionTokens.toNat),
    ("total_tokens", .int u.totalTokens.toNat)]

/-- A message as a document. -/
def Message.toJson (m : Message) : Value :=
  .object [("role", .text m.role.name), ("content", .text m.content)]

namespace Stamp

/-- A whole answer as a document. -/
def completion (s : Stamp) (r : Reply) : Value :=
  .object [
    ("id", .text s.id),
    ("object", .text "chat.completion"),
    ("created", .int s.created),
    ("model", .text s.model),
    ("choices", .array [.object [
      ("index", .int 0),
      ("message", .object [("role", .text "assistant"), ("content", .text r.content)]),
      ("finish_reason", .text r.finishReason)]]),
    ("usage", r.usage.toJson)]

/-- An event of a streamed answer with one choice. -/
def event (s : Stamp) (delta choice tail : List (String × Value)) : Value :=
  .object ([
    ("id", .text s.id),
    ("object", .text "chat.completion.chunk"),
    ("created", .int s.created),
    ("model", .text s.model),
    ("choices", .array [.object ([("index", .int 0), ("delta", .object delta)] ++ choice)])] ++ tail)

/-- The first event of a streamed answer. -/
def role (s : Stamp) : Value :=
  s.event [("role", .text "assistant")] [] []

/-- The event for a piece of text. -/
def delta (s : Stamp) (content : String) : Value :=
  s.event [("content", .text content)] [] []

/-- The event that ends an answer. -/
def finish (s : Stamp) (reason : String) (usage : Option Usage) : Value :=
  s.event [] [("finish_reason", .text reason)]
    (match usage with
      | some u => [("usage", u.toJson)]
      | none => [])

end Stamp

/-- The list of models as a document. -/
def modelList (ids : List String) : Value :=
  .object [
    ("object", .text "list"),
    ("data", .array (ids.map fun id =>
      .object [("id", .text id), ("object", .text "model"), ("owned_by", .text "gateway")]))]

/-- An error as a document. -/
def errorDocument (message kind : String) : Value :=
  .object [("error", .object [("message", .text message), ("type", .text kind)])]

end ChatRace.Chat
