import ChatRace.Chat.Request
import ChatRace.Chat.Wire

/-!
# Requests to providers

The document that a provider gets for a request. Its keys stand in alphabetical order. A provider that is
asked for a stream is also asked for the usage at its end.
-/

namespace ChatRace.Provider

open Chat Json

/-- A parameter, or `null`. -/
def parameter (write : α → Value) : Option α → Value
  | some a => write a
  | none => .null

/-- A message with its keys in alphabetical order. -/
def message (m : Message) : Value :=
  .object [("content", .text m.content), ("role", .text m.role.name)]

/-- The document for a request. -/
def payload (r : BackendRequest) (stream : Bool) : Value :=
  .object ([
    ("max_tokens", parameter (fun n : UInt32 => .int n.toNat) r.generation.maxTokens),
    ("messages", .array (r.messages.map message)),
    ("model", .text r.model),
    ("stream", .bool stream)] ++
    (if stream then [("stream_options", .object [("include_usage", .bool true)])] else []) ++ [
    ("temperature", parameter .single r.generation.temperature),
    ("top_p", parameter .single r.generation.topP)])

end ChatRace.Provider
