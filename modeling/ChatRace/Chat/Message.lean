import ChatRace.Json.Decode

/-!
# Messages

What a conversation consists of: messages with a role, and the parameters of the answer that is asked for.
-/

namespace ChatRace.Chat

open Json

/-- Who speaks. -/
inductive Role where
  | system
  | user
  | assistant
  | tool
  deriving DecidableEq, Repr

namespace Role

/-- The name of a role in requests and answers. -/
def name : Role → String
  | system => "system"
  | user => "user"
  | assistant => "assistant"
  | tool => "tool"

/-- All roles, in the order in which they are listed. -/
def all : List Role := [system, user, assistant, tool]

/-- The role with a name. -/
def ofName? (s : String) : Option Role :=
  all.find? (·.name == s)

@[simp] theorem ofName?_name (r : Role) : ofName? r.name = some r := by
  cases r <;> rfl

/-- Reads a role. -/
def reader : Reader Role := fun v =>
  match Reader.variant (all.map name) v with
  | .error f => .error f
  | .ok s =>
    match ofName? s with
    | some r => .ok r
    | none => fail (.unknownVariant s (all.map name))

end Role

/-- One message of a conversation. -/
structure Message where
  role : Role
  content : String
  deriving DecidableEq, Repr

namespace Message

/-- The fields of a message that have been read. -/
structure Draft where
  role : Option Role
  content : Option String

/-- Messages as documents hold them. -/
def schema : Record Draft Message where
  name := "OpenAiMessage"
  fields := [
    { key := "role", required := true, isSet := (·.role.isSome),
      read := fun v d => (Role.reader v).map fun x => { d with role := some x } },
    { key := "content", required := true, isSet := (·.content.isSome),
      read := fun v d => (Reader.text v).map fun x => { d with content := some x } }]
  empty := ⟨none, none⟩
  finish := fun d =>
    match Record.require "role" d.role, Record.require "content" d.content with
    | .ok role, .ok content => .ok ⟨role, content⟩
    | .error c, _ => .error c
    | _, .error c => .error c

/-- Reads a message. -/
def reader : Reader Message := schema.reader

end Message

/-- The parameters of an answer; an absent one is left to the backend. -/
structure Generation where
  maxTokens : Option UInt32
  temperature : Option Float32
  topP : Option Float32

/-- No parameter is given. -/
def Generation.free : Generation := ⟨none, none, none⟩

end ChatRace.Chat
