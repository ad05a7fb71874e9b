import ChatRace.Chat.Reply

/-!
# Documents from providers

What a provider sends: a whole answer, or the events of a streamed one. Most fields may be missing.
-/

namespace ChatRace.Provider

open Chat Json

/-- The fields of a usage that have been read. -/
structure UsageDraft where
  promptTokens : Option UInt32
  completionTokens : Option UInt32
  totalTokens : Option UInt32

/-- A usage as providers send it. -/
def usageSchema : Record UsageDraft Usage where
  name := "OpenAiUsage"
  fields := [
    { key := "prompt_tokens", required := true, isSet := (·.promptTokens.isSome),
      read := fun v d => (Reader.word v).map fun x => { d with promptTokens := some x } },
    { key := "completion_tokens", required := true, isSet := (·.completionTokens.isSome),
      read := fun v d => (Reader.word v).map fun x => { d with completionTokens := some x } },
    { key := "total_tokens", required := true, isSet := (·.totalTokens.isSome),
      read := fun v d => (Reader.word v).map fun x => { d with totalTokens := some x } }]
  empty := ⟨none, none, none⟩
  finish := fun d =>
    match Record.require "prompt_tokens" d.promptTokens,
      Record.require "completion_tokens" d.completionTokens, Record.require "total_tokens" d.totalTokens with
    | .ok p, .ok c, .ok t => .ok ⟨p, c, t⟩
    | .error e, _, _ => .error e
    | _, .error e, _ => .error e
    | _, _, .error e => .error e

/-- The content of a message or of a piece of one. -/
structure ContentDraft where
  content : Option (Option String)

/-- A record of which only the content is of interest. -/
def contentSchema (name : String) : Record ContentDraft (Option String) where
  name := name
  fields := [
    { key := "content", required := false, isSet := (·.content.isSome),
      read := fun v _ => (Reader.optional Reader.text v).map fun x => ⟨some x⟩ }]
  empty := ⟨none⟩
  finish := fun d => .ok d.content.join

/-- One of the alternatives that a provider offers. -/
structure Choice where
  content : Option String
  finishReason : Option String
  deriving DecidableEq, Repr

/-- The fields of an alternative that have been read. -/
structure ChoiceDraft where
  content : Option (Option String)
  finishReason : Option (Option String)

/-- An alternative with its content under a key that may have to be there. -/
def choiceSchema (name key contentName : String) (required : Bool) : Record ChoiceDraft Choice where
  name := name
  fields := [
    { key := key, required := required, isSet := (·.content.isSome),
      read := fun v d => ((contentSchema contentName).reader v).map fun x => { d with content := some x } },
    { key := "finish_reason", required := false, isSet := (·.finishReason.isSome),
      read := fun v d => (Reader.optional Reader.text v).map fun x => { d with finishReason := some x } }]
  empty := ⟨none, none⟩
  finish := fun d =>
    match d.content, required with
    | none, true => .error (.missingField key)
    | c, _ => .ok ⟨c.join, d.finishReason.join⟩

/-- What a provider sends, whole or as an event. -/
structure Completion where
  choices : List Choice
  usage : Option Usage
  deriving DecidableEq, Repr

/-- The fields of a document that have been read. -/
structure CompletionDraft where
  choices : Option (List Choice)
  usage : Option (Option Usage)

/-- A document with a list of alternatives that may have to be there. -/
def completionSchema (name : String) (choice : Record ChoiceDraft Choice) (required : Bool) :
    Record CompletionDraft Completion where
  name := name
  fields := [
    { key := "choices", required := required, isSet := (·.choices.isSome),
      read := fun v d => (Reader.list choice.reader v).map fun x => { d with choices := some x } },
    { key := "usage", required := false, isSet := (·.usage.isSome),
      read := fun v d => (Reader.optional usageSchema.reader v).map fun x => { d with usage := some x } }]
  empty := ⟨none, none⟩
  finish := fun d =>
    match d.choices, required with
    | none, true => .error (.missingField "choices")
    | cs, _ => .ok ⟨cs.getD [], d.usage.join⟩

/-- A whole answer. -/
def answer : Record CompletionDraft Completion :=
  completionSchema "OpenAiChatResponse" (choiceSchema "OpenAiChoice" "message" "OpenAiMessage" true) true

/-- An event of a streamed answer. -/
def event : Record CompletionDraft Completion :=
  completionSchema "OpenAiStreamResponse" (choiceSchema "OpenAiStreamChoice" "delta" "OpenAiDelta" false)
    false

end ChatRace.Provider
