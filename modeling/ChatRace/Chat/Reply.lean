import ChatRace.Chat.Message
import ChatRace.Text.Blank

/-!
# Replies

What a backend answers: a whole `Reply`, or a stream of `Chunk`s. Both carry the count of tokens, which is
estimated by words where a backend gives none.
-/

namespace ChatRace.Chat

/-- The numbers of tokens of a request and its answer. -/
structure Usage where
  promptTokens : UInt32
  completionTokens : UInt32
  totalTokens : UInt32
  deriving DecidableEq, Repr

namespace Usage

/-- The sum of two counts, or the largest count if it is greater. -/
def cappedAdd (a b : UInt32) : UInt32 :=
  if a.toNat + b.toNat < 2 ^ 32 then a + b else 0xFFFFFFFF

/-- The usage with the sum of both counts as the total. -/
def ofCounts (prompt completion : UInt32) : Usage :=
  ⟨prompt, completion, cappedAdd prompt completion⟩

/-- The estimated number of tokens of a text: the number of its words, if it is not blank. -/
def tokens (text : String) : UInt32 :=
  if Text.trim text = "" then 0 else (Text.words text).length.toUInt32

/-- The estimated number of tokens of a conversation. -/
def promptTokensOf (messages : List Message) : UInt32 :=
  (messages.map fun m => tokens m.content).foldl (· + ·) 0

/-- The estimated usage of a request and the answer to it. -/
def estimate (messages : List Message) (completion : String) : Usage :=
  ofCounts (promptTokensOf messages) (tokens completion)

end Usage

/-- A whole answer. -/
structure Reply where
  content : String
  finishReason : String
  usage : Usage
  deriving DecidableEq, Repr

/-- A piece of an answer. -/
structure Chunk where
  delta : Option String
  finishReason : Option String
  usage : Option Usage
  done : Bool
  deriving DecidableEq, Repr

namespace Chunk

/-- A piece of the text. -/
def content (delta : String) : Chunk :=
  ⟨some delta, none, none, false⟩

/-- The end of an answer. -/
def terminal (finishReason : String) (usage : Option Usage) : Chunk :=
  ⟨none, some finishReason, usage, true⟩

/-- The text that a chunk adds to the answer, if it adds any. -/
def text? (c : Chunk) : Option String :=
  c.delta.filter (fun d => !d.isEmpty)

/-- Whether a chunk adds text to the answer. -/
def hasContent (c : Chunk) : Bool :=
  c.text?.isSome

/-- Whether a chunk is of use to a client: it adds text or ends the answer. -/
def isUsable (c : Chunk) : Bool :=
  c.hasContent || c.done

end Chunk

end ChatRace.Chat
