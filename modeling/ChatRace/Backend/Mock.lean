import ChatRace.Backend.Basic

/-!
# Mock backends

Backends that greet the client after a fixed latency, word by word when they stream, and that can be made to
fail. Both modes tell the same: the stream's chunks are the words of the whole reply, and its last chunk
carries the same usage.
-/

namespace ChatRace

open Chat

/-- When a mock backend fails. -/
inductive FailureMode where
  | healthy
  /-- After its latency, without any output. -/
  | beforeFirstUnit
  /-- After the first chunk of a stream; a call for a whole reply fails. -/
  | midStream
  deriving DecidableEq, Repr

/-- A mock backend. -/
structure Mock where
  name : String := "mock-backend"
  latency : Nat := 0
  /-- The time between two chunks. -/
  chunkDelay : Nat := 50
  failure : FailureMode := .healthy

namespace Mock

/-- What a mock backend says. -/
def content (m : Mock) : String :=
  "Hello from " ++ m.name ++ "!"

/-- What a mock backend says when it fails. -/
def unavailable (m : Mock) : BackendError :=
  .unavailable (m.name ++ " is configured to fail")

/-- The words of a text, each but the first with a space in front of it. -/
def pieces (text : String) : List String :=
  match Text.words text with
  | [] => []
  | w :: ws => w :: ws.map (" " ++ ·)

/-- The whole reply to a request. -/
def reply (m : Mock) (r : BackendRequest) : Reply :=
  ⟨m.content, "stop", Usage.estimate r.messages m.content⟩

/-- The chunk that ends the stream for a request. -/
def lastItem (m : Mock) (r : BackendRequest) : Item :=
  ⟨0, .value (.terminal "stop" (some (m.reply r).usage))⟩

/-- The stream for a request, if it comes to one. -/
def items (m : Mock) (r : BackendRequest) : List Item :=
  match pieces m.content with
  | [] => [m.lastItem r]
  | p :: ps =>
    let first : Item := ⟨0, .value (.content p)⟩
    if m.failure = .midStream then [first, ⟨0, .failure m.unavailable⟩]
    else first :: ps.map (fun p => ⟨m.chunkDelay, .value (.content p)⟩) ++ [m.lastItem r]

/-- The mock backend on a line. -/
def backend (m : Mock) (line : Nat) : Backend where
  name := m.name
  line := line
  buffered := fun r =>
    ⟨m.latency, if m.failure = .healthy then .value (m.reply r) else .failure m.unavailable⟩
  streamed := fun r =>
    ⟨m.latency, if m.failure = .beforeFirstUnit then .failure m.unavailable else .value (m.items r)⟩

end Mock

end ChatRace
