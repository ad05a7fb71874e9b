import ChatRace.Backend.Basic
import ChatRace.Provider.Document

/-!
# Reading streamed answers

The items in the body of a streamed answer. The body comes in frames that may be cut anywhere, so only whole
lines are read. A line with `data:` holds an event, or the mark that ends the answer. A malformed event is
an error item, a line that is no text ends the stream with one; otherwise the last item is a terminal chunk
with the first finish reason and the last usage that came.
-/

namespace ChatRace.Provider

open Chat

/-- The octets up to the first line feed and with it, and those behind it; nothing if there is none. -/
def cutLine? (octets : List UInt8) : Option (List UInt8 × List UInt8) :=
  (octets.findIdx? (· == 0x0A)).map fun i => (octets.take (i + 1), octets.drop (i + 1))

theorem cutLine?_cons (b : UInt8) (octets : List UInt8) :
    cutLine? (b :: octets) =
      if b = 0x0A then some ([b], octets) else (cutLine? octets).map fun cut => (b :: cut.1, cut.2) := by
  unfold cutLine?
  rw [List.findIdx?_cons]
  by_cases hb : b = 0x0A
  · simp [hb]
  · simp [hb, Function.comp_def]

/-- Nothing is lost where a line is cut off. -/
theorem length_of_cutLine?_eq_some {octets line rest : List UInt8} (h : cutLine? octets = some (line, rest)) :
    rest.length < octets.length := by
  obtain ⟨i, hi, hcut⟩ := Option.map_eq_some_iff.1 h
  obtain ⟨hlt, -⟩ := List.findIdx?_eq_some_iff_getElem.1 hi
  obtain ⟨-, rfl⟩ := Prod.mk.inj hcut
  rw [List.length_drop]
  omega

/-- A reader of a streamed answer: what tells places in events, the octets that have come and have not been read, and
what the terminal chunk will say. -/
structure EventReader where
  locate : Json.Locator
  buffer : List UInt8
  finishReason : Option String
  usage : Option Usage
  isOver : Bool

namespace EventReader

/-- A reader that has not read anything. -/
def fresh (locate : Json.Locator) : EventReader := ⟨locate, [], none, none, false⟩

/-- The terminal chunk. -/
def terminal (r : EventReader) : Outcome Chunk :=
  .value (.terminal (r.finishReason.getD "stop") r.usage)

/-- What an event adds to the answer. -/
def take (r : EventReader) (c : Completion) : EventReader × List (Outcome Chunk) :=
  let r := { r with usage := c.usage <|> r.usage }
  match c.choices.head? with
  | none => (r, [])
  | some choice =>
    ({ r with finishReason := r.finishReason <|> choice.finishReason },
      match choice.content.filter (fun t => !t.isEmpty) with
      | some t => [.value (.content t)]
      | none => [])

/-- The mark that ends an answer. -/
def doneMark : String := "[DONE]"

/-- The data of a line that holds an event. -/
def dataOf? (line : String) : Option String :=
  let cs := Text.trimChars line.toList
  if "data:".toList.isPrefixOf cs then some (String.ofList (Text.trimChars (cs.drop 5))) else none

/-- Takes a whole line. -/
def takeLine (r : EventReader) (octets : List UInt8) : EventReader × List (Outcome Chunk) :=
  match Text.decode octets with
  | .error f => ({ r with isOver := true }, [.failure (.invalidResponse f.message)])
  | .ok line =>
    match dataOf? line with
    | none => (r, [])
    | some data =>
      if data = doneMark then ({ r with isOver := true }, [r.terminal])
      else
        match Json.decode event.reader (Text.toUtf8 data) with
        | .error f => (r, [.failure (.invalidResponse (f.message r.locate (Text.toUtf8 data)))])
        | .ok c => r.take c

@[simp] theorem buffer_take (r : EventReader) (c : Completion) : (r.take c).1.buffer = r.buffer := by
  unfold take
  split <;> rfl

@[simp] theorem buffer_takeLine (r : EventReader) (octets : List UInt8) :
    (r.takeLine octets).1.buffer = r.buffer := by
  unfold takeLine
  split
  · rfl
  · split
    · rfl
    · split
      · rfl
      · split
        · rfl
        · exact buffer_take r _

/-- Reads the whole lines that have come, until one ends the answer. -/
def drain (r : EventReader) : EventReader × List (Outcome Chunk) :=
  if r.isOver then (r, [])
  else
    match _h : cutLine? r.buffer with
    | none => (r, [])
    | some (line, rest) =>
      let taken := takeLine { r with buffer := rest } line
      let more := taken.1.drain
      (more.1, taken.2 ++ more.2)
termination_by r.buffer.length
decreasing_by
  rw [buffer_takeLine]
  exact length_of_cutLine?_eq_some _h

/-- Octets come in. -/
def push (r : EventReader) (bytes : List UInt8) : EventReader :=
  { r with buffer := r.buffer ++ bytes }

/-- Takes the octets of a frame. -/
def feed (r : EventReader) (bytes : List UInt8) : EventReader × List (Outcome Chunk) :=
  (r.push bytes).drain

end EventReader

end ChatRace.Provider
