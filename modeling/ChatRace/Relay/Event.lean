import ChatRace.Backend.Stream
import ChatRace.Chat.Wire
import ChatRace.Text.Blank

/-!
# Events of a streamed answer

How the items of the winner's stream become server-sent events. The events begin with the role; each piece
of text makes one; a chunk that ends the answer, an error, or the end of the stream makes the last but one;
and `[DONE]` comes last. Items behind the one that ends the answer are not looked at. `beats` lists what is
done item by item, each with the time that the item takes.
-/

namespace ChatRace.Relay

open Chat

/-! ### The text of an event -/

/-- Whether a text can be the data of an event. -/
def isData (s : String) : Bool :=
  !s.toList.contains '\r'

/-- An event: each line of its data in a line of its own, and a blank line. -/
def frame (data : String) : String :=
  String.join ((Text.split (· == '\n') data.toList).map fun l => "data: " ++ String.ofList l ++ "\n") ++ "\n"

/-- The comment that is sent when there has been no event for a while. -/
def keepAlive : String := ":\n\n"

/-! ### From items to events -/

/-- What is done in the course of an answer. -/
inductive Act where
  /-- An event with some data is written. -/
  | write (data : String)
  /-- An item of the stream has come. -/
  | pulled
  /-- The connection to the winner is given up. -/
  | release
  deriving DecidableEq, Repr

/-- The data of the last event. -/
def doneMark : String := "[DONE]"

/-- The event for the text of a chunk, if it has any. -/
def textActs (s : Stamp) (c : Chunk) : List Act :=
  match c.text? with
  | some t => [.write (s.delta t).render]
  | none => []

/-- The end of an answer after a chunk that ends it. -/
def doneActs (s : Stamp) (c : Chunk) : List Act :=
  [.write (s.finish (c.finishReason.getD "stop") c.usage).render, .release, .write doneMark]

/-- The end of an answer after an error. -/
def errorActs (e : BackendError) : List Act :=
  [.write (errorDocument e.message "backend_error").render, .release, .write doneMark]

/-- The end of an answer whose stream is at its end. -/
def closeActs (s : Stamp) : List Act :=
  [.release, .write (s.finish "stop" none).render, .write doneMark]

/-- What is done once an item has come that takes `delay`. -/
structure Beat where
  delay : Nat
  acts : List Act
  deriving DecidableEq, Repr

/-- What is done for the items of a stream. -/
def itemBeats (s : Stamp) : List Item → List Beat
  | [] => [⟨0, closeActs s⟩]
  | i :: rest =>
    match i.outcome with
    | .value c =>
      if c.done then [⟨i.delay, .pulled :: textActs s c ++ doneActs s c⟩]
      else ⟨i.delay, .pulled :: textActs s c⟩ :: itemBeats s rest
    | .failure e => [⟨i.delay, .pulled :: errorActs e⟩]
    | .crash => [⟨i.delay, [.pulled, .release]⟩]

/-- What is done for the first chunk, which has come already, and the items after it. -/
def beats (s : Stamp) (first : Chunk) (rest : List Item) : List Beat :=
  let acts := .write s.role.render :: textActs s first
  if first.done then [⟨0, acts ++ doneActs s first⟩] else ⟨0, acts⟩ :: itemBeats s rest

/-- The data of the events of an answer. -/
def payloads (s : Stamp) (first : Chunk) (rest : List Item) : List String :=
  (beats s first rest).flatMap fun b => b.acts.filterMap fun
    | .write data => some data
    | _ => none

end ChatRace.Relay
