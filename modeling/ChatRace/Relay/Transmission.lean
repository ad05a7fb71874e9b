import ChatRace.Relay.Event

/-!
# Transmissions

A streamed answer on its way to a client that takes each frame as soon as it is there. An item is pulled
only once the client has taken everything before it. While nothing is written a comment goes out every ten
seconds; an event that is ready at the same instant goes first. A client may stop after a number of frames,
which ends the transmission and with it the connection to the winner.
-/

namespace ChatRace

/-- A streamed answer on its way. -/
structure Transmission where
  /-- The line of the winner. -/
  line : Nat
  /-- What is still to be done; the first beat is being waited for. -/
  beats : List Relay.Beat
  /-- When the first beat comes. -/
  due : Nat
  /-- Since when nothing has been written. -/
  quiet : Nat
  /-- How many more frames the client takes, if it does not take all. -/
  room : Option Nat
  /-- Whether the connection to the winner is open. -/
  isOpen : Bool
  /-- The frames that the client has taken, last first, with the times. -/
  frames : List (Nat × String)

/-- How a transmission goes on. -/
inductive Transmission.Fate where
  | running (t : Transmission)
  /-- It is over; `complete` if the client has been told so. -/
  | ended (t : Transmission) (complete : Bool)

namespace Transmission

/-- The time after which a comment is written. -/
def keepAliveAfter : Nat := 10000

/-- The transmission of some beats that begins now. -/
def start (line now : Nat) (room : Option Nat) : List Relay.Beat → Transmission
  | [] => ⟨line, [], now, now, room, true, []⟩
  | b :: bs => ⟨line, b :: bs, now + b.delay, now, room, true, []⟩

/-- When the next step is taken. -/
def next (t : Transmission) : Nat :=
  min t.due (t.quiet + keepAliveAfter)

/-- Whether the client takes no more frames. -/
def isFull (t : Transmission) : Bool := t.room == some 0

/-- The connection to the winner ends, if it has not ended. -/
def close (t : Transmission) : Transmission × List Traffic :=
  ({ t with isOpen := false }, if t.isOpen then [.released t.line] else [])

/-- The client takes a frame. -/
def put (now : Nat) (text : String) (t : Transmission) : Transmission :=
  { t with frames := (now, text) :: t.frames, quiet := now, room := t.room.map (· - 1) }

/-- Does one thing. -/
def act (now : Nat) (t : Transmission) : Relay.Act → Transmission × List Traffic
  | .write data => (t.put now (Relay.frame data), [])
  | .pulled => (t, [.pulled t.line])
  | .release => t.close

/-- Does what is to be done, until the client takes no more. -/
def perform (now : Nat) (t : Transmission) : List Relay.Act → Transmission × List Traffic
  | [] => (t, [])
  | a :: rest =>
    if t.isFull then (t, [])
    else
      let (t, log) := t.act now a
      let (t, more) := perform now t rest
      (t, log ++ more)

/-- Goes on with the beats behind the first one, or ends. -/
def proceed (now : Nat) (t : Transmission) : Fate × List Traffic :=
  if t.isFull then
    let (t, log) := t.close
    (.ended t false, log)
  else
    match t.beats with
    | _ :: b :: rest => (.running { t with beats := b :: rest, due := now + b.delay }, [])
    | _ =>
      let (t, log) := t.close
      (.ended t true, log)

/-- Takes the next step: the first beat, or a comment. -/
def step (t : Transmission) : Fate × List Traffic :=
  if t.isFull then
    let (t, log) := t.close
    (.ended t false, log)
  else if t.due ≤ t.quiet + keepAliveAfter then
    let (u, log) := t.perform t.due (t.beats.head?.elim [] (·.acts))
    let (f, more) := u.proceed t.due
    (f, log ++ more)
  else
    let u := t.put (t.quiet + keepAliveAfter) Relay.keepAlive
    if u.isFull then
      let (u, log) := u.close
      (.ended u false, log)
    else (.running u, [])

/-- The text that the client has taken. -/
def body (t : Transmission) : String :=
  String.join (t.frames.reverse.map (·.2))

/-- The most steps that some beats take: each its own, the comments while it is waited for, and one more as
nothing need have been written at the beat before it. -/
def beatWork (bs : List Relay.Beat) : Nat :=
  (bs.map fun b => b.delay / keepAliveAfter + 2).sum

/-- The most steps that the beats for some items take, but for the end of the answer. -/
def itemWork (items : List Item) : Nat :=
  (items.map fun i => i.delay / keepAliveAfter + 2).sum

/-- The most steps that the transmission takes. -/
def work (t : Transmission) : Nat :=
  (t.due - t.quiet) / keepAliveAfter + beatWork t.beats.tail + 1

/-- Takes at most `steps` steps. -/
def runFor : Nat → Transmission → (Transmission × Bool × Nat) × List Traffic
  | 0, t => ((t, false, t.quiet), [])
  | steps + 1, t =>
    match t.step with
    | (.ended u complete, log) => ((u, complete, if t.isFull then t.quiet else t.next), log)
    | (.running u, log) =>
      let (r, rest) := runFor steps u
      (r, log ++ rest)

/-- Runs a transmission to its end: what the client has, whether it has been told that it is all, and when
it ended. -/
def run (t : Transmission) : (Transmission × Bool × Nat) × List Traffic :=
  runFor t.work t

end Transmission

end ChatRace
