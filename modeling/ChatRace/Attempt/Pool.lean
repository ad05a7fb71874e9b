import ChatRace.Attempt.Basic
import ChatRace.Backend.Stream

/-!
# Attempts side by side

A `Pool` holds attempts and streams by their identifiers, all on one clock. Its operations wait for what
they ask for, and meanwhile all attempts advance. An attempt can be cancelled also after its handle has been
dropped.
-/

namespace ChatRace

open Chat

/-- An attempt in a pool, and whether its handle has not been dropped. -/
structure Pool.Handle where
  attempt : Attempt
  isHeld : Bool

/-- Attempts and streams on one clock. -/
structure Pool where
  now : Nat
  handles : List (String × Pool.Handle)
  streams : List (String × Stream)
  log : List Traffic

namespace Pool

/-- Nothing yet. -/
def empty : Pool := ⟨0, [], [], []⟩

/-- What is stored under an identifier. -/
def find? (id : String) (xs : List (String × α)) : Option α :=
  (xs.find? (·.1 == id)).map (·.2)

/-- Stores something under an identifier, in place of what is there. -/
def put (id : String) (a : α) (xs : List (String × α)) : List (String × α) :=
  (id, a) :: xs.filter (·.1 != id)

/-- Adds what has happened on the lines. -/
def record (p : Pool) (log : List Traffic) : Pool := { p with log := p.log ++ log }

/-- Lets time pass; what is due at `time` has happened then. -/
def passTo (time : Nat) (p : Pool) : Pool :=
  { p with
    now := max p.now time
    handles := p.handles.map fun (id, h) => (id, { h with attempt := (h.attempt.runUntil time).1 })
    log := p.log ++ p.handles.flatMap fun (_, h) => (h.attempt.runUntil time).2 }

/-- Lets happen what is due now. -/
def settle (p : Pool) : Pool := p.passTo p.now

/-! ### Streams -/

/-- Drops a stream; whether there was one. -/
def dropStream (id : String) (p : Pool) : Bool × Pool :=
  match find? id p.streams with
  | none => (false, p)
  | some s => (true, ({ p with streams := p.streams.filter (·.1 != id) } : Pool).record s.drop.2)

/-- Holds a stream under an identifier. -/
def hold (id : String) (s : Stream) (p : Pool) : Pool :=
  let (_, p) := p.dropStream id
  { p with streams := put id s p.streams }

/-- What comes when the next item of a stream is pulled; nothing if the stream is at its end. -/
def next (id : String) (p : Pool) : Option Stream.Delivery × Pool :=
  match find? id p.streams with
  | none => (none, p)
  | some s =>
    let (d, s, log) := s.next p.now
    let p := ({ p with streams := put id s p.streams } : Pool).record log
    (d, p.passTo (d.elim p.now (·.time)))

/-- Everything that comes when a stream is pulled to its end, and whether it came there. -/
def drain (id : String) (p : Pool) : (List Stream.Delivery × Bool) × Pool :=
  match find? id p.streams with
  | none => (([], false), p)
  | some s =>
    let r := s.readAll p.now
    let p := ({ p with streams := put id r.stream p.streams } : Pool).record r.log
    ((r.got, r.ended), p.passTo r.time)

/-! ### Attempts -/

/-- Drops the handle of an attempt; whether there was one. -/
def drop (id : String) (p : Pool) : Bool × Pool :=
  match find? id p.handles with
  | some ⟨a, true⟩ =>
    let (a, log) := a.drop
    (true, ({ p with handles := put id ⟨a, false⟩ p.handles } : Pool).record log)
  | _ => (false, p)

/-- Makes an attempt whose call has not been made. -/
def spawn (id : String) (b : Backend) (r : BackendRequest) (p : Pool) : Pool :=
  let (_, p) := p.drop id
  { p with handles := put id ⟨.create b r, true⟩ p.handles }

/-- Makes the call of an attempt, if it has not been made. -/
def start (id : String) (p : Pool) : Pool :=
  match find? id p.handles with
  | none => p
  | some h =>
    match h.attempt.phase with
    | .queued =>
      let (a, log) := h.attempt.launch p.now
      ({ p with handles := put id { h with attempt := a } p.handles } : Pool).record log |>.settle
    | _ => p

/-- Starts an attempt. -/
def invoke (id : String) (b : Backend) (r : BackendRequest) (p : Pool) : Pool :=
  (p.spawn id b r).start id

/-- Waits for the first unit of an attempt and takes it; the rest of a stream is held under the same
identifier. -/
def firstUnit (id : String) (p : Pool) : Option (Except BackendError FirstUnit) × Pool :=
  let p := p.start id
  match find? id p.handles with
  | none => (none, p)
  | some h =>
    let p := p.passTo (((h.attempt.alone p.now).map (·.1)).getD p.now)
    match find? id p.handles with
    | none => (none, p)
    | some h =>
      let p := { p with handles := put id { h with attempt := h.attempt.take } p.handles }
      match h.attempt.result? with
      | some (.ok (.streamed c rest)) =>
        (some (.ok (.streamed c rest)), p.hold id (.held h.attempt.backend.line rest))
      | r => (r, p)

/-- Cancels an attempt, whether its handle is still held or not, and names its backend. -/
def cancel (id : String) (p : Pool) : Option String × Pool :=
  match find? id p.handles with
  | none => (none, p)
  | some h =>
    let (a, log) := h.attempt.cancel
    (some a.backend.name, ({ p with handles := put id { h with attempt := a } p.handles } : Pool).record log)

/-! ### Calls -/

/-- Calls a backend for a whole reply and waits for it. -/
def execute (b : Backend) (r : BackendRequest) (p : Pool) : Outcome Reply × Pool :=
  let course := b.buffered r
  let p := p.record [.called b.line r, .released b.line]
  (course.outcome, p.passTo (p.now + course.latency))

/-- Calls a backend for a stream, waits until it is open, and holds it under an identifier; the error, if it
does not open. -/
def openStream (id : String) (b : Backend) (r : BackendRequest) (p : Pool) : Outcome Unit × Pool :=
  let course := b.streamed r
  let p := (p.record [.called b.line r]).passTo (p.now + course.latency)
  match course.outcome with
  | .value items => (.value (), p.hold id (.held b.line items))
  | .failure e => (.failure e, p.record [.released b.line])
  | .crash => (.crash, p.record [.released b.line])

/-- Waits. -/
def sleep (ms : Nat) (p : Pool) : Pool :=
  p.passTo (p.now + ms)

end Pool

end ChatRace
