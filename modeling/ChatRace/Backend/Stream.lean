import ChatRace.Backend.Basic

/-!
# Held streams

A stream in the hands of a reader. Nothing comes unless it is pulled, and the connection stays open until
the reader drops the stream or has been told that it is at its end; the chunk that ends the answer does not
end the stream.
-/

namespace ChatRace

open Chat

/-- A stream with the items that have not been pulled. -/
structure Stream where
  line : Nat
  rest : List Item
  isOpen : Bool
  deriving DecidableEq, Repr

namespace Stream

/-- The stream behind the first unit of an attempt. -/
def held (line : Nat) (rest : List Item) : Stream := ⟨line, rest, true⟩

/-- What a reader of a stream is given: a chunk or an error, and when it comes. -/
structure Delivery where
  time : Nat
  value : Except BackendError Chunk

/-- Gives the connection up. -/
def drop (s : Stream) : Stream × List Traffic :=
  ({ s with isOpen := false }, if s.isOpen then [.released s.line] else [])

/-- Pulls an item: what it comes to, unless the stream ends or breaks, and the stream after it. -/
def next (now : Nat) (s : Stream) : Option Delivery × Stream × List Traffic :=
  match s.rest with
  | [] => (none, s.drop)
  | i :: rest =>
    let s := { s with rest := rest }
    let arrived := Traffic.pulled s.line
    match i.outcome with
    | .value c => (some ⟨now + i.delay, .ok c⟩, s, [arrived])
    | .failure e => (some ⟨now + i.delay, .error e⟩, s, [arrived])
    | .crash =>
      let (s, log) := { s with rest := [] }.drop
      (none, s, arrived :: log)

/-- What a reader gets who pulls at most a number of items, one as soon as the one before it has come. -/
structure Reading where
  /-- What has come. -/
  got : List Delivery
  /-- Whether the reader has been told that the stream is at its end. -/
  ended : Bool
  /-- When the reader stopped. -/
  time : Nat
  stream : Stream
  log : List Traffic

/-- Pulls at most `count` items and the end. -/
def readAtMost (now : Nat) (s : Stream) : Nat → Reading
  | 0 => ⟨[], false, now, s, []⟩
  | count + 1 =>
    match s.next now with
    | (none, s, log) => ⟨[], true, now, s, log⟩
    | (some d, s, log) =>
      let r := readAtMost d.time s count
      { r with got := d :: r.got, log := log ++ r.log }

/-- Pulls everything. -/
def readAll (now : Nat) (s : Stream) : Reading :=
  readAtMost now s (s.rest.length + 1)

end Stream

end ChatRace
