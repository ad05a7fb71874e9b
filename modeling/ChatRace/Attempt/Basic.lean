import ChatRace.Backend.Basic

/-!
# Attempts

An attempt is one call to one backend, made for the first unit of output that is of use: the whole reply, or
the first chunk that adds text or ends the answer together with the rest of the stream. It advances in
steps, each at its due time. The unit lies ready until it is taken; an attempt that is cancelled before it
has one never gets one.
-/

namespace ChatRace

open Chat

/-- The first output of an attempt that is of use. -/
inductive FirstUnit where
  | buffered (r : Reply)
  /-- A chunk and the items of the stream that have not been pulled. -/
  | streamed (first : Chunk) (rest : List Item)
  deriving DecidableEq, Repr

/-- How far an attempt is. -/
inductive Phase where
  /-- The call has not been made yet. -/
  | queued
  /-- The call has been made, and its course is over at `due`. -/
  | calling (due : Nat)
  /-- An item of the stream has been pulled and comes at `due`. -/
  | pulling (item : Item) (rest : List Item) (due : Nat)
  /-- The result lies ready. -/
  | holding (result : Except BackendError FirstUnit)
  /-- The result has been taken. -/
  | spent

/-- One call to one backend. -/
structure Attempt where
  backend : Backend
  request : BackendRequest
  phase : Phase

namespace Attempt

/-- The error of an attempt that ends without any result. -/
def lost (a : Attempt) : BackendError :=
  .unavailable ("attempt against " ++ a.backend.name ++ " ended without a result")

/-- The error of an attempt whose stream ends too early. -/
def closedEarly (a : Attempt) : BackendError :=
  .invalidResponse (a.backend.name ++ " closed its stream before the first chunk")

/-- An attempt of which nothing has been done yet. -/
def create (b : Backend) (r : BackendRequest) : Attempt := ⟨b, r, .queued⟩

/-- How long the call takes. -/
def latency (a : Attempt) : Nat :=
  if a.request.stream then (a.backend.streamed a.request).latency else (a.backend.buffered a.request).latency

/-- Makes the call, if it has not been made. -/
def launch (now : Nat) (a : Attempt) : Attempt × List Traffic :=
  match a.phase with
  | .queued => ({ a with phase := .calling (now + a.latency) }, [.called a.backend.line a.request])
  | _ => (a, [])

/-- When the attempt takes its next step, if it does. -/
def due? (a : Attempt) : Option Nat :=
  match a.phase with
  | .calling due | .pulling _ _ due => some due
  | .queued | .holding _ | .spent => none

/-- Ends the call with a result for which no connection is needed. -/
def settle (a : Attempt) (result : Except BackendError FirstUnit) : Attempt × List Traffic :=
  ({ a with phase := .holding result }, [.released a.backend.line])

/-- Pulls the next item. -/
def pull (now : Nat) (a : Attempt) : List Item → Attempt × List Traffic
  | [] => a.settle (.error a.closedEarly)
  | i :: rest => ({ a with phase := .pulling i rest (now + i.delay) }, [])

/-- What a call comes to. -/
def answered (now : Nat) (a : Attempt) : Attempt × List Traffic :=
  if a.request.stream then
    match (a.backend.streamed a.request).outcome with
    | .value items => a.pull now items
    | .failure e => a.settle (.error e)
    | .crash => a.settle (.error a.lost)
  else
    match (a.backend.buffered a.request).outcome with
    | .value r => a.settle (.ok (.buffered r))
    | .failure e => a.settle (.error e)
    | .crash => a.settle (.error a.lost)

/-- What an item comes to. -/
def arrived (now : Nat) (a : Attempt) (item : Item) (rest : List Item) : Attempt × List Traffic :=
  let (a, log) :=
    match item.outcome with
    | .value c =>
      if c.isUsable then ({ a with phase := .holding (.ok (.streamed c rest)) }, []) else a.pull now rest
    | .failure e => a.settle (.error e)
    | .crash => a.settle (.error a.lost)
  (a, .pulled a.backend.line :: log)

/-- Takes the step that is due. -/
def step (a : Attempt) : Attempt × List Traffic :=
  match a.phase with
  | .calling due => a.answered due
  | .pulling item rest due => a.arrived due item rest
  | .queued | .holding _ | .spent => (a, [])

/-- The result, if it lies ready. -/
def result? (a : Attempt) : Option (Except BackendError FirstUnit) :=
  match a.phase with
  | .holding r => some r
  | _ => none

/-- Takes the result away. -/
def take (a : Attempt) : Attempt := { a with phase := .spent }

/-- Stops an attempt that has no result yet. -/
def cancel (a : Attempt) : Attempt × List Traffic :=
  match a.phase with
  | .queued => ({ a with phase := .holding (.error a.lost) }, [])
  | .calling _ | .pulling _ _ _ => a.settle (.error a.lost)
  | .holding _ | .spent => (a, [])

/-- Stops an attempt and throws its result away. -/
def drop (a : Attempt) : Attempt × List Traffic :=
  match a.phase with
  | .calling _ | .pulling _ _ _ | .holding (.ok (.streamed _ _)) => (a.take, [.released a.backend.line])
  | .queued | .holding _ | .spent => (a.take, [])

/-- The most steps that a stream can take. -/
def streamWork (items : List Item) : Nat := items.length + 1

/-- The most steps that the attempt can still take. -/
def work (a : Attempt) : Nat :=
  match a.phase with
  | .queued | .calling _ =>
    1 + match (a.backend.streamed a.request).outcome with
      | .value items => streamWork items
      | _ => 0
  | .pulling _ rest _ => streamWork rest
  | .holding _ | .spent => 0

/-- The items of the stream that may still be pulled. -/
def ahead (a : Attempt) : List Item :=
  match a.phase with
  | .queued | .calling _ =>
    match (a.backend.streamed a.request).outcome with
    | .value items => items
    | _ => []
  | .pulling _ rest _ | .holding (.ok (.streamed _ rest)) => rest
  | .holding _ | .spent => []

/-- Takes at most `steps` steps, all that are due by `time`. -/
def stepUntil (time : Nat) : Nat → Attempt → Attempt × List Traffic
  | 0, a => (a, [])
  | steps + 1, a =>
    match a.due? with
    | none => (a, [])
    | some due =>
      if due ≤ time then
        let (a, log) := a.step
        let (a, rest) := stepUntil time steps a
        (a, log ++ rest)
      else (a, [])

/-- Takes all steps that are due by `time`. -/
def runUntil (time : Nat) (a : Attempt) : Attempt × List Traffic :=
  stepUntil time a.work a

/-- The result of an attempt that takes at most `steps` steps, and when it has it. -/
def resultWithin : Nat → Nat → Attempt → Option (Nat × Except BackendError FirstUnit)
  | 0, now, a => a.result?.map fun r => (now, r)
  | steps + 1, now, a =>
    match a.due? with
    | none => a.result?.map fun r => (now, r)
    | some due => resultWithin steps due a.step.1

/-- The result of an attempt that nobody stops, and when it has it; `now` if it has it already. -/
def alone (now : Nat) (a : Attempt) : Option (Nat × Except BackendError FirstUnit) :=
  resultWithin a.work now a

end Attempt

end ChatRace
