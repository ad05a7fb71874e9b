import ChatRace.Attempt.Basic
import ChatRace.Backend.Registry
import ChatRace.Race.Error
import ChatRace.Turn

/-!
# Races

A race makes an attempt with every candidate at the same time, and is won by the first one that has a unit.
A candidate that fails is out; the race is lost when all are out, or at the deadline, which comes first at
its own instant. Once the race is decided every attempt but the winner's has given its connection up. A
`Race` advances in steps, each of which is the step of the attempt that is due first.
-/

namespace ChatRace

open Chat

/-- What has become of an attempt in a race. -/
inductive AttemptState where
  | pending
  | won
  | cancelled
  | failed
  deriving DecidableEq, Repr

/-- The name of a state. -/
def AttemptState.name : AttemptState → String
  | pending => "pending"
  | won => "won"
  | cancelled => "cancelled"
  | failed => "failed"

/-- An attempt in a race. -/
structure Entrant where
  attempt : Attempt
  state : AttemptState

/-- What is reported of an attempt once the race is won. -/
structure Report where
  backend : String
  state : AttemptState
  deriving DecidableEq, Repr

/-- A won race. -/
structure Victory where
  requestId : String
  winner : String
  /-- The line of the winner, on which the rest of a stream comes. -/
  line : Nat
  stream : Bool
  /-- How long after the start the winner had its unit. -/
  latency : Nat
  attempts : List Report
  unit : FirstUnit
  deriving DecidableEq, Repr

/-- The end of a race, and when it came. -/
structure Verdict where
  time : Nat
  result : Except RaceError Victory

/-- A race under way, with its failures last first. -/
structure Race where
  request : RaceRequest
  start : Nat
  /-- How long the race may take. -/
  limit : Nat
  entrants : List Entrant
  failures : List Failure

/-- A race that goes on, or its end. -/
inductive Progress where
  | running (r : Race)
  | decided (v : Verdict)

namespace Entrant

/-- Whether the attempt is still in the race. -/
def isPending (e : Entrant) : Bool := e.state = .pending

/-- When the attempt takes its next step, if it is still in the race. -/
def due? (e : Entrant) : Option Nat :=
  if e.isPending then e.attempt.due? else none

/-- Takes the attempt out of the race, if it is still in it. -/
def cancel (e : Entrant) : Entrant × List Traffic :=
  if e.isPending then
    let (a, log) := e.attempt.drop
    (⟨a, .cancelled⟩, log)
  else (e, [])

/-- What is reported of the attempt. -/
def report (e : Entrant) : Report := ⟨e.attempt.backend.name, e.state⟩

end Entrant

namespace Race

/-! ### The clock -/

/-- The entrant that takes its next step first; of several the foremost. -/
def turn? (r : Race) : Option (Turn Entrant) :=
  Turn.first? (·.due?) r.entrants

/-- The instant at which the race is lost if it is not over. -/
def deadline (r : Race) : Nat := r.start + r.limit

/-- When the race takes its next step. -/
def due (r : Race) : Nat :=
  match r.turn? with
  | some t => min t.due r.deadline
  | none => r.deadline

/-- Takes all attempts that are still in it out of the race. -/
def cancelAll (es : List Entrant) : List Entrant × List Traffic :=
  (es.map (·.cancel.1), es.flatMap (·.cancel.2))

/-! ### Steps -/

/-- Ends the race at its deadline. -/
def expire (r : Race) : Progress × List Traffic :=
  (.decided ⟨r.deadline, .error (.timeout (r.limit * 1000))⟩, (cancelAll r.entrants).2)

/-- Ends the race with the unit of the entrant whose turn it was. -/
def win (r : Race) (t : Turn Entrant) (a : Attempt) (unit : FirstUnit) : Progress × List Traffic :=
  let (es, log) := cancelAll (t.put ⟨a.take, .won⟩)
  (.decided ⟨t.due, .ok {
    requestId := r.request.requestId
    winner := a.backend.name
    line := a.backend.line
    stream := r.request.stream
    latency := t.due - r.start
    attempts := es.map (·.report)
    unit }⟩, log)

/-- Puts the entrant whose turn it was out of the race. -/
def fail (r : Race) (t : Turn Entrant) (a : Attempt) (error : BackendError) : Progress :=
  let es := t.put ⟨a.take, .failed⟩
  let failures := ⟨a.backend.name, error.message⟩ :: r.failures
  if es.any (·.isPending) then .running { r with entrants := es, failures }
  else .decided ⟨t.due, .error (.allFailed failures.reverse)⟩

/-- Takes the next step. -/
def step (r : Race) : Progress × List Traffic :=
  match r.turn? with
  | none => r.expire
  | some t =>
    if t.due < r.deadline then
      let (a, log) := t.chosen.attempt.step
      match a.result? with
      | none => (.running { r with entrants := t.put ⟨a, .pending⟩ }, log)
      | some (.ok unit) =>
        let (p, released) := r.win t a unit
        (p, log ++ released)
      | some (.error e) => (r.fail t a e, log)
    else r.expire

/-- What is released when the race is abandoned. -/
def abandon (r : Race) : List Traffic :=
  (cancelAll r.entrants).2

/-! ### Whole races -/

/-- The backends with some names, or the first name that no backend has. -/
def resolve (registry : Registry) : List String → Except RaceError (List Backend)
  | [] => .ok []
  | id :: ids =>
    match registry.get? id with
    | none => .error (.unknownBackend id)
    | some b =>
      match resolve registry ids with
      | .ok bs => .ok (b :: bs)
      | .error e => .error e

/-- The race of a request between some backends, before anything has been done. -/
def between (bs : List Backend) (limit now : Nat) (request : RaceRequest) : Race where
  request := request
  start := now
  limit := limit
  entrants := bs.map fun b => ⟨Attempt.create b (request.forBackend b.name), .pending⟩
  failures := []

/-- Makes all calls. -/
def launch (r : Race) : Race × List Traffic :=
  ({ r with entrants := r.entrants.map fun e => { e with attempt := (e.attempt.launch r.start).1 } },
    r.entrants.flatMap fun e => (e.attempt.launch r.start).2)

/-- Enters the candidates of a request for a race; it is over at once if one of them is unknown, or if there
is no time for any call. -/
def enter (registry : Registry) (limit now : Nat) (request : RaceRequest) : Except RaceError Race :=
  if request.candidates.isEmpty then .error .noCandidates
  else
    match resolve registry request.candidates with
    | .error e => .error e
    | .ok bs => if limit = 0 then .error (.timeout 0) else .ok (between bs limit now request)

/-- The most steps that the race can still take. -/
def work (r : Race) : Nat :=
  (r.entrants.map (·.attempt.work)).sum + 1

/-- Takes at most `steps` steps, and expires if they are not enough. -/
def runFor : Nat → Race → Verdict × List Traffic
  | 0, r => (⟨r.deadline, .error (.timeout (r.limit * 1000))⟩, r.abandon)
  | steps + 1, r =>
    match r.step with
    | (.decided v, log) => (v, log)
    | (.running r, log) =>
      let (v, rest) := runFor steps r
      (v, log ++ rest)

/-- Runs a race to its end. -/
def run (r : Race) : Verdict × List Traffic :=
  runFor r.work r

/-- The end of the race that a request asks for, and what happens on the lines until then. -/
def decide (registry : Registry) (limit now : Nat) (request : RaceRequest) : Verdict × List Traffic :=
  match enter registry limit now request with
  | .error e => (⟨now, .error e⟩, [])
  | .ok r =>
    let (r, calls) := r.launch
    let (v, log) := r.run
    (v, calls ++ log)

end Race

end ChatRace
