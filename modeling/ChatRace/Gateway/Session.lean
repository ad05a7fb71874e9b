import ChatRace.Gateway.Answer
import ChatRace.Gateway.Endpoint
import ChatRace.Gateway.Problem
import ChatRace.Metrics.Basic
import ChatRace.Race.Basic

/-!
# Sessions

A session is one request with its response. It advances in steps: the request is sent, the race that it asks
for goes on, the answer is transmitted. A client may give a request up that has not been answered after some
time. What a session does to the world around it, on the lines and to the metrics, is returned by each step
as a list of effects.
-/

namespace ChatRace

open Chat

/-- What all sessions share and none changes: the backends, how long a race may take, and what tells places in the
documents of clients. -/
structure App where
  registry : Registry
  limit : Nat
  locate : Json.Locator := .mute

/-- What a session does to the world around it. -/
inductive Effect where
  | line (t : Traffic)
  | observe (o : Metrics.Observation)

/-- A client's request, and how the client behaves. -/
structure Client where
  request : Http.Request
  identity : Identity
  /-- When the request is sent. -/
  sent : Nat
  /-- After how long the client gives the request up if there is no head. -/
  patience : Option Nat
  /-- How many frames of the body the client takes, if it does not take all. -/
  room : Option Nat

/-- How far a session is. -/
inductive Stage where
  | waiting
  | racing (stream : Bool) (race : Race)
  /-- The body of a streamed answer is on its way since `headTime`. -/
  | relaying (headers : Http.Headers) (headTime : Nat) (t : Transmission)
  | answered (a : Answer)
  /-- The client has given the request up. -/
  | aborted

/-- One request with its response. -/
structure Session where
  client : Client
  stage : Stage

namespace Session

/-- The instant at which the client gives the request up. -/
def giveUp? (s : Session) : Option Nat :=
  s.client.patience.map (s.client.sent + ·)

/-- The instant at which the client gives the request up, if that is before the race takes its next step; at
the same instant it is, unless the race is lost at that instant by its deadline. -/
def givesUpAt? (s : Session) (r : Race) : Option Nat :=
  s.giveUp?.filter fun t => t ≤ r.due && t < r.deadline

/-- When the session takes its next step, if it does. -/
def due? (s : Session) : Option Nat :=
  match s.stage with
  | .waiting => some s.client.sent
  | .racing _ r => some ((s.givesUpAt? r).getD r.due)
  | .relaying _ _ t => some t.next
  | .answered _ | .aborted => none

/-- Whether the session is over. -/
def isOver (s : Session) : Bool := s.due?.isNone

/-- The response with a whole body, as the client takes it. -/
def answerWith (s : Session) (now : Nat) (r : Http.Response) : Stage :=
  .answered (.whole s.client.room (now - s.client.sent) r)

/-- The response to a request that has been handled: its metrics, and the end of its handling. -/
def handled (s : Session) (now : Nat) (stream : Bool) (status : Nat) : List Effect :=
  let nanos := (now - s.client.sent) * 10 ^ 6
  [.observe (.request Endpoint.chat.path "POST" stream status nanos), .observe .leave]

/-- Answers with a problem. -/
def refuse (s : Session) (now : Nat) (stream : Bool) (p : Problem) : Session × List Effect :=
  ({ s with stage := s.answerWith now p.response },
    (p.raceFailure?.elim [] fun reason => [.observe (.raceFailure reason)]) ++ s.handled now stream p.status)

/-- Answers with what the winner of a race has. -/
def accept (s : Session) (now : Nat) (v : Victory) : Session × List Effect :=
  let effects := .observe (.race v.winner v.stream (v.latency * 10 ^ 6) (v.attempts.map (·.state))) ::
    s.handled now v.stream 200
  match WinnerResponse.ofUnit s.client.identity v.winner v.line now s.client.room v.unit with
  | .whole r => ({ s with stage := s.answerWith now r }, effects)
  | .streamed hs t => ({ s with stage := .relaying hs now t }, effects)

/-- Goes on after a step of the race. -/
def afterRace (s : Session) (stream : Bool) : Progress → Session × List Effect
  | .running r => ({ s with stage := .racing stream r }, [])
  | .decided ⟨now, .ok v⟩ => s.accept now v
  | .decided ⟨now, .error e⟩ => s.refuse now stream e.problem

/-- Handles a request for an answer. -/
def receive (app : App) (s : Session) (c : ClientRequest) : Session × List Effect :=
  let now := s.client.sent
  let (s, effects) : Session × List Effect :=
    match c.toRace s.client.identity.requestId with
    | .error r => s.refuse now c.stream (.badRequest r.message)
    | .ok request =>
      match Race.enter app.registry app.limit now request with
      | .error e => s.refuse now c.stream e.problem
      | .ok race =>
        if s.client.patience = some 0 then ({ s with stage := .aborted }, [.observe .leave])
        else
          let (race, calls) := race.launch
          ({ s with stage := .racing c.stream race }, calls.map .line)
  (s, .observe .enter :: effects)

/-- Handles a request. -/
def arrive (app : App) (metrics : Metrics) (s : Session) : Session × List Effect :=
  let r := s.client.request
  let now := s.client.sent
  let answer (response : Http.Response) : Session × List Effect :=
    let response := if r.method = "HEAD" then { response with body := "" } else response
    ({ s with stage := s.answerWith now response }, [])
  match Endpoint.find r with
  | .error response => answer response
  | .ok .health => answer (.plain 200 "ok")
  | .ok .metrics => answer (.typed 200 "text/plain; version=0.0.4; charset=utf-8" metrics.render)
  | .ok .models => answer (.json 200 (modelList app.registry.ids))
  | .ok .chat =>
    match ClientRequest.ofBody r with
    | .error f => answer (f.response app.locate r.body)
    | .ok c => s.receive app c

/-- Takes the next step; a request for the metrics gets them as they are now. -/
def step (app : App) (metrics : Metrics) (s : Session) : Session × List Effect :=
  match s.stage with
  | .waiting => s.arrive app metrics
  | .racing stream r =>
    if (s.givesUpAt? r).isSome then
      ({ s with stage := .aborted }, r.abandon.map .line ++ [.observe .leave])
    else
      let (p, log) := r.step
      let (s, effects) := s.afterRace stream p
      (s, log.map .line ++ effects)
  | .relaying headers headTime t =>
    match t.step with
    | (.running t, log) => ({ s with stage := .relaying headers headTime t }, log.map .line)
    | (.ended u complete, log) =>
      let ended := if t.isFull then t.quiet else t.next
      let a := Answer.streamed headers u complete (headTime - s.client.sent) (ended - s.client.sent) s.client.sent
      ({ s with stage := .answered a }, log.map .line)
  | .answered _ | .aborted => (s, [])

/-! ### How long it can take -/

/-- The most steps that the answer to a race can take: those for the items that may still come, and three for its
beginning and its end. -/
def relayWork (r : Race) : Nat :=
  (r.entrants.map fun e => Transmission.itemWork e.attempt.ahead).sum + 3

/-- The most steps that a stage can take once the request has been sent. -/
def stageWork : Stage → Nat
  | .racing _ r => r.work + relayWork r
  | .relaying _ _ t => t.work
  | .waiting | .answered _ | .aborted => 0

/-- The most steps that a session can take. -/
def work (app : App) (s : Session) : Nat :=
  match s.stage with
  | .waiting => stageWork (s.arrive app .empty).1.stage + 1
  | stage => stageWork stage

end Session

end ChatRace
