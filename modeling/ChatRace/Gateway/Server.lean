import ChatRace.Gateway.Session

/-!
# Serving

Many sessions on one clock. The session that is due first takes its next step; of several the one that has
waited longest. All of them share the lines to the backends and the metrics, and see nothing else of each
other.
-/

namespace ChatRace

/-- A gateway at work: what has happened on the lines, the metrics, and the time. -/
structure Server where
  app : App
  log : List Traffic
  metrics : Metrics
  now : Nat

namespace Server

/-- A gateway that has not done anything. -/
def fresh (app : App) : Server := ⟨app, [], .empty, 0⟩

/-- Takes an effect of a session. -/
def absorb (srv : Server) : Effect → Server
  | .line t => { srv with log := srv.log ++ [t] }
  | .observe o => { srv with metrics := srv.metrics.observe o }

/-- Lets a session take the step that is due. -/
def advance (srv : Server) (due : Nat) (s : Session) : Session × Server :=
  let (s, effects) := s.step srv.app srv.metrics
  (s, effects.foldl absorb { srv with now := max srv.now due })

/-- Takes at most `steps` steps of some sessions, each with a number; whoever takes a step goes to the end
of the queue. -/
def runFor : Nat → Server → List (Nat × Session) → List (Nat × Session) × Server
  | 0, srv, queue => (queue, srv)
  | steps + 1, srv, queue =>
    match Turn.first? (fun q => q.2.due?) queue with
    | none => (queue, srv)
    | some t =>
      let (s, srv) := srv.advance t.due t.chosen.2
      runFor steps srv (t.before ++ t.after ++ [(t.chosen.1, s)])

/-- Serves some clients until all of them have an answer or have given up; how their sessions end, in their
order. -/
def serve (srv : Server) (clients : List Client) : List Stage × Server :=
  let sessions : List Session := clients.map (⟨·, .waiting⟩)
  let work := (sessions.map (·.work srv.app)).sum
  let (queue, srv) := srv.runFor work ((List.range sessions.length).zip sessions)
  let ends := queue.mergeSort (fun a b => a.1 ≤ b.1)
  (ends.map (·.2.stage), srv)

/-- The number of open connections on a line. -/
def openOn (srv : Server) (line : Nat) : Nat :=
  Traffic.openOn line srv.log

end Server

end ChatRace
