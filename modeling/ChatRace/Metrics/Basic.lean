import ChatRace.Metrics.Family
import ChatRace.Race.Basic

/-!
# Metrics

What the gateway counts: the requests it has answered and how long they took, the requests under way, the
races that were won and by whom, those that were lost and why, and what became of the attempts of the races
that were won.
-/

namespace ChatRace

/-- The numbers that the gateway keeps. -/
structure Metrics where
  requests : Metrics.Family Nat
  durations : Metrics.Family Metrics.Histogram
  inflight : Nat
  races : Metrics.Family Nat
  raceFailures : Metrics.Family Nat
  raceAttempts : Metrics.Family Nat
  firstUnits : Metrics.Family Metrics.Histogram

namespace Metrics

/-- The bounds for the durations of requests, in seconds. -/
def durationBounds : List Float := [0.005, 0.01, 0.025, 0.05, 0.1, 0.25, 0.5, 1, 2.5, 5, 10]

/-- The bounds for the times to the first unit, in seconds. -/
def firstUnitBounds : List Float := [0.05, 0.1, 0.25, 0.5, 1, 2.5, 5, 10, 30]

/-- Nothing has happened yet. -/
def empty : Metrics where
  requests := .empty "gateway_http_requests_total" "Total HTTP requests processed by gateway"
    ["path", "method", "status", "stream"]
  durations := .empty "gateway_http_request_duration_seconds" "HTTP request latency in seconds"
    ["path", "method", "stream"]
  inflight := 0
  races := .empty "gateway_races_total" "Decided races by winning backend" ["winner", "stream"]
  raceFailures := .empty "gateway_race_failures_total" "Races that produced no winner, by reason" ["reason"]
  raceAttempts := .empty "gateway_race_attempts_total" "Race attempts by final state" ["outcome"]
  firstUnits := .empty "gateway_race_first_unit_seconds"
    "Time from race start to the winner's first usable unit" ["stream"]

/-- A duration of some nanoseconds in seconds. -/
def seconds (nanos : Nat) : Float :=
  (nanos / 10 ^ 9).toFloat + (nanos % 10 ^ 9).toFloat / 1e9

/-- A truth value as the value of a label. -/
def flag (b : Bool) : String := if b then "true" else "false"

/-- What the metrics are told. -/
inductive Observation where
  | request (path method : String) (stream : Bool) (status nanos : Nat)
  | race (winner : String) (stream : Bool) (nanos : Nat) (attempts : List AttemptState)
  | raceFailure (reason : String)
  /-- A request is under way. -/
  | enter
  /-- A request is under way no longer. -/
  | leave

/-- Counts one more. -/
def Family.count (values : List String) (fam : Family Nat) : Family Nat :=
  fam.update 0 (· + 1) values

/-- Adds a value to a histogram of a family. -/
def Family.observe (bounds : List Float) (x : Float) (values : List String) (fam : Family Histogram) :
    Family Histogram :=
  fam.update (.empty bounds) (·.observe x) values

/-- Takes one observation. -/
def observe (m : Metrics) : Observation → Metrics
  | .request path method stream status nanos =>
    { m with
      requests := m.requests.count [path, method, toString status, flag stream]
      durations := m.durations.observe durationBounds (seconds nanos) [path, method, flag stream] }
  | .race winner stream nanos attempts =>
    { m with
      races := m.races.count [winner, flag stream]
      firstUnits := m.firstUnits.observe firstUnitBounds (seconds nanos) [flag stream]
      raceAttempts := attempts.foldl (fun fam s => fam.count [s.name]) m.raceAttempts }
  | .raceFailure reason => { m with raceFailures := m.raceFailures.count [reason] }
  | .enter => { m with inflight := m.inflight + 1 }
  | .leave => { m with inflight := m.inflight - 1 }

/-- The metrics in the text format, the families by their names. -/
def render (m : Metrics) : String :=
  Format.histograms m.durations ++ Format.counters m.requests ++
    Format.gauge "gateway_inflight_requests" "Current in-flight requests at gateway" m.inflight ++
    Format.counters m.raceAttempts ++ Format.counters m.raceFailures ++ Format.histograms m.firstUnits ++
    Format.counters m.races

end Metrics

end ChatRace
