import ChatRace.Gateway.Setup

/-!
# A dry run

Answers one request for an answer, read from standard input, with the backends that the environment
configures, on a clock that starts at zero and never waits. Providers are not reached.
-/

namespace ChatRace.DryRun

/-- The variables that configure the gateway. -/
def variableNames : List String :=
  ["GATEWAY_BIND_ADDR", "GATEWAY_RACE_TIMEOUT_MS", "GATEWAY_BACKENDS", "GATEWAY_BACKEND_API_KEY",
    "GATEWAY_BACKEND_TIMEOUT_SECS"]

/-- The environment that some variables make. -/
def environment (set : List (String × String)) : Config.Environment := fun name =>
  (set.find? (·.1 == name)).map fun v => Text.toUtf8 v.2

/-- The request for an answer with a body, and a client who waits for all of it. -/
def client (identity : Identity) (body : String) : Client where
  request := ⟨"POST", Endpoint.chat.path, Http.Headers.empty.insert "content-type" "application/json",
    Text.toUtf8 body⟩
  identity := identity
  sent := 0
  patience := none
  room := none

/-- The network of a dry run: nobody answers. -/
def silence : Provider.Network := fun _ => .unanswered 0 false

/-- The answer to a body. -/
def answer (c : Config) (identity : Identity) (body : String) : Option Answer :=
  match ((Server.fresh (App.ofConfig silence c)).serve [client identity body]).1 with
  | [.answered a] => some a
  | _ => none

end ChatRace.DryRun

open ChatRace in
/-- Answers the request on standard input. -/
def main : IO UInt32 := do
  let set ← DryRun.variableNames.filterMapM fun name => do
    return (← IO.getEnv name).map fun value => (name, value)
  match Config.ofEnvironment (DryRun.environment set) with
  | .error f =>
    IO.eprintln ("Error: " ++ Text.literal f.message)
    return 1
  | .ok c =>
    let identity : Identity := ⟨Chat.requestId (← IO.rand 0 (2 ^ 128 - 1)),
      "chatcmpl-" ++ (Uuid.ofRandom (← IO.rand 0 (2 ^ 128 - 1))).text, 0⟩
    match DryRun.answer c identity (← (← IO.getStdin).getLine) with
    | none => return 1
    | some a =>
      IO.println a.body
      return if a.status = 200 then 0 else 1
