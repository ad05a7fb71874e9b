import ChatRace.Backend.Mock
import ChatRace.Config.Basic
import ChatRace.Gateway.Server
import ChatRace.Provider.Backend

/-!
# Setting up

The gateway that a configuration describes: its providers, or three mock backends if there are none.
-/

namespace ChatRace

/-- The mock backends of a gateway without providers. -/
def defaultMocks : List Mock := [
  { name := "mock-slow", latency := 360 },
  { name := "mock-medium", latency := 330 },
  { name := "mock-fast", latency := 300 }]

namespace App

/-- Backends, each made for the line that has its number. -/
def onLines (makers : List (Nat → Backend)) : List Backend :=
  makers.zipIdx.map fun (make, line) => make line

/-- How the backends of a configuration are made. -/
def makers (network : Provider.Network) (c : Config) (locate : Json.Locator) : List (Nat → Backend) :=
  if c.backends.isEmpty then defaultMocks.map (·.backend)
  else c.backends.map fun spec line => Provider.backend network ⟨spec.id, spec.baseUrl, c.apiKey⟩ line locate

/-- The gateway with some backends. -/
def ofBackends (bs : List Backend) (limit : Nat) (locate : Json.Locator := .mute) : App :=
  ⟨.ofList bs, limit, locate⟩

/-- The gateway that a configuration describes. -/
def ofConfig (network : Provider.Network) (c : Config) (locate : Json.Locator := .mute) : App :=
  ofBackends (onLines (makers network c locate)) c.raceTimeout locate

end App

end ChatRace
