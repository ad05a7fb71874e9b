import ChatRace.Config.Address
import ChatRace.Text.Blank
import ChatRace.Text.Utf8

/-!
# Configuration

What the gateway is told by its environment. A variable that is not set, is no text or makes no sense leaves
the default in force; only a malformed list of backends is an error.
-/

namespace ChatRace

/-- A provider and the name under which it is a backend. -/
structure BackendSpec where
  id : String
  baseUrl : String
  deriving DecidableEq, Repr

/-- What is wrong with a list of backends. -/
inductive ConfigFault where
  /-- An entry without an equals sign. -/
  | noUrl (entry : String)
  /-- An entry with nothing before or behind the equals sign. -/
  | emptyPart (entry : String)
  | duplicate (id : String)
  deriving DecidableEq, Repr

/-- The description of a fault. -/
def ConfigFault.message : ConfigFault → String
  | noUrl e => "backend entry `" ++ e ++ "` must look like id=base_url"
  | emptyPart e => "backend entry `" ++ e ++ "` has an empty id or url"
  | duplicate id => "backend `" ++ id ++ "` is configured twice"

namespace BackendSpec

/-- Reads one entry. -/
def ofEntry (entry : String) : Except ConfigFault BackendSpec :=
  let cs := entry.toList
  match cs.dropWhile (· != '=') with
  | [] => .error (.noUrl entry)
  | _ :: url =>
    let id := Text.trimChars (cs.takeWhile (· != '='))
    let url := Text.trimChars url
    if id.isEmpty || url.isEmpty then .error (.emptyPart entry)
    else .ok ⟨String.ofList id, String.ofList url⟩

/-- Reads entries, `seen` being the names before them. -/
def ofEntries (seen : List String) : List String → Except ConfigFault (List BackendSpec)
  | [] => .ok []
  | e :: es =>
    match ofEntry e with
    | .error f => .error f
    | .ok spec =>
      if seen.contains spec.id then .error (.duplicate spec.id)
      else
        match ofEntries (spec.id :: seen) es with
        | .error f => .error f
        | .ok specs => .ok (spec :: specs)

/-- Reads a list of backends: entries `id=url` with commas between them. -/
def ofText (raw : String) : Except ConfigFault (List BackendSpec) :=
  ofEntries [] (Text.entries raw)

end BackendSpec

/-- The configuration of the gateway. -/
structure Config where
  bindAddress : SocketAddress
  /-- How long a race may take, in milliseconds. -/
  raceTimeout : Nat
  backends : List BackendSpec
  apiKey : Option String
  /-- How long a provider may take, in seconds. -/
  backendTimeout : Nat
  deriving DecidableEq, Repr

namespace Config

/-- The configuration of an empty environment. -/
def default : Config := ⟨.v4 [0, 0, 0, 0] 8080, 30000, [], none, 60⟩

/-- The octets that variables are set to. -/
abbrev Environment := String → Option (List UInt8)

/-- The text that a variable is set to. -/
def textOf? (env : Environment) (name : String) : Option String :=
  (env name).bind Text.ofUtf8?

/-- The number below `2 ^ 64` that decimal digits write. -/
def decimal? (ds : List Char) : Option Nat :=
  let n := ds.foldl (fun n c => n * 10 + (c.toNat - '0'.toNat)) 0
  if ds.isEmpty || !ds.all Char.isDigit || 2 ^ 64 ≤ n then none else some n

/-- The number below `2 ^ 64` that a text writes: decimal digits, with a plus sign in front or not. -/
def natural? (s : String) : Option Nat :=
  match s.toList with
  | '+' :: ds => decimal? ds
  | ds => decimal? ds

/-- The positive number that a variable is set to, or the default. -/
def positive (env : Environment) (name : String) (fallback : Nat) : Nat :=
  (((textOf? env name).bind natural?).filter (0 < ·)).getD fallback

/-- The backends that an environment lists. -/
def listed (env : Environment) : Except ConfigFault (List BackendSpec) :=
  match textOf? env "GATEWAY_BACKENDS" with
  | some raw => BackendSpec.ofText raw
  | none => .ok []

/-- The configuration with some backends that an environment makes. -/
def configured (env : Environment) (backends : List BackendSpec) : Config where
  bindAddress := ((textOf? env "GATEWAY_BIND_ADDR").bind SocketAddress.ofText?).getD default.bindAddress
  raceTimeout := positive env "GATEWAY_RACE_TIMEOUT_MS" default.raceTimeout
  backends
  apiKey := (textOf? env "GATEWAY_BACKEND_API_KEY").filter (fun k => !k.isEmpty)
  backendTimeout := positive env "GATEWAY_BACKEND_TIMEOUT_SECS" default.backendTimeout

/-- The configuration that an environment makes. -/
def ofEnvironment (env : Environment) : Except ConfigFault Config :=
  (listed env).map (configured env)

end Config

end ChatRace
