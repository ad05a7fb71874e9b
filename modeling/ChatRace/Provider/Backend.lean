import ChatRace.Backend.Basic
import ChatRace.Http.Header
import ChatRace.Provider.EventReader
import ChatRace.Provider.Payload
import ChatRace.Url.Basic

/-!
# Providers as backends

A provider is reached over a network, which is a parameter: what comes of a request that is sent. A
provider's answer makes a reply or a stream; everything else makes an error.
-/

namespace ChatRace.Provider

open Chat

/-- A piece of a body, and how long it takes. -/
structure Frame where
  delay : Nat
  bytes : List UInt8
  deriving DecidableEq, Repr

/-- How a body ends. -/
inductive Ending where
  | complete
  | cut
  | timedOut
  deriving DecidableEq, Repr

/-- What comes of a request. -/
inductive Exchange where
  /-- No response has come within `delay`. -/
  | unanswered (delay : Nat) (timedOut : Bool)
  /-- The head of a response comes after `delay`, then the body, and the end of it after `endDelay`. -/
  | answered (delay status : Nat) (body : List Frame) (ending : Ending) (endDelay : Nat)
  deriving DecidableEq, Repr

/-- A request to a provider. -/
structure Outgoing where
  url : Url
  authorization : Option String
  body : String
  deriving DecidableEq, Repr

/-- What comes of the requests that are sent. -/
abbrev Network := Outgoing → Exchange

/-- A provider and how it is reached. -/
structure Settings where
  id : String
  baseUrl : String
  apiKey : Option String
  deriving DecidableEq, Repr

/-! ### Requests -/

/-- The address to which requests are posted. -/
def Settings.address (s : Settings) : String :=
  String.ofList (s.baseUrl.toList.reverse.dropWhile (· == '/')).reverse ++ "/chat/completions"

/-- The value of the field that authorises a request. -/
def Settings.authorization (s : Settings) : Option String :=
  s.apiKey.map ("Bearer " ++ ·)

/-- A request to a provider, or the error if none can be made. -/
def Settings.outgoing (s : Settings) (r : BackendRequest) (stream : Bool) : Except BackendError Outgoing :=
  let refusedFor (u : Url) : Except BackendError Outgoing :=
    .error (.unavailable ("builder error for url (" ++ u.text ++ ")"))
  match (Url.ofText? s.address).map Url.withoutUser with
  | none => .error (.unavailable "builder error")
  | some u =>
    if !u.hasHost then refusedFor u
    else if !(s.authorization.elim true Http.isValue) then .error (.unavailable "builder error")
    else if !u.isHttp || !u.fitsRequest then refusedFor u
    else .ok ⟨u, s.authorization, (payload r stream).render⟩

/-! ### Responses -/

/-- The error of a connection. -/
def connectionError (timedOut : Bool) (text : String) : BackendError :=
  if timedOut then .timeout text else .unavailable text

/-- The error if no response comes. -/
def noResponse (o : Outgoing) (timedOut : Bool) : BackendError :=
  connectionError timedOut ("error sending request for url (" ++ o.url.text ++ ")")

/-- The text for a body that cannot be read to its end, or not as what it should be. -/
def undecodable : String := "error decoding response body"

/-- The most characters of a body that an error shows. -/
def shownLength : Nat := 400

/-- The error that a status other than success makes. -/
def statusError (status : Nat) (body : String) : BackendError :=
  let shown := String.ofList (body.toList.take shownLength)
  match status with
  | 429 => .unavailable ("rate limited: " ++ shown)
  | 408 | 504 => .timeout ("upstream timeout: " ++ shown)
  | n => .invalidResponse ("status " ++ toString n ++ ": " ++ shown)

/-- The octets of a body. -/
def bodyBytes (body : List Frame) : List UInt8 := body.flatMap (·.bytes)

/-- How long a body takes. -/
def bodyTime (body : List Frame) (endDelay : Nat) : Nat := (body.map (·.delay)).sum + endDelay

/-- The text of a body that describes an error. -/
def errorText (body : List Frame) : Ending → String
  | .complete => Text.decodeLossy (bodyBytes body)
  | .cut | .timedOut => "unknown backend error"

/-- Whether a status is one of success. -/
def isSuccess (status : Nat) : Bool := 200 ≤ status && status < 300

/-- The reply in a document. -/
def replyOf (r : BackendRequest) (c : Completion) : Outcome Reply :=
  match c.choices.head? with
  | none => .failure (.invalidResponse "missing choices in response")
  | some choice =>
    let content := choice.content.getD ""
    .value ⟨content, choice.finishReason.getD "stop", c.usage.getD (Usage.estimate r.messages content)⟩

/-- The reply in a body. -/
def readReply (r : BackendRequest) (body : List Frame) : Ending → Outcome Reply
  | .complete =>
    match Json.decode answer.reader (bodyBytes body) with
    | .ok c => replyOf r c
    | .error _ => .failure (.invalidResponse undecodable)
  | .cut | .timedOut => .failure (.invalidResponse undecodable)

/-- Items that come at the same time, the first after a while. -/
def itemsAfter (wait : Nat) : List (Outcome Chunk) → List Item
  | [] => []
  | o :: os => ⟨wait, o⟩ :: os.map fun o => ⟨0, o⟩

/-- The last item of a stream that has not been ended by its content. -/
def lastItem (r : EventReader) : Ending → Outcome Chunk
  | .complete => r.terminal
  | .cut => .failure (connectionError false undecodable)
  | .timedOut => .failure (connectionError true undecodable)

/-- The items of a stream, `wait` having passed since the last one. -/
def readItems (r : EventReader) (wait : Nat) (ending : Ending) (endDelay : Nat) : List Frame → List Item
  | [] => [⟨wait + endDelay, lastItem r ending⟩]
  | f :: fs =>
    let (r, outcomes) := r.feed f.bytes
    let wait := wait + f.delay
    let rest := if outcomes.isEmpty then wait else 0
    itemsAfter wait outcomes ++ if r.isOver then [] else readItems r rest ending endDelay fs

/-! ### The backend -/

/-- What comes of a request, given what a successful response makes. -/
def course (network : Network) (s : Settings) (r : BackendRequest) (stream : Bool)
    (read : Nat → List Frame → Ending → Nat → Course α) : Course α :=
  match s.outgoing r stream with
  | .error e => ⟨0, .failure e⟩
  | .ok o =>
    match network o with
    | .unanswered delay timedOut => ⟨delay, .failure (noResponse o timedOut)⟩
    | .answered delay status body ending endDelay =>
      if isSuccess status then read delay body ending endDelay
      else ⟨delay + bodyTime body endDelay, .failure (statusError status (errorText body ending))⟩

/-- The backend that a provider is, on a line; `locate` tells places in the events that it sends. -/
def backend (network : Network) (s : Settings) (line : Nat) (locate : Json.Locator := .mute) : Backend where
  name := s.id
  line := line
  buffered := fun r => course network s r false fun delay body ending endDelay =>
    ⟨delay + bodyTime body endDelay, readReply r body ending⟩
  streamed := fun r => course network s r true fun delay body ending endDelay =>
    ⟨delay, .value (readItems (.fresh locate) 0 ending endDelay body)⟩

end ChatRace.Provider
