import ChatRace.Proofs.Gateway.Ending
import ChatRace.Proofs.Http.Fields
import ChatRace.Proofs.Json.Reading
import ChatRace.Proofs.Relay.Taken

/-!
# Naming the winner

The name of a winner goes three ways to the client: into the document of a whole answer, into each chunk of a streamed
one, and into a header field, which cannot hold every name (`WinnerResponse.tellsWinner_headers`,
`decode_model_completion`, `isLineBy_data`).  Wherever an answer has a name it is the winner's and whole, and who has no
answer by a winner gets no such field (`Server.serve_names`).
-/

namespace ChatRace

open Chat Json

/-! ### The field for the winner -/

/-- The field for the winner has the whole of a name and nothing else if it can hold the name, and otherwise there is no
such field. -/
structure Http.Headers.TellsWinner (h : Headers) (winner : String) : Prop where
  present : (∀ b ∈ Text.toUtf8 winner, IsFieldOctet b) → h.values WinnerResponse.winnerField = [winner]
  absent : (∃ b ∈ Text.toUtf8 winner, ¬IsFieldOctet b) → h.values WinnerResponse.winnerField = []

namespace WinnerResponse

private theorem tellsWinner_apply {h : Http.Headers} (hnone : h.values winnerField = []) (winner : String) :
    (h.apply winnerField winner).TellsWinner winner := by
  have hname : Http.isName winnerField = true := by decide
  constructor
  · intro hoctets
    rw [Http.Headers.apply, hname, Http.isValue_iff winner |>.2 hoctets]
    exact Http.Headers.values_insert h winnerField winner
  · rintro ⟨b, hb, hoctet⟩
    have hvalue : Http.isValue winner = false :=
      Bool.eq_false_iff.2 fun hvalue => hoctet (Http.isValue_iff winner |>.1 hvalue b hb)
    rw [Http.Headers.apply, hvalue]
    simpa using hnone

theorem values_mediaType (mediaType : String) :
    (Http.Headers.empty.insert "content-type" mediaType).values winnerField = [] :=
  Http.Headers.values_insert_of_ne _ (by decide) _

theorem tellsWinner_headers (mediaType winner : String) : (headers mediaType winner).TellsWinner winner :=
  tellsWinner_apply (values_mediaType mediaType) winner

theorem tellsWinner_streamHeaders (winner : String) : (streamHeaders winner).TellsWinner winner := by
  refine tellsWinner_apply ?_ winner
  rw [Http.Headers.values_insert_of_ne _ (by decide)]
  exact values_mediaType _

end WinnerResponse

/-! ### Names in documents -/

/-- Reads the `model` of a document. -/
def modelReader : Reader String := (Record.only "model" Reader.text).reader

/-- Reads what sort of object a document is. -/
def objectReader : Reader String := (Record.only "object" Reader.text).reader

theorem decode_model_completion (s : Stamp) (reply : Reply) :
    decode modelReader (Text.toUtf8 (s.completion reply).render) = .ok s.model := by
  have hexact : (s.completion reply).IsExact := by simp [Stamp.completion, Usage.toJson]
  rw [decode_render modelReader hexact]
  exact Record.reader_only [("id", .text s.id), ("object", .text "chat.completion"), ("created", .int s.created)] _
    hexact (by simp) (Reader.text_node s.model) (by simp)

/-- An event with a document of one choice tells that it is a chunk, and its model. -/
theorem decode_event (s : Stamp) {delta choice tail : List (String × Value)}
    (hexact : (s.event delta choice tail).IsExact) (htail : ∀ e ∈ tail, e.1 ≠ "object" ∧ e.1 ≠ "model") :
    decode objectReader (Text.toUtf8 (s.event delta choice tail).render) = .ok "chat.completion.chunk" ∧
      decode modelReader (Text.toUtf8 (s.event delta choice tail).render) = .ok s.model := by
  let choices : Value := .array [.object ([("index", .int 0), ("delta", .object delta)] ++ choice)]
  rw [decode_render objectReader hexact, decode_render modelReader hexact]
  constructor
  · exact Record.reader_only [("id", .text s.id)]
      ([("created", .int s.created), ("model", .text s.model), ("choices", choices)] ++ tail) hexact (by simp)
      (Reader.text_node _) (List.forall_mem_append.2 ⟨by simp, fun e he => (htail e he).1⟩)
  · exact Record.reader_only
      [("id", .text s.id), ("object", .text "chat.completion.chunk"), ("created", .int s.created)]
      ([("choices", choices)] ++ tail) hexact (by simp) (Reader.text_node s.model)
      (List.forall_mem_append.2 ⟨by simp, fun e he => (htail e he).2⟩)

/-- A line with data of an answer by a winner. -/
inductive IsLineBy (winner : String) : String → Prop
  /-- A chunk tells the winner. -/
  | chunk {line : String} : decode objectReader (Text.toUtf8 line) = .ok "chat.completion.chunk" →
      decode modelReader (Text.toUtf8 line) = .ok winner → IsLineBy winner line
  | error (message : String) : IsLineBy winner (errorDocument message "backend_error").render
  | done : IsLineBy winner Relay.doneMark

theorem isLineBy_data (s : Stamp) (e : Relay.Event) : IsLineBy s.model (e.data s) := by
  have hchunk (delta choice tail : List (String × Value)) (hexact : (s.event delta choice tail).IsExact)
      (htail : ∀ e ∈ tail, e.1 ≠ "object" ∧ e.1 ≠ "model") : IsLineBy s.model (s.event delta choice tail).render := by
    obtain ⟨hobject, hmodel⟩ := decode_event s hexact htail
    exact .chunk hobject hmodel
  cases e with
  | role => exact hchunk [("role", .text "assistant")] [] [] (by simp [Stamp.event]) (by simp)
  | text t => exact hchunk [("content", .text t)] [] [] (by simp [Stamp.event]) (by simp)
  | finish reason usage =>
    cases usage with
    | none => exact hchunk [] [("finish_reason", .text reason)] [] (by simp [Stamp.event]) (by simp)
    | some u =>
      exact hchunk [] [("finish_reason", .text reason)] [("usage", u.toJson)] (by simp [Stamp.event, Usage.toJson])
        (by simp)
  | error message => exact .error message
  | done => exact .done

/-! ### Answers by winners -/

/-- An answer with a winner's unit names the winner, to a client who takes `room` frames. -/
structure Answer.Names (a : Answer) (i : Identity) (room : Option Nat) (winner : String) (unit : FirstUnit) :
    Prop where
  headers : a.headers.TellsWinner winner
  body : match unit with
    | .buffered _ => if room = some 0 then a.body = "" else decode modelReader (Text.toUtf8 a.body) = .ok winner
    | .streamed first rest =>
      (∀ line ∈ Relay.dataLines a.body, IsLineBy winner line) ∧
      (room = none → Relay.dataLines a.body = Relay.payloads (i.stamp winner) first rest)

private theorem isEmpty_render_completion (s : Stamp) (reply : Reply) :
    (s.completion reply).render.isEmpty = false := by
  rw [String.isEmpty_eq_false_iff]
  intro hempty
  have hhead := congrArg (·.toList.head?) hempty
  simp [Stamp.completion, Value.render] at hhead

/-- What a client has of a winner's unit names the winner. -/
theorem Client.names_of_ending {c : Client} {winner : String} {line time : Nat} {unit : FirstUnit} {a : Answer}
    (h : c.ending winner line time unit = .answered a) : a.Names c.identity c.room winner unit := by
  unfold ending at h
  split at h
  · nomatch h
  · cases unit with
    | buffered reply =>
      obtain rfl := Stage.answered.inj h
      refine ⟨WinnerResponse.tellsWinner_headers _ winner, ?_⟩
      have hdecode :
          decode modelReader (Text.toUtf8 ((c.identity.stamp winner).completion reply).render) = .ok winner :=
        decode_model_completion (c.identity.stamp winner) reply
      have hsome := isEmpty_render_completion (c.identity.stamp winner) reply
      -- the body is one frame
      cases hroom : c.room with
      | none => simpa [Answer.whole, hsome] using hdecode
      | some n =>
        cases n with
        | zero => simp [Answer.whole, hsome]
        | succ n => simpa [Answer.whole, hsome] using hdecode
    | streamed first rest =>
      obtain rfl := Stage.answered.inj h
      refine ⟨WinnerResponse.tellsWinner_streamHeaders winner, ?_, ?_⟩
      · intro l hl
        have htaken := Transmission.dataLines_body_isPrefix line time c.room (c.identity.stamp winner) first rest
        obtain ⟨e, rfl⟩ := Relay.exists_event (htaken.subset hl)
        exact isLineBy_data (c.identity.stamp winner) e
      · intro hroom
        have hall := Transmission.dataLines_body_eq line time (c.identity.stamp winner) first rest
        rw [← hroom] at hall
        exact hall

/-! ### Answers without a winner -/

/-- A problem names no winner. -/
theorem Problem.values_response (p : Problem) : p.response.headers.values WinnerResponse.winnerField = [] :=
  WinnerResponse.values_mediaType _

theorem BodyFault.values_response (f : BodyFault) (locate : Json.Locator) (body : List UInt8) :
    (f.response locate body).headers.values WinnerResponse.winnerField = [] := by
  cases f with
  | notJson | tooLong => exact WinnerResponse.values_mediaType _
  | fault f =>
    simp only [BodyFault.response]
    split <;> exact WinnerResponse.values_mediaType _

theorem Endpoint.values_of_find_eq_error {r : Http.Request} {response : Http.Response}
    (h : Endpoint.find r = .error response) : response.headers.values WinnerResponse.winnerField = [] := by
  unfold find at h
  split at h
  · cases h
    rfl
  · split at h
    · cases h
    · cases h
      exact Http.Headers.values_insert_of_ne _ (by decide) _

theorem Client.values_of_conclusion {c : Client} {v : Verdict} {e : RaceError} {a : Answer} (hv : v.result = .error e)
    (h : c.conclusion v = .answered a) : a.headers.values WinnerResponse.winnerField = [] := by
  simp only [conclusion, hv] at h
  split at h
  · cases h
  · obtain rfl := Stage.answered.inj h
    exact e.problem.values_response

/-- Who asks for something that there is not has the refusal in the end. -/
theorem Server.serve_nowhere {srv : Server} {clients : List Client} {k : Nat} {c : Client} {response : Http.Response}
    (hc : clients[k]? = some c) (hfind : Endpoint.find c.request = .error response) :
    (srv.serve clients).1[k]? = some (.answered (.whole c.room 0
      (if c.request.method = "HEAD" then { response with body := "" } else response))) := by
  refine serve_endsAs hc (.step rfl fun metrics => ?_)
  simp only [Session.step, Session.arrive, hfind]
  refine .ended rfl ?_
  simp only [Session.answerWith, Nat.sub_self]

/-- Why nobody wins for a client: there is no such endpoint, the body of the request is not read, the request is
refused, or its race is lost. -/
inductive Client.HasNoWinner (app : App) (c : Client) : Prop
  | nowhere {response : Http.Response} : Endpoint.find c.request = .error response → c.HasNoWinner app
  | unread {fault : BodyFault} : Endpoint.find c.request = .ok .chat →
      ClientRequest.ofBody c.request = .error fault → c.HasNoWinner app
  | refused {q : ClientRequest} {refusal : Refusal} : Endpoint.find c.request = .ok .chat →
      ClientRequest.ofBody c.request = .ok q → q.toRace c.identity.requestId = .error refusal → c.HasNoWinner app
  | lost {q : ClientRequest} {request : RaceRequest} {e : RaceError} : c.Asks q request →
      (Race.decide app.registry app.limit c.sent request).1.result = .error e → c.HasNoWinner app

namespace Server

variable {srv : Server} {clients : List Client} {k : Nat} {c : Client} {a : Answer}

private theorem outcome_eq_of_served (hc : clients[k]? = some c) (hchat : Endpoint.find c.request = .ok .chat)
    (ha : (srv.serve clients).1[k]? = some (.answered a)) : c.outcome srv.app = .answered a :=
  Option.some.inj ((serve_outcome hc hchat).symm.trans ha)

theorem values_of_hasNoWinner (hc : clients[k]? = some c) (ha : (srv.serve clients).1[k]? = some (.answered a))
    (h : c.HasNoWinner srv.app) : a.headers.values WinnerResponse.winnerField = [] := by
  cases h with
  | nowhere hfind =>
    rw [serve_nowhere hc hfind] at ha
    obtain rfl := Stage.answered.inj (Option.some.inj ha)
    rw [← Endpoint.values_of_find_eq_error hfind]
    simp only [Answer.whole]
    split <;> rfl
  | @unread fault hchat hfault =>
    have hend := outcome_eq_of_served hc hchat ha
    simp only [Client.outcome, hfault] at hend
    obtain rfl := Stage.answered.inj hend
    exact fault.values_response srv.app.locate c.request.body
  | @refused q refusal hchat hq hr =>
    have hend := outcome_eq_of_served hc hchat ha
    simp only [Client.outcome, hq, hr] at hend
    obtain rfl := Stage.answered.inj hend
    exact (Problem.badRequest refusal.message).values_response
  | lost hasks he =>
    have hend := outcome_eq_of_served hc hasks.endpoint ha
    rw [hasks.outcome_eq] at hend
    exact Client.values_of_conclusion he hend

theorem names_of_won (hc : clients[k]? = some c) (ha : (srv.serve clients).1[k]? = some (.answered a))
    {q : ClientRequest} {request : RaceRequest} (hasks : c.Asks q request) {v : Victory}
    (hv : (Race.decide srv.app.registry srv.app.limit c.sent request).1.result = .ok v) :
    a.Names c.identity c.room v.winner v.unit := by
  have hend := outcome_eq_of_served hc hasks.endpoint ha
  rw [hasks.outcome_eq] at hend
  simp only [Client.conclusion, hv] at hend
  exact Client.names_of_ending hend

/-- Every answer that is made of a winner's unit names the winner, whatever text the name is and whatever has come of
the stream: in the document of a whole answer, in each chunk that a client has of a streamed one, and in the header as
a whole exactly if a field can hold the name.  So does the answer of a client who is served and whose race is won.  No
answer has the field for whose client nobody wins. -/
theorem serve_names :
    (∀ (c : Client) (winner : String) (line time : Nat) (unit : FirstUnit) (a : Answer),
      c.ending winner line time unit = .answered a → a.Names c.identity c.room winner unit) ∧
    ∀ (srv : Server) (clients : List Client) (k : Nat) (c : Client) (a : Answer), clients[k]? = some c →
      (srv.serve clients).1[k]? = some (.answered a) →
      (∀ q request v, c.Asks q request →
        (Race.decide srv.app.registry srv.app.limit c.sent request).1.result = .ok v →
        a.Names c.identity c.room v.winner v.unit) ∧
      (c.HasNoWinner srv.app → a.headers.values WinnerResponse.winnerField = []) := by
  refine ⟨fun c winner line time unit a => Client.names_of_ending, ?_⟩
  intro srv clients k c a hc ha
  exact ⟨fun q request v hasks hv => names_of_won hc ha hasks hv, values_of_hasNoWinner hc ha⟩

/-- A server whose only backend has a name beyond ASCII. -/
private def summer : Server := .fresh {
  registry := .ofList [.scripted "é" 0 5 (.value ⟨"hi", "stop", ⟨1, 1, 2⟩⟩) .crash]
  limit := 50 }

private def wishForSummer : ClientRequest := ⟨"é", [⟨.user, "hi"⟩], .free, false, false, none⟩

/-- A client who asks it. -/
private def holidaymaker : Client where
  request := wishForSummer.post
  identity := ⟨"req_1", "chatcmpl-1", 7⟩
  sent := 0
  patience := none
  room := none

private theorem asks_holidaymaker :
    holidaymaker.Asks wishForSummer ⟨"req_1", ["é"], [⟨.user, "hi"⟩], .free, false⟩ :=
  Client.asks_post rfl rfl rfl (by decide +kernel) rfl

/-- The field holds a winner's name whose octets are neither visible characters of ASCII nor blanks. -/
theorem serve_summer : (∀ b ∈ Text.toUtf8 "é", ¬(b = 0x09 ∨ (0x20 ≤ b ∧ b < 0x7F))) ∧
    ∃ a, (summer.serve [holidaymaker]).1[0]? = some (.answered a) ∧
      a.headers.values WinnerResponse.winnerField = ["é"] := by
  refine ⟨by decide +kernel, ?_⟩
  rw [serve_outcome rfl asks_holidaymaker.endpoint, asks_holidaymaker.outcome_eq]
  exact ⟨_, rfl, by decide⟩

end Server

end ChatRace
