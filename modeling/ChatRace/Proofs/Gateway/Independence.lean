import ChatRace.Proofs.Gateway.Ending
import ChatRace.Proofs.Race.Later

/-!
# Clients among others

What a client gets does not depend on when it sends its request (`Client.Repeats.outcome_eq`), nor on who else is
served.  So it is what the client would get who sends the same request to a fresh server, at any time, and is served
alone (`serve_as_alone`).
-/

namespace ChatRace

open Chat

/-- Two clients who send the same request, at any times and under any identifiers, and wait and read alike; their
answers get the same identifier and the same time of creation. -/
structure Client.Repeats (c d : Client) : Prop where
  request : c.request = d.request
  patience : c.patience = d.patience
  room : c.room = d.room
  answerId : c.identity.answerId = d.identity.answerId
  created : c.identity.created = d.identity.created

theorem Backend.IgnoresId.symm {b : Backend} {id id' : String} (h : b.IgnoresId id id') : b.IgnoresId id' id :=
  ⟨fun r => (h.buffered r).symm, fun r => (h.streamed r).symm⟩

namespace Client

variable {c d : Client} {delay : Nat}

theorem Repeats.symm (h : c.Repeats d) : d.Repeats c :=
  ⟨h.request.symm, h.patience.symm, h.room.symm, h.answerId.symm, h.created.symm⟩

private theorem Repeats.leavesBy_eq (h : c.Repeats d) (hsent : c.sent = d.sent + delay) (time : Nat) :
    c.leavesBy (time + delay) = d.leavesBy time := by
  have hle (p : Nat) : c.sent + p ≤ time + delay ↔ d.sent + p ≤ time := by omega
  simp only [leavesBy, h.patience, hle]

private theorem Repeats.leavesBefore_eq (h : c.Repeats d) (hsent : c.sent = d.sent + delay) (e : RaceError)
    (time : Nat) : c.leavesBefore e (time + delay) = d.leavesBefore e time := by
  have hlt (p : Nat) : c.sent + p < time + delay ↔ d.sent + p < time := by omega
  cases e with
  | allFailed fs => exact h.leavesBy_eq hsent time
  | timeout micros | noCandidates | unknownBackend id => simp only [leavesBefore, h.patience, hlt]

private theorem start_later (line now delay : Nat) (room : Option Nat) (bs : List Relay.Beat) :
    Transmission.start line (now + delay) room bs = (Transmission.start line now room bs).moved line delay := by
  cases bs with
  | nil => rfl
  | cons b bs =>
    simp only [Transmission.start, Transmission.moved]
    rw [Nat.add_right_comm]
    rfl

/-- The frames of an answer come as long after the sending as they would come at another time. -/
private theorem streamed_moved (headers : Http.Headers) (t : Transmission) (complete : Bool)
    (line delay headAfter endAfter sent : Nat) :
    Answer.streamed headers (t.moved line delay) complete headAfter endAfter (sent + delay) =
      Answer.streamed headers t complete headAfter endAfter sent := by
  have hafter (time : Nat) : time + delay - (sent + delay) = time - sent := Nat.add_sub_add_right ..
  simp only [Answer.streamed, Transmission.moved, Transmission.body, ← List.map_reverse, List.map_map,
    Function.comp_def, hafter]

private theorem Repeats.ending_eq (h : c.Repeats d) (hsent : c.sent = d.sent + delay) (winner : String)
    (line w : Nat) (u : FirstUnit) : c.ending winner line (w + delay) u = d.ending winner line w u := by
  have hstamp : c.identity.stamp winner = d.identity.stamp winner := by
    simp only [Identity.stamp, h.answerId, h.created]
  have hafter (time : Nat) : time + delay - (d.sent + delay) = time - d.sent := Nat.add_sub_add_right ..
  cases u with
  | buffered reply =>
    simp only [ending, WinnerResponse.ofUnit, h.leavesBy_eq hsent, h.room, hstamp, hsent, hafter]
  | streamed first rest =>
    simp only [ending, WinnerResponse.ofUnit, h.leavesBy_eq hsent, h.room, hstamp, hsent, hafter, start_later,
      Transmission.run_moved, streamed_moved]

private theorem Repeats.conclusion_eq (h : c.Repeats d) (hsent : c.sent = d.sent + delay) (id : String)
    (v : Verdict) : c.conclusion (v.later delay id) = d.conclusion v := by
  obtain ⟨time, result⟩ := v
  cases result with
  | ok w => exact h.ending_eq hsent w.winner w.line time w.unit
  | error e =>
    have hresult : (Verdict.later delay id ⟨time, .error e⟩).result = .error e := rfl
    have htime : (Verdict.later delay id ⟨time, .error e⟩).time = time + delay := rfl
    have hafter : time + delay - c.sent = time - d.sent := by omega
    simp only [conclusion, hresult, htime, h.leavesBefore_eq hsent, h.room, hafter]

private theorem Repeats.outcome_later {app : App} (h : c.Repeats d) (hsent : c.sent = d.sent + delay)
    (hignores : ∀ b ∈ app.registry.backends, b.IgnoresId d.identity.requestId c.identity.requestId) :
    c.outcome app = d.outcome app := by
  cases hq : ClientRequest.ofBody d.request with
  | error f => simp only [outcome, h.request, hq, h.room]
  | ok q =>
    cases hr : q.refusal? with
    | some refusal => simp only [outcome, h.request, hq, ClientRequest.toRace, hr, h.room]
    | none =>
      let request (id : String) : RaceRequest := ⟨id, candidates q.model, q.messages, q.generation, q.stream⟩
      have hdecide : (Race.decide app.registry app.limit (d.sent + delay) (request c.identity.requestId)).1 =
          (Race.decide app.registry app.limit d.sent (request d.identity.requestId)).1.later delay
            c.identity.requestId :=
        @Race.decide_later delay _ app.registry app.limit d.sent (request d.identity.requestId) hignores
      simp only [outcome, h.request, hq, ClientRequest.toRace, hr, hsent]
      exact (congrArg c.conclusion hdecide).trans (h.conclusion_eq hsent _ _)

/-- A client who repeats a request has the same outcome, if no backend looks at the identifier of a request. -/
theorem Repeats.outcome_eq {app : App} (h : c.Repeats d)
    (hignores : ∀ b ∈ app.registry.backends, b.IgnoresId c.identity.requestId d.identity.requestId) :
    c.outcome app = d.outcome app := by
  rcases Nat.le_total d.sent c.sent with hle | hle
  · obtain ⟨delay, hsent⟩ := Nat.exists_eq_add_of_le hle
    exact h.outcome_later hsent fun b hb => (hignores b hb).symm
  · obtain ⟨delay, hsent⟩ := Nat.exists_eq_add_of_le hle
    exact (h.symm.outcome_later hsent hignores).symm

end Client

namespace Server

/-- Whoever else is served, and whatever they ask for and when, a client who asks for an answer has in the end what the
client has who repeats the request and is served alone by a fresh server: an answer with the same status, header and
body and the same times since the sending, or none if the client has given up. -/
theorem serve_as_alone {srv : Server} {clients : List Client} {k : Nat} {c d : Client} (hc : clients[k]? = some c)
    (hchat : Endpoint.find c.request = .ok .chat) (hrepeats : c.Repeats d)
    (hignores : ∀ b ∈ srv.app.registry.backends, b.IgnoresId c.identity.requestId d.identity.requestId) :
    ∃ e, (srv.serve clients).1[k]? = some e ∧ ((fresh srv.app).serve [d]).1[0]? = some e ∧
      ((e = .aborted ∧ c.patience ≠ none) ∨ ∃ a, e = .answered a) := by
  have hchat' : Endpoint.find d.request = .ok .chat := hrepeats.request ▸ hchat
  have halone : ((fresh srv.app).serve [d]).1[0]? = some (d.outcome srv.app) := serve_outcome rfl hchat'
  refine ⟨c.outcome srv.app, serve_outcome hc hchat, ?_, c.outcome_cases srv.app⟩
  rw [halone, hrepeats.outcome_eq hignores]

/-- Two mock backends. -/
private def mocks : App where
  registry := ⟨[(⟨"slow", 20, 15, .healthy⟩ : Mock).backend 0, (⟨"fast", 10, 15, .healthy⟩ : Mock).backend 1]⟩
  limit := 100

private def caller (requestId model : String) (sent : Nat) (patience : Option Nat) : Client where
  request := (⟨model, [⟨.user, "hi"⟩], .free, true, true, none⟩ : ClientRequest).post
  identity := ⟨requestId, "chatcmpl-1", 7⟩
  sent := sent
  patience := patience
  room := none

/-- A client who races both backends gets the same, whether one who waits for the slow one and one who gives up a race
between both are served too or nobody is, and whether it sends at 4 or at 0. -/
theorem serve_three_or_one : ∃ a,
    ((fresh mocks).serve [caller "req_1" "slow" 0 none, caller "req_2" "slow,fast" 4 none,
      caller "req_3" "fast,slow" 6 (some 3)]).1[1]? = some (.answered a) ∧
    ((fresh mocks).serve [caller "req_4" "slow,fast" 0 none]).1[0]? = some (.answered a) := by
  have hignores (b : Backend) (hb : b ∈ mocks.registry.backends) : b.IgnoresId "req_2" "req_4" := by
    simp only [mocks, List.mem_cons, List.not_mem_nil, or_false] at hb
    rcases hb with rfl | rfl
    · exact Mock.ignoresId_backend _ 0 "req_2" "req_4"
    · exact Mock.ignoresId_backend _ 1 "req_2" "req_4"
  have hrepeats : (caller "req_2" "slow,fast" 4 none).Repeats (caller "req_4" "slow,fast" 0 none) :=
    ⟨rfl, rfl, rfl, rfl, rfl⟩
  obtain ⟨e, he, halone, hleft | ⟨a, rfl⟩⟩ := @serve_as_alone (fresh mocks) [caller "req_1" "slow" 0 none,
    caller "req_2" "slow,fast" 4 none, caller "req_3" "fast,slow" 6 (some 3)] 1 _ _ rfl
    (ClientRequest.find_post _) hrepeats hignores
  · exact absurd rfl hleft.2
  · exact ⟨a, he, halone⟩

end Server

end ChatRace
