import ChatRace.Proofs.Chat.Requests
import ChatRace.Proofs.Gateway.Server
import ChatRace.Proofs.Race.Result

/-!
# Ends of sessions

How the session of a client ends who asks for an answer is told by the client and the verdict of the race alone
(`Client.conclusion`, `endsAs_racing_run`), and the verdict by the backends, the limit, the time of sending and the
request.  So the end is known once the request is (`Client.outcome`), whoever else is served (`serve_outcome`).
-/

namespace ChatRace

open Chat

/-! ### The end of a session -/

/-- Whether a client that has no answer has given its request up at `time`. -/
def Client.leavesBy (c : Client) (time : Nat) : Bool := c.patience.any fun p => c.sent + p ≤ time

theorem Client.leavesBy_iff {c : Client} {time : Nat} :
    c.leavesBy time = true ↔ ∃ p, c.patience = some p ∧ c.sent + p ≤ time := by
  simp [leavesBy, Option.any_eq_true]

/-- The session of a client for whom a backend has the unit `u` at `w`: unless the client has given up by then, it
ends with the answer that is made of the unit. -/
def Client.ending (c : Client) (winner : String) (line w : Nat) (u : FirstUnit) : Stage :=
  if c.leavesBy w then .aborted
  else
    match WinnerResponse.ofUnit c.identity winner line w c.room u with
    | .whole r => .answered (.whole c.room (w - c.sent) r)
    | .streamed headers t =>
      .answered (.streamed headers t.run.1.1 t.run.1.2.1 (w - c.sent) (t.run.1.2.2 - c.sent) c.sent)

/-- Whether a client has given its request up before it is told at `time` of a lost race.  At the instant of the last
failure it has; at the deadline it is told first, and so it is if there was no race. -/
def Client.leavesBefore (c : Client) (e : RaceError) (time : Nat) : Bool :=
  match e with
  | .allFailed _ => c.leavesBy time
  | .timeout _ | .noCandidates | .unknownBackend _ => c.patience.any fun p => c.sent + p < time

/-- The session of a client whose race comes to a verdict. -/
def Client.conclusion (c : Client) (v : Verdict) : Stage :=
  match v.result with
  | .ok w => c.ending w.winner w.line v.time w.unit
  | .error e =>
    if c.leavesBefore e v.time then .aborted
    else .answered (.whole c.room (v.time - c.sent) e.problem.response)

/-- In the end a client has an answer, or has given up. -/
theorem Client.conclusion_cases (c : Client) (v : Verdict) :
    (c.conclusion v = .aborted ∧ c.patience ≠ none) ∨ ∃ a, c.conclusion v = .answered a := by
  have hpatience (p : Nat → Bool) (h : c.patience.any p = true) : c.patience ≠ none := by
    intro hnone
    simp [hnone] at h
  cases hv : v.result with
  | ok w =>
    by_cases hleft : c.leavesBy v.time = true
    · exact .inl ⟨by simp only [conclusion, hv, ending, hleft, if_true], hpatience _ hleft⟩
    · cases hu : w.unit <;> simp [conclusion, hv, ending, hleft, WinnerResponse.ofUnit, hu]
  | error e =>
    by_cases hleft : c.leavesBefore e v.time = true
    · refine .inl ⟨by simp only [conclusion, hv, hleft, if_true], ?_⟩
      cases e <;> exact hpatience _ hleft
    · simp [conclusion, hv, hleft]

/-- A client who gives up before there is a verdict has no answer. -/
theorem Client.conclusion_of_lt {c : Client} {v : Verdict} {p : Nat} (hp : c.patience = some p)
    (hlt : c.sent + p < v.time) : c.conclusion v = .aborted := by
  have hby : c.leavesBy v.time = true := leavesBy_iff.2 ⟨p, hp, Nat.le_of_lt hlt⟩
  cases hv : v.result with
  | ok w => simp only [conclusion, hv, ending, hby, if_true]
  | error e =>
    have hbefore : c.leavesBefore e v.time = true := by
      cases e with
      | allFailed fs => exact hby
      | timeout micros | noCandidates | unknownBackend id => simp [leavesBefore, hp, hlt]
    simp only [conclusion, hv, hbefore, if_true]

namespace Session

variable {app : App}

theorem endsAs_accept {s : Session} {v : Victory} {w : Nat} (h : ¬s.client.leavesBy w = true) :
    EndsAs app (s.client.ending v.winner v.line w v.unit) (s.accept w v).1 := by
  cases hu : v.unit with
  | buffered reply =>
    simp only [Client.ending, accept, hu, WinnerResponse.ofUnit, h]
    exact .ended rfl rfl
  | streamed first rest =>
    simp only [Client.ending, accept, hu, WinnerResponse.ofUnit, h]
    exact endsAs_relaying app s.client _ w _

/-- A client who gives up before the race is over, and before its deadline, has left when it is over. -/
private theorem conclusion_of_left {c : Client} {r : Race} {v : Verdict} {p : Nat} (hp : c.patience = some p)
    (hv : r.IsVerdict v) (htime : c.sent + p ≤ v.time) (hdeadline : c.sent + p < r.deadline) :
    c.conclusion v = .aborted := by
  have hleft : c.leavesBy v.time = true := Client.leavesBy_iff.2 ⟨p, hp, htime⟩
  cases hv with
  | won w hlt => simp only [Client.conclusion, Client.ending, hleft, if_true]
  | lost fs hlt => simp only [Client.conclusion, Client.leavesBefore, hleft, if_true]
  | expired =>
    have hbefore : (c.patience.any fun p => c.sent + p < r.deadline) = true := by simp [hp, hdeadline]
    simp only [Client.conclusion, Client.leavesBefore, hbefore, if_true]

private theorem conclusion_of_givesUp {c : Client} {stream : Bool} {r : Race} {v : Verdict} {g : Nat}
    (hg : givesUpAt? ⟨c, .racing stream r⟩ r = some g) (hv : r.IsVerdict v) (hdue : r.due ≤ v.time) :
    c.conclusion v = .aborted := by
  obtain ⟨hgive, hle⟩ := Option.filter_eq_some_iff.1 hg
  obtain ⟨p, hp, rfl⟩ := Option.map_eq_some_iff.1 hgive
  simp only [Bool.and_eq_true, decide_eq_true_eq] at hle
  exact conclusion_of_left hp hv (Nat.le_trans hle.1 hdue) hle.2

/-- A client who has not given up when the next step of the race is due is still there when it is taken. -/
private theorem stays_of_not_givesUp {c : Client} {stream : Bool} {r : Race}
    (hg : givesUpAt? ⟨c, .racing stream r⟩ r = none) {p : Nat} (hp : c.patience = some p)
    (hle : c.sent + p ≤ r.due) : r.deadline ≤ c.sent + p := by
  have hgive : giveUp? ⟨c, .racing stream r⟩ = some (c.sent + p) := congrArg (Option.map (c.sent + ·)) hp
  have hnot := Option.filter_eq_none_iff.1 hg _ hgive
  simp only [Bool.and_eq_true, decide_eq_true_eq, not_and, Nat.not_lt] at hnot
  exact hnot hle

/-- The step that decides the race of a client who has not given up leads to what the verdict says. -/
private theorem endsAs_afterRace {c : Client} {stream : Bool} {r : Race} {v : Verdict}
    (hg : givesUpAt? ⟨c, .racing stream r⟩ r = none) (hv : r.IsVerdict v) (htime : v.time = r.due) :
    EndsAs app (c.conclusion v) (afterRace ⟨c, .racing stream r⟩ stream (.decided v)).1 := by
  have hstays (hlt : v.time < r.deadline) : ¬c.leavesBy v.time = true := by
    intro hleft
    obtain ⟨p, hp, hle⟩ := Client.leavesBy_iff.1 hleft
    have := stays_of_not_givesUp hg hp (htime ▸ hle)
    omega
  cases hv with
  | won w hlt => exact endsAs_accept (s := ⟨c, .racing stream r⟩) (hstays hlt)
  | lost fs hlt =>
    refine .ended rfl ?_
    simp only [Client.conclusion, Client.leavesBefore, hstays hlt]
    rfl
  | expired =>
    have hnot : (c.patience.any fun p => c.sent + p < r.deadline) = false := by
      rw [Option.any_eq_false]
      intro p hp
      have hle := stays_of_not_givesUp hg hp
      simp only at htime
      rw [decide_eq_false_iff_not]
      omega
    refine .ended rfl ?_
    simp only [Client.conclusion, Client.leavesBefore, hnot]
    rfl

/-- The session of a race under way ends as the race's verdict says. -/
theorem endsAs_racing_run {r : Race} (h : r.IsUnderWay) (c : Client) (stream : Bool) :
    EndsAs app (c.conclusion r.run.1) ⟨c, .racing stream r⟩ := by
  induction hw : r.work using Nat.strongRecOn generalizing r with
  | ind n ih =>
    refine .step rfl fun metrics => ?_
    cases hg : givesUpAt? ⟨c, .racing stream r⟩ r with
    | some g =>
      obtain ⟨hv, hdue⟩ := h.isVerdict_run
      rw [conclusion_of_givesUp hg hv hdue]
      simp only [Session.step, hg, Option.isSome_some, if_true]
      exact .ended rfl rfl
    | none =>
      simp only [Session.step, hg, Option.isSome_none]
      cases hs : r.step with
      | mk p log =>
        cases p with
        | running r' =>
          rw [Race.run_of_running hs]
          exact ih r'.work (hw ▸ Race.step_work_lt hs) (h.of_step hs) rfl
        | decided v =>
          obtain ⟨hv, htime⟩ := h.of_decided hs
          rw [Race.run_of_decided hs]
          exact endsAs_afterRace hg hv htime

end Session

/-! ### Requests for an answer -/

/-- The front door accepts what a client sends. -/
structure Client.Asks (c : Client) (q : ClientRequest) (request : RaceRequest) : Prop where
  endpoint : Endpoint.find c.request = .ok .chat
  body : ClientRequest.ofBody c.request = .ok q
  accepted : q.toRace c.identity.requestId = .ok request

theorem Chat.ClientRequest.of_toRace_eq_ok {q : ClientRequest} {id : String} {request : RaceRequest}
    (h : q.toRace id = .ok request) :
    request = ⟨id, candidates q.model, q.messages, q.generation, q.stream⟩ := by
  unfold ClientRequest.toRace at h
  split at h
  · nomatch h
  · exact (Except.ok.inj h).symm

/-- The front door accepts a request that is posted as a document. -/
theorem Client.asks_post {c : Client} {q : ClientRequest} {request : RaceRequest} (hrequest : c.request = q.post)
    (htemperature : q.generation.temperature = none) (htopP : q.generation.topP = none)
    (hlength : q.post.body.length ≤ BodyFault.maxBody) (haccepted : q.toRace c.identity.requestId = .ok request) :
    c.Asks q request where
  endpoint := hrequest ▸ q.find_post
  body := hrequest ▸ ClientRequest.ofBody_post htemperature htopP hlength
  accepted := haccepted

/-- How the session of a client ends who sends a request for an answer. -/
def Client.outcome (app : App) (c : Client) : Stage :=
  match ClientRequest.ofBody c.request with
  | .error f => .answered (.whole c.room 0 (f.response app.locate c.request.body))
  | .ok q =>
    match q.toRace c.identity.requestId with
    | .error refusal => .answered (.whole c.room 0 (Problem.badRequest refusal.message).response)
    | .ok request => c.conclusion (Race.decide app.registry app.limit c.sent request).1

theorem Client.outcome_cases (app : App) (c : Client) :
    (c.outcome app = .aborted ∧ c.patience ≠ none) ∨ ∃ a, c.outcome app = .answered a := by
  cases hq : ClientRequest.ofBody c.request with
  | error f => simp [outcome, hq]
  | ok q =>
    cases hr : q.toRace c.identity.requestId with
    | error refusal => simp [outcome, hq, hr]
    | ok request =>
      simp only [outcome, hq, hr]
      exact c.conclusion_cases _

theorem Client.Asks.outcome_eq {c : Client} {q : ClientRequest} {request : RaceRequest} (h : c.Asks q request)
    (app : App) : c.outcome app = c.conclusion (Race.decide app.registry app.limit c.sent request).1 := by
  simp only [Client.outcome, h.body, h.accepted]

namespace Session

private theorem method_ne_head {r : Http.Request} (h : Endpoint.find r = .ok .chat) : r.method ≠ "HEAD" := by
  intro hhead
  unfold Endpoint.find at h
  split at h
  · nomatch h
  · split at h
    · rename_i hmethod
      rw [Except.ok.inj h, hhead] at hmethod
      simp [Endpoint.methods] at hmethod
    · nomatch h

/-- The session of a request for an answer that has been read ends as the verdict of its race says, or with the
refusal. -/
private theorem endsAs_receive {c : Client} {q : ClientRequest} (hq : ClientRequest.ofBody c.request = .ok q) :
    EndsAs app (c.outcome app) (receive app ⟨c, .waiting⟩ q).1 := by
  cases hr : q.toRace c.identity.requestId with
  | error refusal =>
    simp only [Client.outcome, receive, hq, hr]
    refine .ended rfl ?_
    simp only [refuse, answerWith, Nat.sub_self]
  | ok request =>
    cases he : Race.enter app.registry app.limit c.sent request with
    | error e =>
      -- the client is told at once, so nobody can have left before
      have hstays : (c.patience.any fun p => c.sent + p < c.sent) = false := by
        rw [Option.any_eq_false]
        intro p hp
        rw [decide_eq_false_iff_not]
        omega
      have hnot : c.leavesBefore e c.sent = false := by
        rcases Race.enter_eq_error he with rfl | ⟨id, rfl⟩ | ⟨rfl, -⟩ <;> exact hstays
      simp only [Client.outcome, receive, hq, hr, he, Race.decide, Client.conclusion, hnot]
      exact .ended rfl rfl
    | ok r =>
      obtain ⟨bs, hne, hbs, rfl⟩ := Race.of_enter_eq_ok he
      have hway : (Race.launched bs app.limit c.sent request).IsUnderWay :=
        Race.isUnderWay_launched hne app.limit c.sent request
      have hdecide : (Race.decide app.registry app.limit c.sent request).1 =
          (Race.launched bs app.limit c.sent request).run.1 := by
        simp only [Race.decide, he, Race.launched]
      simp only [Client.outcome, receive, hq, hr, he, hdecide]
      split
      · rename_i hpatience
        obtain ⟨hv, hdue⟩ := hway.isVerdict_run
        have hstart : c.sent ≤ (Race.launched bs app.limit c.sent request).due := hway.start_le_due
        have hlimit := Race.limit_ne_zero he
        refine .ended rfl (conclusion_of_left hpatience hv (Nat.le_trans hstart hdue) ?_).symm
        exact Nat.lt_add_of_pos_right (Nat.pos_of_ne_zero hlimit)
      · exact endsAs_racing_run hway c q.stream

/-- The session of a request for an answer ends as its client's outcome says. -/
theorem endsAs_outcome {c : Client} (h : Endpoint.find c.request = .ok .chat) :
    EndsAs app (c.outcome app) ⟨c, .waiting⟩ := by
  refine .step rfl fun metrics => ?_
  cases hq : ClientRequest.ofBody c.request with
  | error f =>
    have hmethod := method_ne_head h
    simp only [step, arrive, h, hq, Client.outcome, hmethod]
    refine .ended rfl ?_
    simp only [answerWith, Nat.sub_self, if_false]
  | ok q =>
    simp only [step, arrive, h, hq]
    exact endsAs_receive hq

end Session

/-- Whoever else is served, a client who sends a request for an answer has its outcome in the end. -/
theorem Server.serve_outcome {srv : Server} {clients : List Client} {k : Nat} {c : Client} (hc : clients[k]? = some c)
    (h : Endpoint.find c.request = .ok .chat) : (srv.serve clients).1[k]? = some (c.outcome srv.app) :=
  serve_endsAs hc (Session.endsAs_outcome h)

end ChatRace
