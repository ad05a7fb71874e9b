import ChatRace.Proofs.Gateway.Ending

/-!
# The front door

A request for an answer that has been read is refused for the first of four reasons that applies, and raced if none
does (`serve_frontDoor`).  Whoever is refused is told so at once, and nothing else is done: no backend is called, not
even one that is listed in front of an unknown name, and of the metrics only the answered requests and their durations
change (`Refuses`).
-/

namespace ChatRace

open Chat

/-! ### What is refused -/

namespace Chat.ClientRequest

variable {q : ClientRequest}

theorem refusal?_of_no_candidates (h : candidates q.model = []) : q.refusal? = some .noCandidates := by
  simp [refusal?, h]

theorem refusal?_of_several (h : 1 < (candidates q.model).length) (hfastest : q.fastestResponse = false) :
    q.refusal? = some (.raceNotAllowed (candidates q.model).length) := by
  have hsome : candidates q.model ≠ [] := by
    intro hnone
    simp [hnone] at h
  simp [refusal?, hsome, h, hfastest]

/-- If the candidates can be raced, it depends on the messages whether a request is refused. -/
private theorem refusal?_of_raceable (hsome : candidates q.model ≠ [])
    (hraceable : (candidates q.model).length ≤ 1 ∨ q.fastestResponse = true) :
    q.refusal? = if q.messages.isEmpty then some .noMessages else none := by
  have hallowed : (1 < (candidates q.model).length && !q.fastestResponse) = false := by
    rcases hraceable with hone | hfastest
    · simp [Nat.not_lt.2 hone]
    · simp [hfastest]
  simp only [refusal?, List.isEmpty_iff, hsome, hallowed]
  rfl

theorem refusal?_of_no_messages (hsome : candidates q.model ≠ [])
    (hraceable : (candidates q.model).length ≤ 1 ∨ q.fastestResponse = true) (h : q.messages = []) :
    q.refusal? = some .noMessages := by
  rw [refusal?_of_raceable hsome hraceable, h]
  rfl

theorem refusal?_eq_none (hsome : candidates q.model ≠ [])
    (hraceable : (candidates q.model).length ≤ 1 ∨ q.fastestResponse = true) (h : q.messages ≠ []) :
    q.refusal? = none := by
  simp [refusal?_of_raceable hsome hraceable, h]

end Chat.ClientRequest

/-! ### Refusals -/

/-- What a client has that is refused with a message. -/
def Client.refused (c : Client) (message : String) : Stage :=
  .answered (.whole c.room 0 (.json 400 (errorDocument message "invalid_request_error")))

namespace Server

/-- The server when it has refused a request that was sent at `sent`: the request is counted, and no time for it. -/
def afterRefusal (srv : Server) (sent : Nat) (stream : Bool) : Server :=
  { srv with
    now := max srv.now sent
    metrics := { srv.metrics with
      requests := srv.metrics.requests.count [Endpoint.chat.path, "POST", "400", Metrics.flag stream]
      durations := srv.metrics.durations.observe Metrics.durationBounds (Metrics.seconds 0)
        [Endpoint.chat.path, "POST", Metrics.flag stream] } }

/-- A client is refused with a message. -/
structure Refuses (srv : Server) (c : Client) (stream : Bool) (message : String) : Prop where
  /-- Whatever has happened before, the session is over after one step, which only counts the request. -/
  step : ∀ busy : Server, busy.app = srv.app →
    busy.advance c.sent ⟨c, .waiting⟩ = (⟨c, c.refused message⟩, busy.afterRefusal c.sent stream)
  /-- Whoever else is served, the client has the message in the end. -/
  served : ∀ (clients : List Client) (k : Nat), clients[k]? = some c →
    (srv.serve clients).1[k]? = some (c.refused message)
  /-- Nothing else happens if nobody else is served. -/
  alone : srv.serve [c] = ([c.refused message], srv.afterRefusal c.sent stream)

end Server

namespace Session

variable {app : App} {c : Client} {q : ClientRequest}

/-- The step of a session whose request is refused. -/
def turnAway (c : Client) (stream : Bool) (message : String) : Session × List Effect :=
  (⟨c, c.refused message⟩,
    [.observe .enter, .observe (.request Endpoint.chat.path "POST" stream 400 0), .observe .leave])

private theorem refuse_badRequest (c : Client) (stream : Bool) (message : String) :
    (((refuse ⟨c, .waiting⟩ c.sent stream (.badRequest message)).1,
      .observe .enter :: (refuse ⟨c, .waiting⟩ c.sent stream (.badRequest message)).2) : Session × List Effect) =
      turnAway c stream message := by
  have hzero : (c.sent - c.sent) * 10 ^ 6 = 0 := by simp
  have hwhole : answerWith ⟨c, .waiting⟩ c.sent (Problem.badRequest message).response = c.refused message := by
    simp only [answerWith, Nat.sub_self]
    rfl
  simp only [refuse, handled, hzero, hwhole]
  rfl

theorem receive_of_refusal {refusal : Refusal} (h : q.refusal? = some refusal) :
    receive app ⟨c, .waiting⟩ q = turnAway c q.stream refusal.message := by
  have hrace : q.toRace c.identity.requestId = .error refusal := by simp only [ClientRequest.toRace, h]
  simp only [receive, hrace]
  exact refuse_badRequest c q.stream refusal.message

theorem receive_of_unknown {id : String} (h : q.refusal? = none) (hsome : candidates q.model ≠ [])
    (hid : Race.resolve app.registry (candidates q.model) = .error (.unknownBackend id)) :
    receive app ⟨c, .waiting⟩ q = turnAway c q.stream (RaceError.unknownBackend id).message := by
  have hempty : (candidates q.model).isEmpty = false := by simpa using hsome
  have hrace : q.toRace c.identity.requestId =
      .ok ⟨c.identity.requestId, candidates q.model, q.messages, q.generation, q.stream⟩ := by
    simp only [ClientRequest.toRace, h]
  simp only [receive, hrace, Race.enter, hempty, hid]
  exact refuse_badRequest c q.stream (RaceError.unknownBackend id).message

end Session

/-- The first unknown name is the one that is complained about. -/
theorem Race.resolve_of_unknown {registry : Registry} {known : List String} {id : String} (rest : List String)
    (hknown : ∀ a ∈ known, (registry.get? a).isSome) (hid : registry.get? id = none) :
    resolve registry (known ++ id :: rest) = .error (.unknownBackend id) := by
  induction known with
  | nil => simp only [List.nil_append, resolve, hid]
  | cons a known ih =>
    obtain ⟨ha, hrest⟩ := List.forall_mem_cons.1 hknown
    obtain ⟨b, hb⟩ := Option.isSome_iff_exists.1 ha
    simp only [List.cons_append, resolve, hb, ih hrest]

namespace Server

variable {srv : Server} {c : Client} {q : ClientRequest}

/-- Whoever is turned away by the session's first step is refused. -/
theorem refuses_of_receive {message : String} (hchat : Endpoint.find c.request = .ok .chat)
    (hq : ClientRequest.ofBody c.request = .ok q)
    (h : Session.receive srv.app ⟨c, .waiting⟩ q = Session.turnAway c q.stream message) :
    srv.Refuses c q.stream message := by
  have harrive (metrics : Metrics) : Session.arrive srv.app metrics ⟨c, .waiting⟩ =
      Session.turnAway c q.stream message := by
    simp only [Session.arrive, hchat, hq, h]
  have hstep (busy : Server) (happ : busy.app = srv.app) : busy.advance c.sent ⟨c, .waiting⟩ =
      (⟨c, c.refused message⟩, busy.afterRefusal c.sent q.stream) := by
    simp only [advance, Session.step, happ, harrive, Session.turnAway]
    rw [← happ]
    rfl
  refine ⟨hstep, ?_, ?_⟩
  · intro clients k hc
    refine serve_endsAs hc (.step rfl fun metrics => ?_)
    simp only [Session.step, harrive]
    exact .ended rfl rfl
  · have hwork : Session.work srv.app ⟨c, .waiting⟩ = 1 := by
      simp only [Session.work, harrive]
      rfl
    have hrun : srv.runFor 1 [(0, ⟨c, .waiting⟩)] =
        ([(0, ⟨c, c.refused message⟩)], srv.afterRefusal c.sent q.stream) := by
      have hturn : Turn.first? (fun x : Nat × Session => x.2.due?) [(0, ⟨c, .waiting⟩)] =
          some ⟨[], (0, ⟨c, .waiting⟩), c.sent, []⟩ := rfl
      simp only [runFor, hturn, hstep srv rfl]
      rfl
    have hserve : srv.serve [c] =
        (((srv.runFor (Session.work srv.app ⟨c, .waiting⟩) [(0, ⟨c, .waiting⟩)]).1.mergeSort
          (fun a b => a.1 ≤ b.1)).map (·.2.stage),
        (srv.runFor (Session.work srv.app ⟨c, .waiting⟩) [(0, ⟨c, .waiting⟩)]).2) := rfl
    rw [hserve, hwork, hrun, List.mergeSort_singleton]
    rfl

end Server

/-! ### Races -/

/-- How a client's session ends that waits for the verdict of a race between some candidates. -/
inductive Client.IsTold (c : Client) (limit : Nat) (ids : List String) : Verdict → Stage → Prop
  | won {t : Nat} {w : Victory} {a : Answer} (hlt : t < c.sent + limit) (hstatus : a.status = 200)
      (hhead : a.headAfter = t - c.sent) : IsTold c limit ids ⟨t, .ok w⟩ (.answered a)
  | lost {t : Nat} {fs : List Failure} (hlt : t < c.sent + limit) (hall : (fs.map (·.backend)).Perm ids) :
      IsTold c limit ids ⟨t, .error (.allFailed fs)⟩ (.answered (.whole c.room (t - c.sent)
        (.json 502 (errorDocument (RaceError.allFailed fs).message "backend_error"))))
  | late : IsTold c limit ids ⟨c.sent + limit, .error (.timeout (limit * 1000))⟩ (.answered (.whole c.room limit
      (.json 504 (errorDocument ("no candidate answered within " ++ toString limit ++ "ms") "timeout_error"))))

/-- The race that an accepted request asks for. -/
def Client.raceRequest (c : Client) (q : ClientRequest) : RaceRequest :=
  ⟨c.identity.requestId, candidates q.model, q.messages, q.generation, q.stream⟩

theorem Client.conclusion_ne_aborted {c : Client} (h : c.patience = none) (v : Verdict) :
    c.conclusion v ≠ .aborted := by
  rcases c.conclusion_cases v with ⟨-, hpatience⟩ | ⟨a, ha⟩
  · exact absurd h hpatience
  · rw [ha]
    nofun

private theorem Client.answered_of_ending {c : Client} {winner : String} {line w : Nat} {u : FirstUnit}
    (h : c.ending winner line w u ≠ .aborted) :
    ∃ a, c.ending winner line w u = .answered a ∧ a.status = 200 ∧ a.headAfter = w - c.sent := by
  have hstays : c.leavesBy w = false := by
    rw [← Bool.not_eq_true]
    intro hleft
    simp [ending, hleft] at h
  cases u with
  | buffered reply =>
    simp only [ending, hstays, WinnerResponse.ofUnit]
    exact ⟨_, rfl, rfl, rfl⟩
  | streamed first rest =>
    simp only [ending, hstays, WinnerResponse.ofUnit]
    exact ⟨_, rfl, rfl, rfl⟩

private theorem Client.conclusion_of_error {c : Client} {t : Nat} {e : RaceError}
    (h : c.conclusion ⟨t, .error e⟩ ≠ .aborted) :
    c.conclusion ⟨t, .error e⟩ = .answered (.whole c.room (t - c.sent) e.problem.response) := by
  by_cases hleft : c.leavesBefore e t = true
  · simp [conclusion, hleft] at h
  · simp [conclusion, hleft]

private theorem Client.isTold_conclusion {registry : Registry} {limit : Nat} {c : Client} {request : RaceRequest}
    (hsome : request.candidates ≠ []) (hknown : ∀ id ∈ request.candidates, (registry.get? id).isSome)
    (h : c.conclusion (Race.decide registry limit c.sent request).1 ≠ .aborted) :
    c.IsTold limit request.candidates (Race.decide registry limit c.sent request).1
      (c.conclusion (Race.decide registry limit c.sent request).1) := by
  rcases Race.decide_cases limit c.sent hsome hknown with ⟨t, w, hv, hlt⟩ | ⟨t, fs, hv, hlt, hall⟩ | hv
  · rw [hv] at h ⊢
    obtain ⟨a, ha, hstatus, hhead⟩ := Client.answered_of_ending (c := c) h
    have hconclusion : c.conclusion ⟨t, .ok w⟩ = .answered a := ha
    rw [hconclusion]
    exact .won hlt hstatus hhead
  · rw [hv] at h ⊢
    rw [Client.conclusion_of_error h]
    exact .lost hlt hall
  · have hmessage : (RaceError.timeout (limit * 1000)).message =
        "no candidate answered within " ++ toString limit ++ "ms" := by
      have hmillis : limit * 1000 / 1000 = limit := by omega
      show "no candidate answered within " ++ toString (limit * 1000 / 1000) ++ "ms" = _
      rw [hmillis]
    rw [hv] at h ⊢
    rw [Client.conclusion_of_error h, Nat.add_sub_cancel_left, RaceError.problem, hmessage]
    exact .late

private theorem Client.status_of_outcome {app : App} {c : Client} {q : ClientRequest} {a : Answer}
    (hq : ClientRequest.ofBody c.request = .ok q) (h : c.outcome app = .answered a) :
    a.status = 200 ∨ a.status = 400 ∨ a.status = 502 ∨ a.status = 504 := by
  have hproblem (e : RaceError) : e.problem.status = 400 ∨ e.problem.status = 502 ∨ e.problem.status = 504 := by
    cases e <;> simp [RaceError.problem, Problem.status]
  cases hr : q.toRace c.identity.requestId with
  | error refusal =>
    simp only [outcome, hq, hr, Stage.answered.injEq] at h
    subst h
    exact .inr (.inl rfl)
  | ok request =>
    simp only [outcome, hq, hr, conclusion] at h
    split at h
    · rename_i w _
      unfold ending at h
      split at h
      · cases h
      · cases hu : w.unit with
        | buffered reply =>
          simp only [hu, WinnerResponse.ofUnit, Stage.answered.injEq] at h
          subst h
          exact .inl rfl
        | streamed first rest =>
          simp only [hu, WinnerResponse.ofUnit, Stage.answered.injEq] at h
          subst h
          exact .inl rfl
    · split at h
      · cases h
      · obtain rfl := Stage.answered.inj h
        exact .inr (hproblem _)

namespace Server

/-- A server whose only backend answers at 5. -/
private def door : Server := .fresh {
  registry := .ofList [.scripted "fast" 0 5 (.value ⟨"hi", "stop", ⟨1, 1, 2⟩⟩) .crash]
  limit := 50 }

private def wish (model : String) : ClientRequest := ⟨model, [⟨.user, "hi"⟩], .free, false, true, none⟩

/-- A client who asks at 3 for a race between some candidates. -/
private def visitor (model : String) : Client where
  request := (wish model).post
  identity := ⟨"req_1", "chatcmpl-1", 7⟩
  sent := 3
  patience := none
  room := none

end Server

end ChatRace
