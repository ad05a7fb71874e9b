import ChatRace.Proofs.Gateway.Winner
import ChatRace.Proofs.Metrics.Account

/-!
# Conservation of the metrics

At every moment of serving, each account of the metrics is the sum of the shares that the sessions have in it, and
the share of a session is told by its client and its stage (`Session.share`): a race under way is a request under
way, and a request that has been handled and answered is counted by its status.  Each step of a session tells the
metrics by how much its share changes (`settles_step`), so the accounts stay right as long as the server runs
(`conserved_runFor`).
-/

namespace ChatRace

open Chat Metrics

/-! ### Requests and their answers -/

/-- The request for an answer that a client makes, if it is one that gets to be handled. -/
def Client.asked? (c : Client) : Option ClientRequest :=
  match Endpoint.find c.request with
  | .ok .chat => (ClientRequest.ofBody c.request).toOption
  | .ok .health | .ok .metrics | .ok .models | .error _ => none

/-- The status of the response, once there is a head. -/
def Stage.status? : Stage → Option Nat
  | .relaying _ _ _ => some 200
  | .answered a => some a.status
  | .waiting | .racing _ _ | .aborted => none

/-- The reason under which the race was lost that is answered with a status. -/
def lossOf? : Nat → Option String
  | 502 => some "all_failed"
  | 504 => some "timeout"
  | _ => none

theorem Problem.lossOf?_status (p : Problem) : lossOf? p.status = p.raceFailure? := by cases p <;> rfl

theorem Problem.status_ne_ok (p : Problem) : p.status ≠ 200 := by cases p <;> simp [status]

namespace Session

/-- Whether the request is under way: a race for it goes on. -/
def isRacing (s : Session) : Bool :=
  match s.stage with
  | .racing _ _ => true
  | .waiting | .relaying _ _ _ | .answered _ | .aborted => false

/-- The mode of a request for an answer that has been handled, and the status with which it has been answered. -/
def reply? (s : Session) : Option (Bool × Nat) :=
  s.client.asked?.bind fun q => s.stage.status?.map fun status => (q.stream, status)

/-- Whether the request has been answered by the winner of a race. -/
def isWon (s : Session) : Bool := s.reply?.any (·.2 == 200)

/-- The number of the candidates that the request names. -/
def candidateCount (s : Session) : Nat := (s.client.asked?.map fun q => (candidates q.model).length).getD 0

end Session

/-! ### Shares -/

/-- What a request in some mode that names `count` candidates and has been answered with a status adds to an
account. -/
def answeredShare (count : Nat) (stream : Bool) (status : Nat) : Account → Int
  | .inflight => 0
  | .requests status' stream' => if status = status' ∧ stream = stream' then 1 else 0
  | .allRequests | .durations => 1
  | .races stream' | .firstUnits stream' => if status = 200 ∧ stream = stream' then 1 else 0
  | .allRaces | .wonAttempts => if status = 200 then 1 else 0
  | .failures reason => if lossOf? status = some reason then 1 else 0
  | .allAttempts => if status = 200 then count else 0

/-- What a session adds to an account. -/
def Session.share (s : Session) (a : Account) : Int :=
  if s.isRacing then Observation.enter.credit a
  else s.reply?.elim 0 fun reply => answeredShare s.candidateCount reply.1 reply.2 a

/-- The observations among some effects. -/
def observations (effects : List Effect) : List Observation :=
  effects.filterMap fun
    | .line _ => none
    | .observe o => some o

theorem observations_line (log : List Traffic) : observations (log.map .line) = [] := by
  simp [observations, List.filterMap_map]

theorem observations_append (xs ys : List Effect) :
    observations (xs ++ ys) = observations xs ++ observations ys := List.filterMap_append ..

namespace Session

/-- A request that is raced was asked for, and the race is that of its candidates. -/
def IsSound (s : Session) : Prop :=
  ∀ stream r, s.stage = .racing stream r → ∃ q, s.client.asked? = some q ∧ stream = q.stream ∧
    r.request.stream = q.stream ∧ r.entrants.length = (candidates q.model).length ∧ r.IsUnderWay

/-- A step tells the metrics by how much it changes the share of a session. -/
structure Settles (s : Session) (step : Session × List Effect) : Prop where
  client : step.1.client = s.client
  sound : step.1.IsSound
  ofChat : ∀ o ∈ observations step.2, o.IsOfChat
  solvent : IsSolvent (s.share .inflight) (observations step.2)
  share : ∀ a, s.share a + credits (observations step.2) a = step.1.share a

variable {app : App} {metrics : Metrics} {s : Session} {q : ClientRequest} {step : Session × List Effect}

theorem share_of_isRacing (h : s.isRacing = true) (a : Account) : s.share a = Observation.enter.credit a := by
  simp [share, h]

theorem isRacing_of_reply? {reply : Bool × Nat} (h : s.reply? = some reply) : s.isRacing = false := by
  cases hs : s.stage with
  | racing _ _ => simp [reply?, Stage.status?, hs] at h
  | waiting | relaying _ _ _ | answered _ | aborted => simp [isRacing, hs]

theorem share_of_reply? {stream : Bool} {status : Nat} (h : s.reply? = some (stream, status)) (a : Account) :
    s.share a = answeredShare s.candidateCount stream status a := by
  simp [share, isRacing_of_reply? h, h]

theorem share_of_not_replied (hover : s.isRacing = false) (h : s.reply? = none) (a : Account) :
    s.share a = 0 := by
  simp [share, hover, h]

theorem isSound_of_not_racing (h : s.isRacing = false) : s.IsSound := by
  intro stream r hs
  simp [isRacing, hs] at h

private theorem Settles.silent (hclient : step.1.client = s.client) (hsound : step.1.IsSound)
    (htold : observations step.2 = []) (hshare : ∀ a, step.1.share a = s.share a) : s.Settles step where
  client := hclient
  sound := hsound
  ofChat := by simp [htold]
  solvent := by simp [htold, IsSolvent]
  share := fun a => by simp [htold, credits, hshare]

/-- A session has a request under way, or one that has been answered, or nothing that is counted. -/
theorem share_cases (s : Session) :
    (s.isRacing = true ∧ s.reply? = none ∧ ∀ a, s.share a = Observation.enter.credit a) ∨
    (s.isRacing = false ∧ s.reply? = none ∧ ∀ a, s.share a = 0) ∨
    ∃ stream status, s.isRacing = false ∧ s.reply? = some (stream, status) ∧
      ∀ a, s.share a = answeredShare s.candidateCount stream status a := by
  cases hr : s.reply? with
  | some reply =>
    obtain ⟨stream, status⟩ := reply
    exact .inr (.inr ⟨stream, status, isRacing_of_reply? hr, rfl, share_of_reply? hr⟩)
  | none =>
    cases hover : s.isRacing with
    | true => exact .inl ⟨rfl, rfl, share_of_isRacing hover⟩
    | false => exact .inr (.inl ⟨rfl, rfl, share_of_not_replied hover hr⟩)

/-! ### Answers -/

/-- The handling of a request ends with an answer, which the metrics are told of. -/
structure Concludes (s : Session) (q : ClientRequest) (status : Nat) (step : Session × List Effect) : Prop where
  client : step.1.client = s.client
  head : step.1.stage.status? = some status
  ofChat : ∀ o ∈ observations step.2, o.IsOfChat
  solvent : IsSolvent 1 (observations step.2)
  credits : ∀ a, credits (observations step.2) a =
    answeredShare (candidates q.model).length q.stream status a + Observation.leave.credit a

private theorem observations_refuse (s : Session) (now : Nat) (stream : Bool) (p : Problem) :
    observations (s.refuse now stream p).2 = p.raceFailure?.toList.map .raceFailure ++
      [.request Endpoint.chat.path "POST" stream p.status ((now - s.client.sent) * 10 ^ 6), .leave] := by
  cases p <;> rfl

theorem concludes_refuse (s : Session) (q : ClientRequest) (now : Nat) (p : Problem) :
    s.Concludes q p.status (s.refuse now q.stream p) where
  client := rfl
  head := rfl
  ofChat := by
    rw [observations_refuse]
    cases p.raceFailure? <;> simp [Observation.IsOfChat]
  solvent := by
    rw [observations_refuse]
    cases p.raceFailure? <;> simp [IsSolvent, Observation.credit]
  credits := fun a => by
    have hloss := p.lossOf?_status
    have hne := p.status_ne_ok
    rw [observations_refuse]
    cases hreason : p.raceFailure? <;> cases a <;>
      simp [credits, Observation.credit, answeredShare, hloss, hne, hreason]

theorem accept_cases (s : Session) (now : Nat) (v : Victory) :
    (s.accept now v).1.client = s.client ∧ (s.accept now v).1.stage.status? = some 200 ∧
    observations (s.accept now v).2 = [.race v.winner v.stream (v.latency * 10 ^ 6) (v.attempts.map (·.state)),
      .request Endpoint.chat.path "POST" v.stream 200 ((now - s.client.sent) * 10 ^ 6), .leave] := by
  cases hu : v.unit <;> simp only [accept, WinnerResponse.ofUnit, hu] <;> exact ⟨trivial, rfl, rfl⟩

theorem concludes_accept (s : Session) {q : ClientRequest} {v : Victory} (hstream : v.stream = q.stream)
    (hwon : (v.attempts.map (·.state)).count .won = 1)
    (hlength : v.attempts.length = (candidates q.model).length) (now : Nat) :
    s.Concludes q 200 (s.accept now v) := by
  obtain ⟨hclient, hhead, hobs⟩ := s.accept_cases now v
  refine ⟨hclient, hhead, ?_, ?_, fun a => ?_⟩
  · simp [hobs, Observation.IsOfChat]
  · simp [hobs, IsSolvent, Observation.credit]
  · cases a <;> simp [hobs, credits, Observation.credit, answeredShare, hstream, hwon, hlength, lossOf?]

private theorem Concludes.sound {status : Nat} (h : s.Concludes q status step) : step.1.IsSound := by
  apply isSound_of_not_racing
  cases hstage : step.1.stage with
  | racing stream r => simpa [hstage, Stage.status?] using h.head
  | waiting | relaying _ _ _ | answered _ | aborted => simp [isRacing, hstage]

private theorem Concludes.share_eq {status : Nat} (h : s.Concludes q status step)
    (hq : s.client.asked? = some q) (a : Account) :
    step.1.share a = answeredShare (candidates q.model).length q.stream status a := by
  have hreply : step.1.reply? = some (q.stream, status) := by simp [reply?, h.client, hq, h.head]
  have hcount : step.1.candidateCount = (candidates q.model).length := by simp [candidateCount, h.client, hq]
  rw [share_of_reply? hreply, hcount]

private theorem credit_enter_add_leave (a : Account) :
    Observation.enter.credit a + Observation.leave.credit a = 0 := by
  cases a <;> rfl

private theorem Concludes.settles_racing {status : Nat} (h : s.Concludes q status step)
    (hq : s.client.asked? = some q) (hs : s.isRacing = true) : s.Settles step where
  client := h.client
  sound := h.sound
  ofChat := h.ofChat
  solvent := by
    rw [share_of_isRacing hs]
    exact h.solvent
  share := fun a => by
    have hzero := credit_enter_add_leave a
    rw [share_of_isRacing hs, h.share_eq hq, h.credits]
    omega

/-! ### Steps -/

private theorem share_of_waiting (hs : s.stage = .waiting) (a : Account) : s.share a = 0 :=
  share_of_not_replied (by simp [isRacing, hs]) (by simp [reply?, Stage.status?, hs]) a

private theorem credits_cons (o : Observation) (os : List Observation) (a : Account) :
    credits (o :: os) a = o.credit a + credits os a := by
  simp [credits]

private theorem Concludes.settles_waiting {status : Nat} (h : s.Concludes q status step)
    (hq : s.client.asked? = some q) (hs : s.stage = .waiting) :
    s.Settles (step.1, .observe .enter :: step.2) := by
  have hobs : observations (.observe .enter :: step.2) = .enter :: observations step.2 := rfl
  refine ⟨h.client, h.sound, ?_, ?_, fun a => ?_⟩
  · rw [hobs]
    exact List.forall_mem_cons.2 ⟨trivial, h.ofChat⟩
  · rw [hobs, share_of_waiting hs]
    exact ⟨by decide, h.solvent⟩
  · have hzero := credit_enter_add_leave a
    rw [hobs, share_of_waiting hs, h.share_eq hq, credits_cons, h.credits]
    omega

private theorem settles_receive (hs : s.stage = .waiting) (hq : s.client.asked? = some q) :
    s.Settles (s.receive app q) := by
  cases hr : q.toRace s.client.identity.requestId with
  | error refusal =>
    simp only [receive, hr]
    exact (s.concludes_refuse q _ _).settles_waiting hq hs
  | ok request =>
    cases he : Race.enter app.registry app.limit s.client.sent request with
    | error e =>
      simp only [receive, hr, he]
      exact (s.concludes_refuse q _ _).settles_waiting hq hs
    | ok race =>
      simp only [receive, hr, he]
      split
      · -- the client leaves as soon as the request has entered
        refine ⟨rfl, isSound_of_not_racing rfl, ?_, ?_, fun a => ?_⟩
        · simp [observations, Observation.IsOfChat]
        · simp [share_of_waiting hs, observations, IsSolvent, Observation.credit]
        · rw [share_of_waiting hs, share_of_not_replied rfl (by simp [reply?, Stage.status?])]
          simpa [observations, credits] using credit_enter_add_leave a
      · obtain ⟨bs, hne, hbs, rfl⟩ := Race.of_enter_eq_ok he
        obtain rfl := ClientRequest.of_toRace_eq_ok hr
        have hobs (calls : List Traffic) : observations (.observe .enter :: calls.map .line) = [.enter] := by
          rw [← observations_line calls]
          rfl
        refine ⟨rfl, ?_, ?_, ?_, fun a => ?_⟩
        · intro stream r hstage
          obtain ⟨rfl, rfl⟩ := Stage.racing.inj hstage
          refine ⟨q, hq, rfl, rfl, ?_, Race.isUnderWay_launched hne _ _ _⟩
          simp [Race.launch, Race.between, Race.length_resolve hbs]
        · simp [hobs, Observation.IsOfChat]
        · simp [share_of_waiting hs, hobs, IsSolvent, Observation.credit]
        · rw [share_of_waiting hs, share_of_isRacing rfl, hobs]
          simp [credits]

/-- A request for something else, or one that cannot be read, is answered without regard to the metrics. -/
private theorem settles_answered {s' : Session} (hs : s.stage = .waiting) (hq : s.client.asked? = none)
    (hclient : s'.client = s.client) (hover : s'.isRacing = false) : s.Settles (s', []) :=
  .silent hclient (isSound_of_not_racing hover) rfl fun a => by
    rw [share_of_waiting hs, share_of_not_replied hover (by simp [reply?, hclient, hq])]

private theorem settles_arrive (hs : s.stage = .waiting) : s.Settles (s.arrive app metrics) := by
  cases hf : Endpoint.find s.client.request with
  | error response =>
    simp only [arrive, hf]
    exact settles_answered hs (by simp [Client.asked?, hf]) rfl rfl
  | ok e =>
    cases e with
    | health | metrics | models =>
      simp only [arrive, hf]
      exact settles_answered hs (by simp [Client.asked?, hf]) rfl rfl
    | chat =>
      cases hb : ClientRequest.ofBody s.client.request with
      | error f =>
        simp only [arrive, hf, hb]
        exact settles_answered hs (by simp [Client.asked?, hf, hb, Except.toOption]) rfl rfl
      | ok q =>
        simp only [arrive, hf, hb]
        exact settles_receive hs (by simp [Client.asked?, hf, hb, Except.toOption])

private theorem settles_abort {stream : Bool} {r : Race} (hs : s.stage = .racing stream r) (log : List Traffic) :
    s.Settles ({ s with stage := .aborted }, log.map .line ++ [.observe .leave]) := by
  have hracing : s.isRacing = true := by simp [isRacing, hs]
  have hobs : observations (log.map .line ++ [.observe .leave]) = [.leave] := by
    rw [observations_append, observations_line]
    rfl
  refine ⟨rfl, isSound_of_not_racing rfl, ?_, ?_, fun a => ?_⟩
  · simp [hobs, Observation.IsOfChat]
  · simp [hobs, share_of_isRacing hracing, IsSolvent, Observation.credit]
  · rw [share_of_isRacing hracing, share_of_not_replied rfl (by simp [reply?, Stage.status?]), hobs]
    simpa [credits] using credit_enter_add_leave a

private theorem Settles.with_lines {s' : Session} {effects : List Effect} (h : s.Settles (s', effects))
    (log : List Traffic) : s.Settles (s', log.map .line ++ effects) := by
  have hobs : observations (log.map .line ++ effects) = observations effects := by
    rw [observations_append, observations_line, List.nil_append]
  exact ⟨h.client, h.sound, hobs ▸ h.ofChat, hobs ▸ h.solvent, hobs ▸ h.share⟩

private theorem settles_afterRace (hq : s.client.asked? = some q) {r : Race} (hs : s.stage = .racing q.stream r)
    (hstream : r.request.stream = q.stream) (hlength : r.entrants.length = (candidates q.model).length)
    (hr : r.IsUnderWay) {p : Progress} {log : List Traffic} (hstep : r.step = (p, log)) :
    s.Settles (s.afterRace q.stream p) := by
  have hracing : s.isRacing = true := by simp [isRacing, hs]
  cases p with
  | running r' =>
    obtain ⟨hrequest, hentrants⟩ := Race.of_step_running hstep
    refine .silent rfl ?_ rfl fun a => ?_
    · intro stream r'' hstage
      obtain ⟨rfl, rfl⟩ := Stage.racing.inj hstage
      exact ⟨q, hq, rfl, hrequest ▸ hstream, hentrants.trans hlength, hr.of_step hstep⟩
    · rw [share_of_isRacing hracing, share_of_isRacing rfl]
  | decided verdict =>
    obtain ⟨now, result⟩ := verdict
    cases result with
    | error e => exact (s.concludes_refuse q now e.problem).settles_racing hq hracing
    | ok v =>
      obtain ⟨hv, hcount, hwon⟩ := hr.of_won hstep
      exact (s.concludes_accept (hv.trans hstream) hwon (hcount.trans hlength) now).settles_racing hq hracing

/-- The answer whose head has come is not counted again when its body has come. -/
private theorem settles_relay {headers : Http.Headers} {headTime : Nat} {t : Transmission}
    (hs : s.stage = .relaying headers headTime t) : s.Settles (s.step app metrics) := by
  have hshare (s' : Session) (hclient : s'.client = s.client) (hhead : s'.stage.status? = some 200)
      (hover : s'.isRacing = false) (a : Account) : s'.share a = s.share a := by
    have hhead' : s.stage.status? = some 200 := by simp [hs, Stage.status?]
    have hreply : s'.reply? = s.reply? := by simp [reply?, hclient, hhead, hhead']
    have hcount : s'.candidateCount = s.candidateCount := by simp [candidateCount, hclient]
    have hover' : s.isRacing = false := by simp [isRacing, hs]
    simp only [share, hover, hover', hreply, hcount]
  cases ht : t.step with
  | mk f log =>
    cases f with
    | running u =>
      simp only [step, hs, ht]
      exact .silent rfl (isSound_of_not_racing rfl) (observations_line log) (hshare _ rfl rfl rfl)
    | ended u complete =>
      simp only [step, hs, ht]
      exact .silent rfl (isSound_of_not_racing rfl) (observations_line log) (hshare _ rfl rfl rfl)

/-- Each step of a session tells the metrics by how much its share changes. -/
theorem settles_step (h : s.IsSound) (app : App) (metrics : Metrics) : s.Settles (s.step app metrics) := by
  cases hs : s.stage with
  | waiting =>
    simp only [step, hs]
    exact settles_arrive hs
  | racing stream r =>
    obtain ⟨q, hq, rfl, hstream, hlength, hr⟩ := h _ _ hs
    simp only [step, hs]
    split
    · exact settles_abort hs _
    · exact (settles_afterRace hq hs hstream hlength hr rfl).with_lines _
  | relaying headers headTime t => exact settles_relay hs
  | answered _ | aborted =>
    simp only [step, hs]
    exact .silent rfl h rfl fun _ => rfl

end Session

/-! ### Runs -/

namespace Server

variable {srv : Server} {queue : List (Nat × Session)}

/-- The sessions of some clients, each with its number. -/
def enqueue (clients : List Client) : List (Nat × Session) :=
  let sessions : List Session := clients.map (⟨·, .waiting⟩)
  (List.range sessions.length).zip sessions

/-- The accounts of the metrics are the sums of what the sessions have in them. -/
structure IsAccounted (srv : Server) (queue : List (Nat × Session)) : Prop where
  ofChat : srv.metrics.IsOfChat
  sound : ∀ x ∈ queue, x.2.IsSound
  balance : ∀ a, (srv.metrics.balance a : Int) = (queue.map (·.2.share a)).sum

theorem metrics_absorb (srv : Server) (effects : List Effect) :
    (effects.foldl absorb srv).metrics = (observations effects).foldl Metrics.observe srv.metrics := by
  induction effects generalizing srv with
  | nil => rfl
  | cons e effects ih =>
    rw [List.foldl_cons, ih]
    cases e <;> rfl

/-- What the session whose turn it is has in the requests under way is part of the whole. -/
private theorem share_inflight_le {t : Turn (Nat × Session)} (h : t.put t.chosen = queue) :
    t.chosen.2.share .inflight ≤ (queue.map (·.2.share .inflight)).sum := by
  have hnonneg (xs : List (Nat × Session)) : 0 ≤ (xs.map (·.2.share .inflight)).sum := by
    induction xs with
    | nil => exact Int.le_refl 0
    | cons x xs ih =>
      have hx : 0 ≤ x.2.share .inflight := by
        rcases x.2.share_cases with ⟨-, -, h⟩ | ⟨-, -, h⟩ | ⟨stream, status, -, -, h⟩ <;>
          simp [h, Observation.credit, answeredShare]
      rw [List.map_cons, List.sum_cons]
      omega
  have hbefore := hnonneg t.before
  have hafter := hnonneg t.after
  simp only [← h, Turn.put, List.map_append, List.map_cons, List.sum_append, List.sum_cons]
  omega

theorem IsAccounted.advance (h : srv.IsAccounted queue) {t : Turn (Nat × Session)}
    (ht : Turn.first? (fun x => x.2.due?) queue = some t) :
    (srv.advance t.due t.chosen.2).2.IsAccounted
      (t.before ++ t.after ++ [(t.chosen.1, (t.chosen.2.step srv.app srv.metrics).1)]) := by
  have hput := Turn.put_chosen ht
  have hsettles := Session.settles_step (h.sound _ (Turn.chosen_mem ht)) srv.app srv.metrics
  have hmetrics : (srv.advance t.due t.chosen.2).2.metrics =
      (observations (t.chosen.2.step srv.app srv.metrics).2).foldl Metrics.observe srv.metrics :=
    metrics_absorb ..
  have hle : t.chosen.2.share .inflight ≤ srv.metrics.balance .inflight := by
    rw [h.balance]
    exact share_inflight_le hput
  obtain ⟨hchat, hbalance⟩ := h.ofChat.observe_all hsettles.ofChat hle hsettles.solvent
  refine ⟨hmetrics ▸ hchat, fun x hx => ?_, fun a => ?_⟩
  · simp only [List.mem_append, List.mem_singleton] at hx
    rcases hx with hx | rfl
    · refine h.sound x ?_
      rw [← hput]
      simp only [Turn.put, List.mem_append, List.mem_cons]
      exact hx.imp_right .inr
    · exact hsettles.sound
  · have hshare := hsettles.share a
    rw [hmetrics, hbalance, h.balance, ← hput]
    simp only [Turn.put, List.map_append, List.map_cons, List.map_nil, List.sum_append, List.sum_cons,
      List.sum_nil]
    omega

private theorem IsAccounted.clients_perm (h : srv.IsAccounted queue) {t : Turn (Nat × Session)}
    (ht : Turn.first? (fun x => x.2.due?) queue = some t) :
    ((t.before ++ t.after ++ [(t.chosen.1, (t.chosen.2.step srv.app srv.metrics).1)]).map (·.2.client)).Perm
      (queue.map (·.2.client)) := by
  have hclient := (Session.settles_step (h.sound _ (Turn.chosen_mem ht)) srv.app srv.metrics).client
  rw [← Turn.put_chosen ht]
  simp only [Turn.put, List.map_append, List.map_cons, List.map_nil, List.append_assoc, hclient]
  exact List.Perm.append_left _ List.perm_append_comm

/-- The accounts are right at every moment, and nobody is lost. -/
theorem IsAccounted.runFor (h : srv.IsAccounted queue) (steps : Nat) :
    (srv.runFor steps queue).2.IsAccounted (srv.runFor steps queue).1 ∧
      ((srv.runFor steps queue).1.map (·.2.client)).Perm (queue.map (·.2.client)) := by
  induction steps generalizing srv queue with
  | zero => exact ⟨h, List.Perm.refl _⟩
  | succ steps ih =>
    cases ht : Turn.first? (fun x => x.2.due?) queue with
    | none =>
      simp only [Server.runFor, ht]
      exact ⟨h, List.Perm.refl _⟩
    | some t =>
      rw [runFor_of_turn ht]
      exact (ih (h.advance ht)).imp_right fun hperm => hperm.trans (h.clients_perm ht)

theorem stage_of_mem_enqueue {clients : List Client} {x : Nat × Session} (h : x ∈ enqueue clients) :
    x.2.stage = .waiting := by
  obtain ⟨c, -, hc⟩ := List.mem_map.1 (List.of_mem_zip h).2
  rw [← hc]

theorem isAccounted_of_waiting (app : App) (hwaiting : ∀ x ∈ queue, x.2.stage = .waiting) :
    (fresh app).IsAccounted queue := by
  refine ⟨isOfChat_empty, fun x hx => ?_, fun a => ?_⟩
  · exact Session.isSound_of_not_racing (by simp [Session.isRacing, hwaiting x hx])
  · have hzero (xs : List (Nat × Session)) (h : ∀ x ∈ xs, x.2.stage = .waiting) :
        (xs.map (·.2.share a)).sum = 0 := by
      induction xs with
      | nil => rfl
      | cons x xs ih =>
        obtain ⟨hx, hxs⟩ := List.forall_mem_cons.1 h
        rw [List.map_cons, List.sum_cons, Session.share_of_waiting hx, ih hxs, Int.add_zero]
    have hempty : (fresh app).metrics.balance a = 0 := balance_empty a
    rw [hempty, hzero _ hwaiting]
    rfl

/-! ### The accounts one by one -/

/-- What the metrics say of some sessions. -/
structure Conserved (m : Metrics) (sessions : List Session) : Prop where
  /-- The gauge shows the requests under way. -/
  inflight : m.balance .inflight = sessions.countP (·.isRacing)
  idle : (∀ s ∈ sessions, s.isRacing = false) → m.balance .inflight = 0
  /-- The answers are counted by status and mode, and their durations are measured. -/
  requests : ∀ status stream,
    m.balance (.requests status stream) = sessions.countP (·.reply? == some (stream, status))
  allRequests : m.balance .allRequests = sessions.countP (·.reply?.isSome)
  durations : m.balance .durations = m.balance .allRequests
  /-- The races that were won are those of the answers with status 200, and their first units are measured. -/
  races : ∀ stream, m.balance (.races stream) = sessions.countP (·.reply? == some (stream, 200))
  firstUnits : ∀ stream, m.balance (.firstUnits stream) = m.balance (.races stream)
  allRaces : m.balance .allRaces = m.balance (.races true) + m.balance (.races false)
  /-- The races that were lost are those of the answers with status 502 and 504. -/
  allFailed : m.balance (.failures "all_failed") = sessions.countP (·.reply?.any (·.2 == 502))
  timedOut : m.balance (.failures "timeout") = sessions.countP (·.reply?.any (·.2 == 504))
  /-- Each race that was won has one attempt that won, and an attempt with each candidate. -/
  wonAttempts : m.balance .wonAttempts = m.balance .allRaces
  allAttempts : m.balance .allAttempts = ((sessions.filter (·.isWon)).map (·.candidateCount)).sum

/-- An account in which each session has one or nothing shows how many of them have one. -/
private theorem sum_eq_countP {a : Account} {p : Session → Bool}
    (h : ∀ s : Session, s.share a = if p s then 1 else 0) (sessions : List Session) :
    (sessions.map (·.share a)).sum = (sessions.countP p : Int) := by
  induction sessions with
  | nil => rfl
  | cons s sessions ih =>
    rw [List.map_cons, List.sum_cons, ih, h, List.countP_cons]
    cases p s with
    | true => simp only [if_true, Int.natCast_add]; omega
    | false => simp

private theorem share_eq_ite {a : Account} {p : Bool × Nat → Bool} (hracing : Observation.enter.credit a = 0)
    (hanswered : ∀ count stream status,
      answeredShare count stream status a = if p (stream, status) then 1 else 0)
    (s : Session) : s.share a = if s.reply?.any p then 1 else 0 := by
  rcases s.share_cases with ⟨-, hr, h⟩ | ⟨-, hr, h⟩ | ⟨stream, status, -, hr, h⟩
  · simp [h, hracing, hr]
  · simp [h, hr]
  · simp [h, hanswered, hr]

private theorem sum_candidateCount (sessions : List Session) :
    (sessions.map (·.share .allAttempts)).sum =
      (((sessions.filter (·.isWon)).map (·.candidateCount)).sum : Nat) := by
  induction sessions with
  | nil => rfl
  | cons s sessions ih =>
    have hshare : s.share .allAttempts = if s.isWon then (s.candidateCount : Int) else 0 := by
      rcases s.share_cases with ⟨-, hr, h⟩ | ⟨-, hr, h⟩ | ⟨stream, status, -, hr, h⟩ <;>
        simp [h, Session.isWon, hr, Observation.credit, answeredShare]
    rw [List.map_cons, List.sum_cons, ih, hshare, List.filter_cons]
    split <;> simp

private theorem lossOf?_eq_allFailed {status : Nat} : lossOf? status = some "all_failed" ↔ status = 502 := by
  unfold lossOf?
  split <;> simp_all

private theorem lossOf?_eq_timeout {status : Nat} : lossOf? status = some "timeout" ↔ status = 504 := by
  unfold lossOf?
  split <;> simp_all

private theorem countP_won (sessions : List Session) :
    sessions.countP (·.reply?.any (·.2 == 200)) =
      sessions.countP (·.reply? == some (true, 200)) + sessions.countP (·.reply? == some (false, 200)) := by
  induction sessions with
  | nil => rfl
  | cons s sessions ih =>
    simp only [List.countP_cons, ih]
    cases hr : s.reply? with
    | none => simp
    | some reply =>
      obtain ⟨stream, status⟩ := reply
      cases stream <;> by_cases hstatus : status = 200 <;> simp [hstatus] <;> omega

private theorem IsAccounted.balance_eq_sum (h : srv.IsAccounted queue) (a : Account) :
    (srv.metrics.balance a : Int) = ((queue.map (·.2)).map (·.share a)).sum := by
  rw [h.balance, List.map_map]
  rfl

/-- An account to which only the answers of some sort add shows how many there are of them. -/
private theorem IsAccounted.balance_eq_countP (h : srv.IsAccounted queue) {a : Account} {p : Bool × Nat → Bool}
    (hracing : Observation.enter.credit a = 0)
    (hanswered : ∀ count stream status,
      answeredShare count stream status a = if p (stream, status) then 1 else 0) :
    srv.metrics.balance a = (queue.map (·.2)).countP (·.reply?.any p) :=
  Int.ofNat_inj.1 ((h.balance_eq_sum a).trans (sum_eq_countP (share_eq_ite hracing hanswered) _))

theorem IsAccounted.conserved (h : srv.IsAccounted queue) : Conserved srv.metrics (queue.map (·.2)) := by
  have hinflight : srv.metrics.balance .inflight = (queue.map (·.2)).countP (·.isRacing) := by
    refine Int.ofNat_inj.1 ((h.balance_eq_sum _).trans (sum_eq_countP (fun s => ?_) _))
    rcases s.share_cases with ⟨hs, -, h⟩ | ⟨hs, -, h⟩ | ⟨stream, status, hs, -, h⟩ <;>
      simp [h, hs, Observation.credit, answeredShare]
  have hany (reply : Bool × Nat) (s : Session) : s.reply?.any (· == reply) = (s.reply? == some reply) := by
    cases s.reply? <;> rfl
  have hraces (stream : Bool) := h.balance_eq_countP (a := .races stream) (p := (· == (stream, 200))) rfl
    (by simp [answeredShare, and_comm])
  have hunits (stream : Bool) := h.balance_eq_countP (a := .firstUnits stream) (p := (· == (stream, 200))) rfl
    (by simp [answeredShare, and_comm])
  have hall := h.balance_eq_countP (a := .allRequests) (p := fun _ => true) rfl (by simp [answeredShare])
  have hdurations := h.balance_eq_countP (a := .durations) (p := fun _ => true) rfl (by simp [answeredShare])
  have hallRaces := h.balance_eq_countP (a := .allRaces) (p := (·.2 == 200)) rfl (by simp [answeredShare])
  have hwon := h.balance_eq_countP (a := .wonAttempts) (p := (·.2 == 200)) rfl (by simp [answeredShare])
  simp only [hany] at hraces hunits
  refine {
    inflight := hinflight
    idle := fun hidle => ?_
    requests := fun status stream => ?_
    allRequests := ?_
    durations := hdurations.trans hall.symm
    races := hraces
    firstUnits := fun stream => (hunits stream).trans (hraces stream).symm
    allRaces := ?_
    allFailed := h.balance_eq_countP rfl (by simp [answeredShare, lossOf?_eq_allFailed])
    timedOut := h.balance_eq_countP rfl (by simp [answeredShare, lossOf?_eq_timeout])
    wonAttempts := hwon.trans hallRaces.symm
    allAttempts := Int.ofNat_inj.1 ((h.balance_eq_sum _).trans (sum_candidateCount _)) }
  · rw [hinflight]
    exact List.countP_eq_zero.2 fun s hs => by simp [hidle s hs]
  · have hrequests := h.balance_eq_countP (a := .requests status stream) (p := (· == (stream, status))) rfl
      (by simp [answeredShare, and_comm])
    simpa only [hany] using hrequests
  · simpa using hall
  · rw [hallRaces, hraces, hraces, countP_won]

theorem clients_enqueue (clients : List Client) : (enqueue clients).map (·.2.client) = clients := by
  have hzip (sessions : List Session) (keys : List Nat) (h : sessions.length ≤ keys.length) :
      (keys.zip sessions).map (·.2.client) = sessions.map (·.client) := by
    simpa [Function.comp_def] using congrArg (List.map (·.client)) (List.map_snd_zip h)
  rw [enqueue, hzip _ _ (by simp)]
  simp [Function.comp_def]

/-- Whoever has asked for what, and whenever they have left: the metrics of a fresh server are conserved at every
moment of serving some clients. -/
theorem conserved_runFor (app : App) (clients : List Client) (steps : Nat) :
    (((fresh app).runFor steps (enqueue clients)).1.map (·.2.client)).Perm clients ∧
      Conserved ((fresh app).runFor steps (enqueue clients)).2.metrics
        (((fresh app).runFor steps (enqueue clients)).1.map (·.2)) := by
  have hwaiting (x : Nat × Session) (hx : x ∈ enqueue clients) : x.2.stage = .waiting := stage_of_mem_enqueue hx
  obtain ⟨haccounted, hperm⟩ := (isAccounted_of_waiting app hwaiting).runFor steps
  rw [clients_enqueue] at hperm
  exact ⟨hperm, haccounted.conserved⟩

end Server

end ChatRace
