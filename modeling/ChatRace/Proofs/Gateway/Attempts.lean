import ChatRace.Proofs.Gateway.History
import ChatRace.Proofs.Race.Connections
import ChatRace.Proofs.Race.Reports

/-!
# Attempts and their final states

A session makes its attempts when its race begins, one with each candidate (`Session.launches`), and the metrics are
told of their final states when the race is won (`Session.finalStates`).  Each step of a session makes and tells as
much as the two grow by (`tallies_step`), so in a run of the server the attempts that have been made and those that
have been counted are the sums over all sessions (`sum_runFor`).  They differ by the attempts for those races that
have begun and have not been won, since a race that is lost tells the metrics only why (`tallied_runFor`).
-/

namespace ChatRace

open Chat Metrics

/-! ### Calls -/

namespace Traffic

/-- The number of attempts that are made. -/
def launched (log : List Traffic) : Nat :=
  log.countP fun
    | .called _ _ => true
    | .pulled _ | .released _ => false

theorem launched_append (xs ys : List Traffic) : launched (xs ++ ys) = launched xs + launched ys :=
  List.countP_append ..

theorem launched_eq_zero {log : List Traffic} (h : ∀ line, calls line log = []) : launched log = 0 := by
  rw [launched, List.countP_eq_zero]
  intro t ht
  cases t with
  | called line request =>
    have hmem : request ∈ calls line log := List.mem_filterMap.2 ⟨_, ht, if_pos rfl⟩
    rw [h line] at hmem
    nomatch hmem
  | pulled line | released line => simp

end Traffic

theorem Race.launched_launch (bs : List Backend) (limit now : Nat) (request : RaceRequest) :
    Traffic.launched (between bs limit now request).launch.2 = bs.length := by
  rw [log_launch, Traffic.launched, List.countP_map]
  exact congrFun List.countP_true bs

namespace Transmission

private theorem launched_close (t : Transmission) : Traffic.launched t.close.2 = 0 := by
  unfold close
  split <;> rfl

private theorem launched_perform (now : Nat) (t : Transmission) (acts : List Relay.Act) :
    Traffic.launched (t.perform now acts).2 = 0 := by
  induction acts generalizing t with
  | nil => rfl
  | cons a acts ih =>
    have hact : Traffic.launched (t.act now a).2 = 0 := by
      cases a with
      | write data => rfl
      | pulled => rfl
      | release => exact launched_close t
    simp only [perform]
    split
    · rfl
    · rw [Traffic.launched_append, hact, ih]

theorem launched_step (t : Transmission) : Traffic.launched t.step.2 = 0 := by
  have hproceed (now : Nat) (u : Transmission) : Traffic.launched (u.proceed now).2 = 0 := by
    unfold proceed
    split
    · exact launched_close u
    · split
      · rfl
      · exact launched_close u
  unfold step
  split
  · exact launched_close t
  · split
    · rw [Traffic.launched_append, launched_perform, hproceed]
    · simp only
      split
      · exact launched_close _
      · rfl

end Transmission

/-! ### Counted states -/

namespace Metrics

/-- The final states that an observation counts. -/
def Observation.states : Observation → List AttemptState
  | .race _ _ _ states => states
  | .request .. | .raceFailure _ | .enter | .leave => []

/-- The number of attempts that have been counted under a final state. -/
def attemptsIn (m : Metrics) (state : AttemptState) : Nat := m.raceAttempts.total (· == [state.name]) id

private theorem total_foldl {m : Metrics} (h : m.raceAttempts.HasForm fun vs => ∃ v, vs = [v])
    (wanted : List String → Bool) (os : List Observation) :
    (os.foldl observe m).raceAttempts.total wanted id =
      m.raceAttempts.total wanted id + (os.flatMap (·.states)).countP fun state => wanted [state.name] := by
  induction os generalizing m with
  | nil => rfl
  | cons o os ih =>
    have hattempts : (m.observe o).raceAttempts =
        o.states.foldl (fun fam state => fam.count [state.name]) m.raceAttempts := by
      cases o <;> rfl
    have hform : (m.observe o).raceAttempts.HasForm fun vs => ∃ v, vs = [v] := by
      rw [hattempts]
      exact hasForm_countAll h o.states
    rw [List.foldl_cons, ih hform, hattempts, total_countAll h, List.flatMap_cons, List.countP_append, Nat.add_assoc]

/-- Counted are the states that have been observed. -/
theorem attempts_foldl_empty (os : List Observation) :
    (∀ state, (os.foldl observe empty).attemptsIn state = (os.flatMap (·.states)).count state) ∧
      (os.foldl observe empty).balance .allAttempts = (os.flatMap (·.states)).length := by
  have hempty : empty.raceAttempts.HasForm fun vs => ∃ v, vs = [v] := isOfChat_empty.raceAttempts
  have hzero (wanted : List String → Bool) : empty.raceAttempts.total wanted id = 0 := rfl
  refine ⟨fun state => ?_, ?_⟩
  · have hname (s : AttemptState) : ([s.name] == [state.name]) = (s == state) := by simpa using name_beq s state
    rw [attemptsIn, total_foldl hempty, hzero, Nat.zero_add, List.count_eq_countP]
    exact congrArg (List.countP · _) (funext hname)
  · rw [balance, total_foldl hempty, hzero, Nat.zero_add, List.countP_true]

end Metrics

/-! ### Sessions -/

/-- The victory in the race that a client asks for, if it is won. -/
def Client.victory? (app : App) (c : Client) : Option Victory :=
  c.asked?.bind fun q => (q.toRace c.identity.requestId).toOption.bind fun request =>
    (Race.decide app.registry app.limit c.sent request).1.result.toOption

/-- A race that is won reports an attempt with each candidate, one of them as the winner and none as pending. -/
theorem Client.states_of_victory {app : App} {c : Client} {v : Victory} (h : c.victory? app = some v) :
    ∃ q, c.asked? = some q ∧ v.attempts.length = (candidates q.model).length ∧
      (v.attempts.map (·.state)).count .won = 1 ∧ .pending ∉ v.attempts.map (·.state) := by
  obtain ⟨q, hq, hrace⟩ := Option.bind_eq_some_iff.1 h
  refine ⟨q, hq, ?_⟩
  cases hr : q.toRace c.identity.requestId with
  | error refusal => simp [hr, Except.toOption] at hrace
  | ok request =>
    cases hd : (Race.decide app.registry app.limit c.sent request).1 with
    | mk t result =>
      cases result with
      | error e => simp [hr, hd, Except.toOption] at hrace
      | ok w =>
        obtain rfl : w = v := by simpa [hr, hd, Except.toOption] using hrace
        have hstates := Race.states_of_won hd
        rwa [ClientRequest.of_toRace_eq_ok hr] at hstates

namespace Session

/-- Whether the request has been answered with a loss of the race. -/
def isLost (s : Session) : Bool := s.reply?.any fun reply => (lossOf? reply.2).isSome

/-- Whether attempts have been made for the request.  Without any time for the race it is lost without any, and a
client without any patience leaves before any is made. -/
def hasRaced (app : App) (s : Session) : Bool :=
  match s.stage with
  | .waiting => false
  | .racing _ _ => true
  | .relaying _ _ _ | .answered _ => s.isWon || (s.isLost && app.limit != 0)
  | .aborted => s.client.patience != some 0

/-- The number of attempts that have been made for the request: one with each candidate. -/
def launches (app : App) (s : Session) : Nat := if s.hasRaced app then s.candidateCount else 0

/-- The final states of the attempts that have been made for the request, once it has been answered by a winner. -/
def finalStates (app : App) (s : Session) : List AttemptState :=
  if s.isWon then (s.client.victory? app).elim [] (·.attempts.map (·.state)) else []

/-- A race that goes on for a client is the one that it asks for. -/
structure IsHeldFor (app : App) (c : Client) (r : Race) : Prop where
  asked : ∃ q, c.asked? = some q
  underWay : r.IsUnderWay
  victory : c.victory? app = r.run.1.result.toOption
  limit : app.limit ≠ 0
  patience : c.patience ≠ some 0

/-- What is known of a session: which race goes on for it, that it was won if it has been answered by a winner, and
that attempts have only been made with candidates. -/
structure IsBound (app : App) (s : Session) : Prop where
  race : ∀ stream r, s.stage = .racing stream r → IsHeldFor app s.client r
  won : s.isWon = true → ∃ v, s.client.victory? app = some v
  named : s.hasRaced app = true → s.candidateCount ≠ 0

/-- A step makes the attempts, and tells the metrics the final states, by which those of the session become more. -/
structure Tallies (app : App) (s : Session) (step : Session × List Effect) : Prop where
  bound : step.1.IsBound app
  launches : s.launches app + Traffic.launched (traffic step.2) = step.1.launches app
  states : s.finalStates app ++ (observations step.2).flatMap (·.states) = step.1.finalStates app

variable {app : App} {metrics : Metrics} {s : Session} {q : ClientRequest} {step : Session × List Effect}

private theorem nothing_of_not_raced (h : s.hasRaced app = false) (hwon : s.isWon = false) :
    s.launches app = 0 ∧ s.finalStates app = [] := by
  simp [launches, finalStates, h, hwon]

theorem nothing_of_waiting (h : s.stage = .waiting) : s.launches app = 0 ∧ s.finalStates app = [] :=
  nothing_of_not_raced (by simp [hasRaced, h]) (by simp [isWon, reply?, Stage.status?, h])

theorem reply?_of_status {status : Nat} (hq : s.client.asked? = some q) (h : s.stage.status? = some status) :
    s.reply? = some (q.stream, status) := by
  simp [reply?, hq, h]

/-- A request that has been answered has been raced if the race was won, or was lost in some time. -/
private theorem hasRaced_of_status {status : Nat} (h : s.stage.status? = some status) :
    s.hasRaced app = (s.isWon || (s.isLost && app.limit != 0)) := by
  unfold hasRaced
  cases hs : s.stage with
  | relaying _ _ _ | answered _ => rfl
  | waiting | racing _ _ | aborted => simp [hs, Stage.status?] at h

/-- A step after which there is no race and has been none. -/
private theorem Tallies.of_not_raced (hwaiting : s.stage = .waiting) (hafter : step.1.hasRaced app = false)
    (hwon : step.1.isWon = false) (hracing : step.1.isRacing = false) (htraffic : traffic step.2 = [])
    (hstates : (observations step.2).flatMap (·.states) = []) : s.Tallies app step := by
  obtain ⟨hlaunches, hfinal⟩ := nothing_of_not_raced hafter hwon
  obtain ⟨hnone, hnil⟩ := @nothing_of_waiting app s hwaiting
  refine ⟨⟨?_, by simp [hwon], by simp [hafter]⟩, ?_, ?_⟩
  · intro stream r hstage
    simp [isRacing, hstage] at hracing
  · rw [hnone, hlaunches, htraffic]
    rfl
  · rw [hnil, hfinal, hstates]
    rfl

theorem isBound_of_waiting (h : s.stage = .waiting) : s.IsBound app where
  race := by simp [h]
  won := by simp [isWon, reply?, Stage.status?, h]
  named := by simp [hasRaced, h]

theorem hasRaced_of_isWon (h : s.isWon = true) : s.hasRaced app = true := by
  obtain ⟨reply, hreply, -⟩ := (Option.any_eq_true ..).1 h
  obtain ⟨q, -, hhead⟩ := Option.bind_eq_some_iff.1 hreply
  obtain ⟨status, hstatus, -⟩ := Option.map_eq_some_iff.1 hhead
  rw [hasRaced_of_status hstatus, h, Bool.true_or]

theorem IsBound.states_of_isWon (h : s.IsBound app) (hwon : s.isWon = true) :
    (s.finalStates app).length = s.candidateCount ∧ (s.finalStates app).count .won = 1 ∧
      .pending ∉ s.finalStates app := by
  obtain ⟨v, hv⟩ := h.won hwon
  obtain ⟨q, hq, hlength, hcount, hpending⟩ := Client.states_of_victory hv
  have hstates : s.finalStates app = v.attempts.map (·.state) := by simp [finalStates, hwon, hv]
  rw [hstates, List.length_map, hlength, candidateCount, hq]
  exact ⟨rfl, hcount, hpending⟩

/-! ### Arrivals -/

theorem effects_refuse (s : Session) (now : Nat) (stream : Bool) (p : Problem) :
    traffic (s.refuse now stream p).2 = [] ∧ (observations (s.refuse now stream p).2).flatMap (·.states) = [] := by
  cases p <;> exact ⟨rfl, rfl⟩

private theorem tallies_turnedAway (hs : s.stage = .waiting) (hq : s.client.asked? = some q) {p : Problem}
    (hp : lossOf? p.status = none ∨ app.limit = 0) (now : Nat) :
    s.Tallies app ((s.refuse now q.stream p).1, .observe .enter :: (s.refuse now q.stream p).2) := by
  have hhead : (s.refuse now q.stream p).1.stage.status? = some p.status := rfl
  have hreply : (s.refuse now q.stream p).1.reply? = some (q.stream, p.status) := reply?_of_status hq hhead
  have hwon : (s.refuse now q.stream p).1.isWon = false := by simp [isWon, hreply, p.status_ne_ok]
  obtain ⟨htraffic, hstates⟩ := effects_refuse s now q.stream p
  refine .of_not_raced hs ?_ hwon rfl htraffic hstates
  rw [hasRaced_of_status hhead, hwon, isLost, hreply]
  rcases hp with hp | hp <;> simp [hp]

private theorem tallies_begin (hs : s.stage = .waiting) (hq : s.client.asked? = some q) {request : RaceRequest}
    (hr : q.toRace s.client.identity.requestId = .ok request) {race : Race}
    (he : Race.enter app.registry app.limit s.client.sent request = .ok race)
    (hpatience : s.client.patience ≠ some 0) :
    s.Tallies app
      ({ s with stage := .racing q.stream race.launch.1 }, .observe .enter :: race.launch.2.map .line) := by
  obtain ⟨bs, hne, hbs, rfl⟩ := Race.of_enter_eq_ok he
  have hwon (r : Race) : isWon { s with stage := .racing q.stream r } = false := by
    simp [isWon, reply?, Stage.status?]
  have hcount (stage : Stage) : candidateCount { s with stage } = bs.length := by
    rw [Race.length_resolve hbs, ClientRequest.of_toRace_eq_ok hr]
    simp [candidateCount, hq]
  have hvictory : s.client.victory? app =
      (Race.launched bs app.limit s.client.sent request).run.1.result.toOption := by
    simp only [Client.victory?, hq, hr, Option.bind_some, Except.toOption, Race.decide, he, Race.launched]
  have htraffic (log : List Traffic) : traffic (.observe .enter :: log.map .line) = log := traffic_line log
  have hobs (log : List Traffic) : observations (.observe .enter :: log.map .line) = [.enter] :=
    congrArg (_ :: ·) (observations_line log)
  obtain ⟨hnone, hnil⟩ := @nothing_of_waiting app s hs
  refine ⟨⟨?_, ?_, ?_⟩, ?_, ?_⟩
  · intro stream r hstage
    obtain ⟨-, rfl⟩ := Stage.racing.inj hstage
    exact ⟨⟨q, hq⟩, Race.isUnderWay_launched hne _ _ _, hvictory, Race.limit_ne_zero he, hpatience⟩
  · simp [hwon]
  · intro _
    rw [hcount]
    exact fun hzero => hne (List.eq_nil_of_length_eq_zero hzero)
  · rw [htraffic, Race.launched_launch, hnone, Nat.zero_add, Session.launches, hcount]
    rfl
  · rw [hobs, hnil, finalStates, hwon]
    rfl

private theorem tallies_receive (hs : s.stage = .waiting) (hq : s.client.asked? = some q) :
    s.Tallies app (s.receive app q) := by
  cases hr : q.toRace s.client.identity.requestId with
  | error refusal =>
    simp only [receive, hr]
    exact tallies_turnedAway hs hq (.inl rfl) _
  | ok request =>
    cases he : Race.enter app.registry app.limit s.client.sent request with
    | error e =>
      simp only [receive, hr, he]
      refine tallies_turnedAway hs hq ?_ _
      rcases Race.enter_eq_error he with rfl | ⟨id, rfl⟩ | ⟨rfl, hlimit⟩
      · exact .inl rfl
      · exact .inl rfl
      · exact .inr hlimit
    | ok race =>
      simp only [receive, hr, he]
      split
      · rename_i hpatience
        refine .of_not_raced hs ?_ ?_ rfl rfl rfl
        · simp [hasRaced, hpatience]
        · simp [isWon, reply?, Stage.status?]
      · rename_i hpatience
        exact tallies_begin hs hq hr he hpatience

private theorem tallies_arrive (hs : s.stage = .waiting) : s.Tallies app (s.arrive app metrics) := by
  have hanswered (a : Answer) (hq : s.client.asked? = none) :
      s.Tallies app ({ s with stage := .answered a }, []) := by
    have hreply : reply? { s with stage := .answered a } = none := by simp [reply?, hq]
    refine .of_not_raced hs ?_ ?_ rfl rfl rfl
    · simp [hasRaced, isWon, isLost, hreply]
    · simp [isWon, hreply]
  cases hf : Endpoint.find s.client.request with
  | error response =>
    simp only [arrive, hf]
    exact hanswered _ (by simp [Client.asked?, hf])
  | ok e =>
    cases e with
    | health | metrics | models =>
      simp only [arrive, hf]
      exact hanswered _ (by simp [Client.asked?, hf])
    | chat =>
      cases hb : ClientRequest.ofBody s.client.request with
      | error f =>
        simp only [arrive, hf, hb]
        exact hanswered _ (by simp [Client.asked?, hf, hb, Except.toOption])
      | ok q =>
        simp only [arrive, hf, hb]
        exact tallies_receive hs (by simp [Client.asked?, hf, hb, Except.toOption])

/-! ### Races and answers -/

/-- A step of a race makes no attempts, and the final states are those of the race if it is won. -/
private theorem Tallies.of_racing (h : s.IsBound app) {stream : Bool} {r : Race} (hs : s.stage = .racing stream r)
    {s' : Session} {log : List Traffic} {effects : List Effect} (hlog : ∀ line, Traffic.calls line log = [])
    (hclient : s'.client = s.client) (hraced : s'.hasRaced app = true)
    (hrace : ∀ stream r, s'.stage = .racing stream r → IsHeldFor app s.client r)
    (hwon : s'.isWon = true → ∃ v, s.client.victory? app = some v) (htraffic : traffic effects = [])
    (hstates : (observations effects).flatMap (·.states) = s'.finalStates app) :
    s.Tallies app (s', log.map .line ++ effects) := by
  have hbefore : s.hasRaced app = true := by simp [hasRaced, hs]
  have hnone : s.finalStates app = [] := by simp [finalStates, isWon, reply?, Stage.status?, hs]
  have hcount : s'.candidateCount = s.candidateCount := by simp only [candidateCount, hclient]
  refine ⟨⟨?_, ?_, ?_⟩, ?_, ?_⟩
  · rw [hclient]
    exact hrace
  · rw [hclient]
    exact hwon
  · intro _
    rw [hcount]
    exact h.named hbefore
  · -- all attempts were made when the race began
    rw [traffic_append, traffic_line, htraffic, List.append_nil, Traffic.launched_eq_zero hlog, Nat.add_zero,
      Session.launches, Session.launches, hbefore, hraced, hcount]
  · rw [observations_append, observations_line, hnone]
    exact hstates

private theorem calls_of_step {r : Race} (hr : r.IsUnderWay) {p : Progress} {log : List Traffic}
    (hstep : r.step = (p, log)) (line : Nat) : Traffic.calls line log = [] := by
  have hcalls := hr.calls_step line
  rwa [hstep] at hcalls

private theorem tallies_goOn (h : s.IsBound app) {stream : Bool} {r r' : Race} (hs : s.stage = .racing stream r)
    {log : List Traffic} (hstep : r.step = (.running r', log)) :
    s.Tallies app ({ s with stage := .racing stream r' }, log.map .line ++ []) := by
  have hheld := h.race _ _ hs
  have hwon : isWon { s with stage := .racing stream r' } = false := by simp [isWon, reply?, Stage.status?]
  refine .of_racing h hs (calls_of_step hheld.underWay hstep) rfl rfl ?_ ?_ rfl ?_
  · intro stream' r'' hstage
    obtain ⟨-, rfl⟩ := Stage.racing.inj hstage
    refine ⟨hheld.asked, hheld.underWay.of_step hstep, ?_, hheld.limit, hheld.patience⟩
    rw [hheld.victory, Race.run_of_running hstep]
  · simp [hwon]
  · simp [finalStates, hwon, observations]

private theorem tallies_lost (h : s.IsBound app) {stream : Bool} {r : Race} (hs : s.stage = .racing stream r)
    {now : Nat} {e : RaceError} {log : List Traffic} (hstep : r.step = (.decided ⟨now, .error e⟩, log)) :
    s.Tallies app ((s.refuse now stream e.problem).1, log.map .line ++ (s.refuse now stream e.problem).2) := by
  have hheld := h.race _ _ hs
  obtain ⟨q, hq⟩ := hheld.asked
  obtain ⟨htraffic, hstates⟩ := effects_refuse s now stream e.problem
  have hhead : (s.refuse now stream e.problem).1.stage.status? = some e.problem.status := rfl
  have hreply : (s.refuse now stream e.problem).1.reply? = some (q.stream, e.problem.status) :=
    reply?_of_status hq hhead
  have hwon : (s.refuse now stream e.problem).1.isWon = false := by simp [isWon, hreply, e.problem.status_ne_ok]
  have hlost : (s.refuse now stream e.problem).1.isLost = true := by
    -- all have failed, or the time is over
    obtain ⟨hverdict, -⟩ := hheld.underWay.of_decided hstep
    rw [isLost, hreply]
    cases hverdict <;> rfl
  refine .of_racing h hs (calls_of_step hheld.underWay hstep) rfl ?_ ?_ ?_ htraffic ?_
  · simp [hasRaced_of_status hhead, hlost, hheld.limit]
  · intro stream' r' hstage
    cases hstage
  · simp [hwon]
  · rw [hstates, finalStates, hwon]
    rfl

theorem traffic_accept (s : Session) (now : Nat) (v : Victory) : traffic (s.accept now v).2 = [] := by
  cases hu : v.unit <;> simp only [accept, WinnerResponse.ofUnit, hu] <;> rfl

private theorem tallies_won (h : s.IsBound app) {stream : Bool} {r : Race} (hs : s.stage = .racing stream r)
    {now : Nat} {v : Victory} {log : List Traffic} (hstep : r.step = (.decided ⟨now, .ok v⟩, log)) :
    s.Tallies app ((s.accept now v).1, log.map .line ++ (s.accept now v).2) := by
  have hheld := h.race _ _ hs
  obtain ⟨q, hq⟩ := hheld.asked
  have hvictory : s.client.victory? app = some v := by
    rw [hheld.victory, Race.run_of_decided hstep]
    rfl
  obtain ⟨hclient, hhead, hobs⟩ := s.accept_cases now v
  have hreply : (s.accept now v).1.reply? = some (q.stream, 200) := reply?_of_status (hclient ▸ hq) hhead
  have hwon : (s.accept now v).1.isWon = true := by simp [isWon, hreply]
  refine .of_racing h hs (calls_of_step hheld.underWay hstep) hclient ?_ ?_ ?_ (traffic_accept s now v) ?_
  · rw [hasRaced_of_status hhead, hwon, Bool.true_or]
  · intro stream' r' hstage
    rw [hstage] at hhead
    cases hhead
  · intro _
    exact ⟨v, hvictory⟩
  · rw [hobs, finalStates, hwon, hclient, hvictory]
    simp [Observation.states]

private theorem tallies_abort (h : s.IsBound app) {stream : Bool} {r : Race} (hs : s.stage = .racing stream r) :
    s.Tallies app ({ s with stage := .aborted }, r.abandon.map .line ++ [.observe .leave]) := by
  have hwon : isWon { s with stage := .aborted } = false := by simp [isWon, reply?, Stage.status?]
  refine .of_racing h hs (Race.calls_cancelAll r.entrants) rfl ?_ ?_ ?_ rfl ?_
  · simpa [hasRaced] using (h.race _ _ hs).patience
  · intro stream' r' hstage
    cases hstage
  · simp [hwon]
  · rw [finalStates, hwon]
    rfl

private theorem tallies_relay (h : s.IsBound app) {headers : Http.Headers} {headTime : Nat} {t : Transmission}
    (hs : s.stage = .relaying headers headTime t) : s.Tallies app (s.step app metrics) := by
  have hlaunched := Transmission.launched_step t
  have hhead : s.stage.status? = some 200 := by rw [hs]; rfl
  -- the head has been sent, and with it everything has been counted
  have hkeeps (stage : Stage) (hstage : stage.status? = some 200) :
      s.Tallies app ({ s with stage }, t.step.2.map .line) := by
    have hreply : reply? { s with stage } = s.reply? := by simp only [reply?, hhead, hstage]
    have hwon : isWon { s with stage } = s.isWon := by simp only [isWon, hreply]
    have hraced : hasRaced app { s with stage } = s.hasRaced app := by
      rw [hasRaced_of_status hstage, hasRaced_of_status hhead, hwon, isLost, isLost, hreply]
    refine ⟨⟨?_, ?_, ?_⟩, ?_, ?_⟩
    · rintro stream r (rfl : stage = .racing stream r)
      cases hstage
    · rw [hwon]
      exact h.won
    · rw [hraced]
      exact h.named
    · rw [traffic_line, hlaunched, Session.launches, Session.launches, hraced, Nat.add_zero]
      rfl
    · rw [observations_line, finalStates, finalStates, hwon]
      exact List.append_nil _
  cases ht : t.step with
  | mk f log =>
    rw [ht] at hkeeps
    cases f with
    | running u =>
      simp only [step, hs, ht]
      exact hkeeps _ rfl
    | ended u complete =>
      simp only [step, hs, ht]
      exact hkeeps _ rfl

/-- Each step of a session makes the attempts, and tells the final states, by which those of the session become
more. -/
theorem tallies_step (h : s.IsBound app) (metrics : Metrics) : s.Tallies app (s.step app metrics) := by
  cases hs : s.stage with
  | waiting =>
    simp only [step, hs]
    exact tallies_arrive hs
  | racing stream r =>
    simp only [step, hs]
    split
    · exact tallies_abort h hs
    · cases hstep : r.step with
      | mk p log =>
        cases p with
        | running r' => exact tallies_goOn h hs hstep
        | decided verdict =>
          obtain ⟨now, result⟩ := verdict
          cases result with
          | error e => exact tallies_lost h hs hstep
          | ok v => exact tallies_won h hs hstep
  | relaying headers headTime t => exact tallies_relay h hs
  | answered _ | aborted =>
    simp only [step, hs]
    exact ⟨h, rfl, List.append_nil _⟩

end Session

/-! ### Runs -/

namespace Server

variable {srv : Server} {queue : List (Nat × Session)}

/-- If each step adds to the figure of its session what its effects come to, all effects of a run come to what the
figures of all sessions have grown by. -/
theorem sum_runFor (srv : Server) (P : Session → Prop) (figure : Session → Nat) (amount : List Effect → Nat)
    (hnil : amount [] = 0) (happend : ∀ xs ys, amount (xs ++ ys) = amount xs + amount ys)
    (hstep : ∀ s metrics, P s → P (s.step srv.app metrics).1 ∧
      figure s + amount (s.step srv.app metrics).2 = figure (s.step srv.app metrics).1)
    (hqueue : ∀ x ∈ queue, P x.2) (steps : Nat) :
    (∀ x ∈ (srv.runFor steps queue).1, P x.2) ∧
      (queue.map (figure ·.2)).sum + amount (effects (history steps srv queue)) =
        ((srv.runFor steps queue).1.map (figure ·.2)).sum := by
  induction steps generalizing srv queue with
  | zero => exact ⟨hqueue, by rw [history, effects, List.flatMap_nil, hnil]; rfl⟩
  | succ steps ih =>
    cases ht : Turn.first? (fun x : Nat × Session => x.2.due?) queue with
    | none =>
      rw [(of_no_turn ht _).1, (of_no_turn ht _).2, effects, List.flatMap_nil, hnil]
      exact ⟨hqueue, rfl⟩
    | some t =>
      obtain ⟨hnext, hsum⟩ := hstep t.chosen.2 srv.metrics (hqueue _ (Turn.chosen_mem ht))
      have hqueue' : ∀ x ∈ t.before ++ t.after ++ [(t.chosen.1, (t.chosen.2.step srv.app srv.metrics).1)], P x.2 := by
        intro x hx
        simp only [List.mem_append, List.mem_singleton] at hx
        rcases hx with hx | rfl
        · refine hqueue x ?_
          rw [← Turn.put_chosen ht]
          simp only [Turn.put, List.mem_append, List.mem_cons]
          exact hx.imp_right .inr
        · exact hnext
      obtain ⟨hall, hrest⟩ := ih (srv.advance t.due t.chosen.2).2 (by rwa [app_advance]) hqueue'
      rw [runFor_of_turn ht, history_of_turn ht, effects_cons, happend]
      refine ⟨hall, ?_⟩
      rw [← hrest]
      conv_lhs => rw [← Turn.put_chosen ht]
      simp only [Turn.put, List.map_append, List.map_cons, List.map_nil, List.sum_append, List.sum_cons, List.sum_nil]
      omega

/-- What the log and the metrics of a server say of the attempts that some sessions have made. -/
structure Tallied (srv : Server) (sessions : List Session) : Prop where
  /-- The attempts that are made are those of the races that have begun, one with each candidate. -/
  launched : Traffic.launched srv.log = (sessions.map (·.launches srv.app)).sum
  /-- The attempts that are counted under a state are those that have come to it in a race that was won. -/
  counted : ∀ state, srv.metrics.attemptsIn state = (sessions.map fun s => (s.finalStates srv.app).count state).sum
  /-- An attempt with each candidate has come to a final state in a race that was won, and one of them has won. -/
  won : ∀ s ∈ sessions, s.isWon = true → (s.finalStates srv.app).length = s.candidateCount ∧
    (s.finalStates srv.app).count .won = 1 ∧ .pending ∉ s.finalStates srv.app
  /-- The attempts that are not counted are those of the races that have begun and have not been won. -/
  missing : Traffic.launched srv.log = srv.metrics.balance .allAttempts +
    ((sessions.filter fun s => s.hasRaced srv.app && !s.isWon).map (·.candidateCount)).sum
  /-- All attempts are counted if and only if all races that have begun have been won. -/
  complete : Traffic.launched srv.log = srv.metrics.balance .allAttempts ↔
    ∀ s ∈ sessions, s.hasRaced srv.app = true → s.isWon = true

theorem app_runFor (srv : Server) (steps : Nat) (queue : List (Nat × Session)) :
    (srv.runFor steps queue).2.app = srv.app := by
  induction steps generalizing srv queue with
  | zero => rfl
  | succ steps ih =>
    cases ht : Turn.first? (fun x : Nat × Session => x.2.due?) queue with
    | none => rw [(of_no_turn ht _).1]
    | some t => rw [runFor_of_turn ht, ih, app_advance]

private theorem sum_of_waiting (app : App) (hwaiting : ∀ x ∈ queue, x.2.stage = .waiting) (p : AttemptState → Bool) :
    (queue.map (·.2.launches app)).sum = 0 ∧ (queue.map fun x => (x.2.finalStates app).countP p).sum = 0 := by
  induction queue with
  | nil => exact ⟨rfl, rfl⟩
  | cons x queue ih =>
    obtain ⟨hx, hqueue⟩ := List.forall_mem_cons.1 hwaiting
    obtain ⟨hlaunches, hstates⟩ := ih hqueue
    obtain ⟨hnone, hnil⟩ := @Session.nothing_of_waiting app x.2 hx
    rw [List.map_cons, List.map_cons, List.sum_cons, List.sum_cons, hlaunches, hstates, hnone, hnil]
    exact ⟨rfl, rfl⟩

private theorem sum_launches {app : App} {sessions : List Session} (h : ∀ s ∈ sessions, s.IsBound app) :
    (sessions.map (·.launches app)).sum = (sessions.map fun s => (s.finalStates app).length).sum +
      ((sessions.filter fun s => s.hasRaced app && !s.isWon).map (·.candidateCount)).sum := by
  induction sessions with
  | nil => rfl
  | cons s sessions ih =>
    obtain ⟨hs, hsessions⟩ := List.forall_mem_cons.1 h
    -- the attempts of a session are among the final states if it is won, and are missing otherwise
    have hshare : s.launches app = (s.finalStates app).length +
        if s.hasRaced app && !s.isWon then s.candidateCount else 0 := by
      cases hwon : s.isWon with
      | true =>
        obtain ⟨hlength, -, -⟩ := hs.states_of_isWon hwon
        simp [Session.launches, hlength, Session.hasRaced_of_isWon hwon]
      | false => simp [Session.launches, Session.finalStates, hwon]
    rw [List.map_cons, List.sum_cons, hshare, ih hsessions, List.map_cons, List.sum_cons, List.filter_cons]
    split
    · rw [List.map_cons, List.sum_cons]
      omega
    · omega

private theorem tally_runFor {app : App} (happ : srv.app = app) (h : ∀ x ∈ queue, x.2.IsBound app) (steps : Nat) :
    (∀ x ∈ (srv.runFor steps queue).1, x.2.IsBound app) ∧
    (queue.map (·.2.launches app)).sum + Traffic.launched (traffic (effects (history steps srv queue))) =
      ((srv.runFor steps queue).1.map (·.2.launches app)).sum ∧
    ∀ p : AttemptState → Bool, (queue.map fun x => (x.2.finalStates app).countP p).sum +
        ((observations (effects (history steps srv queue))).flatMap (·.states)).countP p =
      ((srv.runFor steps queue).1.map fun x => (x.2.finalStates app).countP p).sum := by
  subst happ
  obtain ⟨hbound, hlaunches⟩ := sum_runFor srv (·.IsBound srv.app) (·.launches srv.app)
    (fun effects => Traffic.launched (traffic effects)) rfl
    (fun xs ys => by rw [traffic_append, Traffic.launched_append])
    (fun s metrics hs => ⟨(s.tallies_step hs metrics).bound, (s.tallies_step hs metrics).launches⟩) h steps
  refine ⟨hbound, hlaunches, fun p => ?_⟩
  exact (sum_runFor srv (·.IsBound srv.app) (fun s => (s.finalStates srv.app).countP p)
    (fun effects => ((observations effects).flatMap (·.states)).countP p) rfl
    (fun xs ys => by rw [observations_append, List.flatMap_append, List.countP_append])
    (fun s metrics hs => ⟨(s.tallies_step hs metrics).bound, by
      rw [← (s.tallies_step hs metrics).states, List.countP_append]⟩) h steps).2

private theorem Tallied.of_sums {sessions : List Session} (h : ∀ s ∈ sessions, s.IsBound srv.app)
    (hlaunched : Traffic.launched srv.log = (sessions.map (·.launches srv.app)).sum) {os : List Observation}
    (hmetrics : srv.metrics = os.foldl Metrics.observe .empty)
    (hstates : ∀ p, (os.flatMap (·.states)).countP p = (sessions.map fun s => (s.finalStates srv.app).countP p).sum) :
    Tallied srv sessions := by
  obtain ⟨hcounted, hall⟩ := attempts_foldl_empty os
  have hlength : (os.flatMap (·.states)).length = (sessions.map fun s => (s.finalStates srv.app).length).sum := by
    simpa only [List.countP_true] using hstates fun _ => true
  have hmissing : Traffic.launched srv.log = srv.metrics.balance .allAttempts +
      ((sessions.filter fun s => s.hasRaced srv.app && !s.isWon).map (·.candidateCount)).sum := by
    rw [hlaunched, sum_launches h, hmetrics, hall, hlength]
  refine ⟨hlaunched, fun state => ?_, fun s hs hwon => (h s hs).states_of_isWon hwon, hmissing, ?_⟩
  · simp only [hmetrics, hcounted, List.count_eq_countP, hstates]
  · rw [hmissing, Nat.add_eq_left, List.sum_eq_zero_iff_forall_eq_nat]
    constructor
    · intro hnone s hs hraced
      by_contra hwon
      have hmem : s ∈ sessions.filter fun s => s.hasRaced srv.app && !s.isWon :=
        List.mem_filter.2 ⟨hs, by simp [hraced, hwon]⟩
      exact (h s hs).named hraced (hnone _ (List.mem_map_of_mem hmem))
    · intro hall n hn
      obtain ⟨s, hs, -⟩ := List.mem_map.1 hn
      obtain ⟨hs, hlost⟩ := List.mem_filter.1 hs
      simp only [Bool.and_eq_true, Bool.not_eq_true'] at hlost
      simp [hall s hs hlost.1] at hlost

/-- Whoever has asked for what, and whenever they have left: at every moment of serving some clients, those attempts
that have been made for races which were lost or abandoned are in no metrics. -/
theorem tallied_runFor (app : App) (clients : List Client) (steps : Nat) :
    (((fresh app).runFor steps (enqueue clients)).1.map (·.2.client)).Perm clients ∧
      Tallied ((fresh app).runFor steps (enqueue clients)).2
        (((fresh app).runFor steps (enqueue clients)).1.map (·.2)) := by
  have hwaiting (x : Nat × Session) (hx : x ∈ enqueue clients) : x.2.stage = .waiting := stage_of_mem_enqueue hx
  have hbound (x : Nat × Session) (hx : x ∈ enqueue clients) : x.2.IsBound app :=
    Session.isBound_of_waiting (hwaiting x hx)
  have happ : ((fresh app).runFor steps (enqueue clients)).2.app = app := app_runFor (fresh app) steps _
  have hfresh : (fresh app).app = app := rfl
  obtain ⟨hsessions, hlaunches, hstates⟩ := tally_runFor hfresh hbound steps
  have hnone := sum_of_waiting app hwaiting
  obtain ⟨-, hperm⟩ := (isAccounted_of_waiting app hwaiting).runFor steps
  rw [clients_enqueue] at hperm
  refine ⟨hperm, .of_sums ?_ ?_ (metrics_runFor (fresh app) steps (enqueue clients)) ?_⟩
  · rw [happ, List.forall_mem_map]
    exact hsessions
  · rw [happ, log_runFor, List.map_map]
    rw [(hnone fun _ => true).1, Nat.zero_add] at hlaunches
    exact hlaunches
  · intro p
    have hsum := hstates p
    rw [(hnone p).2, Nat.zero_add] at hsum
    rw [happ, List.map_map]
    exact hsum

/-- A backend that fails, one that takes longer than a race may, and one that answers in time. -/
private def mixed : App where
  registry := ⟨[.scripted "down" 0 5 (.failure (.unavailable "down is configured to fail")) .crash,
    .scripted "slow" 1 500 (.value ⟨"late", "stop", ⟨1, 1, 2⟩⟩) .crash,
    .scripted "fast" 2 10 (.value ⟨"hi", "stop", ⟨1, 1, 2⟩⟩) .crash]⟩
  limit := 100

/-- A client who asks the backends that it names. -/
private def asker (model : String) : Client where
  request := (⟨model, [⟨.user, "hi"⟩], .free, false, true, none⟩ : ClientRequest).post
  identity := ⟨"req_1", "chatcmpl-1", 7⟩
  sent := 0
  patience := none
  room := none

/-- What three clients come to whose races are lost by all, lost at the deadline, and won. -/
private def served : List (Nat × Session) × Server :=
  (fresh mixed).runFor 10 (enqueue [asker "down", asker "slow", asker "slow,fast"])

/-- All three clients have their answers, and of the four attempts that have been made the metrics know two: neither
the one that failed is counted, nor the one that was cancelled at the deadline. -/
theorem launched_ne_counted_of_losses :
    served.1.map (·.2.stage.status?) = [some 502, some 200, some 504] ∧ served.1.all (·.2.isOver) = true ∧
      Traffic.launched served.2.log = 4 ∧ served.2.metrics.balance .allAttempts = 2 ∧
      served.2.metrics.attemptsIn .failed = 0 ∧ served.2.metrics.attemptsIn .cancelled = 1 := by
  decide +kernel

end Server

end ChatRace
