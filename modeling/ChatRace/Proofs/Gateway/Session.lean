import ChatRace.Gateway.Session
import ChatRace.Proofs.Race.Course
import ChatRace.Proofs.Relay.Transmission

/-!
# Runs of sessions

A session comes to its end: every step takes something off its work (`step_work_lt`), which is known once the
request has arrived.  `EndsAs` says how it ends whatever the metrics are when it takes its steps, and a streamed
answer ends as the run of its transmission does (`endsAs_relaying`).
-/

namespace ChatRace.Session

open Chat

/-! ### The work of an answer -/

private theorem itemWork_le_of_suffix {xs ys : List Item} (h : xs <:+ ys) :
    Transmission.itemWork xs ≤ Transmission.itemWork ys := by
  obtain ⟨pre, rfl⟩ := h
  simp [Transmission.itemWork]

/-- The answer does not become longer while the race goes on. -/
theorem relayWork_step {r r' : Race} {log : List Traffic} (h : r.step = (.running r', log)) :
    relayWork r' ≤ relayWork r := by
  obtain ⟨t, e, fs, hes, hdue, rfl, he⟩ := Race.step_running h
  have hle : Transmission.itemWork e.attempt.ahead ≤ Transmission.itemWork t.chosen.attempt.ahead := by
    apply itemWork_le_of_suffix
    rcases he with he | he
    · rw [he]
      exact Attempt.ahead_step hdue
    · rw [he]
      exact List.nil_suffix
  simp only [relayWork, hes, Turn.put, List.map_append, List.map_cons, List.sum_append, List.sum_cons]
  omega

/-- The answer to a race that has been won is no longer than was foreseen. -/
theorem relayWork_won {r : Race} {v : Verdict} {w : Victory} {log : List Traffic}
    (h : r.step = (.decided v, log)) (hv : v.result = .ok w) {first : Chunk} {rest : List Item}
    (hu : w.unit = .streamed first rest) :
    Transmission.itemWork rest + 3 ≤ relayWork r := by
  obtain ⟨t, hes, hdue, hres⟩ := Race.step_won h hv
  -- the winner's stream is what lies ahead of its attempt, and that was part of what lay ahead before
  have hahead : t.chosen.attempt.step.1.ahead = rest := by
    rw [hu, Attempt.result?_eq_some] at hres
    simp only [Attempt.ahead, hres]
  have hle := itemWork_le_of_suffix (hahead ▸ Attempt.ahead_step hdue)
  simp only [relayWork, hes, Turn.put, List.map_append, List.map_cons, List.sum_append, List.sum_cons]
  omega

/-! ### The work of a step -/

variable {app : App} {metrics : Metrics} {s : Session}

/-- A request that has arrived has been answered or given up, or there is a race. -/
inductive HasArrived : Stage → Prop
  | answered (a : Answer) : HasArrived (.answered a)
  | aborted : HasArrived .aborted
  | racing (stream : Bool) (r : Race) : HasArrived (.racing stream r)

theorem hasArrived_receive (app : App) (s : Session) (c : ClientRequest) :
    HasArrived (s.receive app c).1.stage := by
  cases hq : c.toRace s.client.identity.requestId with
  | error r =>
    simp only [receive, hq]
    exact .answered _
  | ok request =>
    cases he : Race.enter app.registry app.limit s.client.sent request with
    | error e =>
      simp only [receive, hq, he]
      exact .answered _
    | ok r =>
      simp only [receive, hq, he]
      split
      · exact .aborted
      · exact .racing _ _

/-- Only a request for the metrics depends on them, and it is answered at once. -/
theorem arrive_cases (app : App) (metrics : Metrics) (s : Session) :
    (∃ a a', (s.arrive app metrics).1.stage = .answered a ∧ (s.arrive app .empty).1.stage = .answered a') ∨
      (s.arrive app metrics = s.arrive app .empty ∧ HasArrived (s.arrive app .empty).1.stage) := by
  cases hf : Endpoint.find s.client.request with
  | error response =>
    simp only [arrive, hf]
    exact .inr ⟨trivial, .answered _⟩
  | ok e =>
    cases e with
    | metrics =>
      simp only [arrive, hf]
      exact .inl ⟨_, _, rfl, rfl⟩
    | health =>
      simp only [arrive, hf]
      exact .inr ⟨trivial, .answered _⟩
    | models =>
      simp only [arrive, hf]
      exact .inr ⟨trivial, .answered _⟩
    | chat =>
      cases hb : ClientRequest.ofBody s.client.request with
      | error f =>
        simp only [arrive, hf, hb]
        exact .inr ⟨trivial, .answered _⟩
      | ok c =>
        simp only [arrive, hf, hb]
        exact .inr ⟨trivial, hasArrived_receive app s c⟩

private theorem work_of_hasArrived {s : Session} (h : HasArrived s.stage) : s.work app = stageWork s.stage := by
  cases s with
  | mk client stage => cases h <;> rfl

private theorem work_arrive_lt (h : s.stage = .waiting) : (s.arrive app metrics).1.work app < s.work app := by
  have hwork : s.work app = stageWork (s.arrive app .empty).1.stage + 1 := by simp only [work, h]
  rw [hwork]
  -- the work is told by what an arrival comes to with empty metrics, and it may come to something else with others
  rcases arrive_cases app metrics s with ⟨a, a', ha, ha'⟩ | ⟨he, harr⟩
  · rw [work_of_hasArrived (ha ▸ .answered a), ha, ha']
    exact Nat.zero_lt_one
  · rw [he, work_of_hasArrived harr]
    exact Nat.lt_succ_self _

/-- The answer to a race takes less than race and answer were to take before the step. -/
private theorem work_afterRace_lt {stream : Bool} {r : Race} {p : Progress} {log : List Traffic}
    (h : r.step = (p, log)) : (s.afterRace stream p).1.work app < r.work + relayWork r := by
  have hpos : 0 < r.work := Nat.succ_pos _
  cases p with
  | running r' =>
    have := Race.step_work_lt h
    have := relayWork_step h
    simp only [afterRace, work, stageWork]
    omega
  | decided v =>
    obtain ⟨now, result⟩ := v
    cases result with
    | error e =>
      simp only [afterRace, refuse, answerWith, work, stageWork]
      omega
    | ok w =>
      cases hu : w.unit with
      | buffered reply =>
        simp only [afterRace, accept, hu, WinnerResponse.ofUnit, answerWith, work, stageWork]
        omega
      | streamed first rest =>
        have hstart := Transmission.work_start_le w.line now s.client.room
          (s.client.identity.stamp w.winner) first rest
        have hforeseen := relayWork_won h rfl hu
        simp only [afterRace, accept, hu, WinnerResponse.ofUnit, work, stageWork]
        omega

/-- Every step takes something off the work of a session. -/
theorem step_work_lt {d : Nat} (h : s.due? = some d) (app : App) (metrics : Metrics) :
    (s.step app metrics).1.work app < s.work app := by
  cases hs : s.stage with
  | answered a => simp [due?, hs] at h
  | aborted => simp [due?, hs] at h
  | waiting =>
    simp only [step, hs]
    exact work_arrive_lt hs
  | racing stream r =>
    have hwork : s.work app = r.work + relayWork r := by simp only [work, hs, stageWork]
    simp only [step, hs, hwork]
    split
    · exact Nat.lt_of_lt_of_le (Nat.succ_pos _) (Nat.le_add_right r.work _)
    · exact work_afterRace_lt rfl
  | relaying headers headTime t =>
    have hwork : s.work app = t.work := by simp only [work, hs, stageWork]
    simp only [step, hs, hwork]
    cases ht : t.step with
    | mk f log =>
      cases f with
      | running u => exact Transmission.step_work_lt ht
      | ended u complete => exact t.work_pos

/-! ### Ends -/

/-- Whatever the metrics are when a session takes its steps, it ends at the stage `e`. -/
inductive EndsAs (app : App) (e : Stage) : Session → Prop
  | ended {s : Session} (h : s.due? = none) (he : s.stage = e) : EndsAs app e s
  | step {s : Session} {d : Nat} (h : s.due? = some d) (hs : ∀ metrics, EndsAs app e (s.step app metrics).1) :
      EndsAs app e s

/-- A streamed answer ends as the run of its transmission does. -/
theorem endsAs_relaying (app : App) (c : Client) (headers : Http.Headers) (headTime : Nat) (t : Transmission) :
    EndsAs app
      (.answered (.streamed headers t.run.1.1 t.run.1.2.1 (headTime - c.sent) (t.run.1.2.2 - c.sent) c.sent))
      ⟨c, .relaying headers headTime t⟩ := by
  induction hw : t.work using Nat.strongRecOn generalizing t with
  | ind n ih =>
    refine .step (d := t.next) rfl fun metrics => ?_
    cases hs : t.step with
    | mk f log =>
      cases f with
      | running u =>
        simp only [Session.step, hs, Transmission.run_of_running hs]
        exact ih u.work (hw ▸ Transmission.step_work_lt hs) u rfl
      | ended u complete =>
        simp only [Session.step, hs, Transmission.run_of_ended hs]
        exact .ended rfl rfl

end ChatRace.Session
