import ChatRace.Backend.Mock
import ChatRace.Proofs.Race.Result
import ChatRace.Proofs.Turn

/-!
# Races at another time

Nothing in a race depends on when it begins, and if the backends do not look at the identifier of a request, nothing
depends on it either.  `later` moves an attempt, a race and its verdict to another time and gives the request another
identifier; each step of an attempt and of a race commutes with it (`step_later`), and so does the race as a whole
(`decide_later`).
-/

namespace ChatRace

open Chat

/-! ### Backends -/

/-- The backend does the same with a call under either identifier. -/
structure Backend.IgnoresId (b : Backend) (id id' : String) : Prop where
  buffered : ∀ r : BackendRequest, b.buffered { r with requestId := id' } = b.buffered { r with requestId := id }
  streamed : ∀ r : BackendRequest, b.streamed { r with requestId := id' } = b.streamed { r with requestId := id }

theorem Mock.ignoresId_backend (m : Mock) (line : Nat) (id id' : String) : (m.backend line).IgnoresId id id' :=
  ⟨fun _ => rfl, fun _ => rfl⟩

/-! ### Attempts -/

/-- How far an attempt is that began `delay` later. -/
def Phase.later (delay : Nat) : Phase → Phase
  | queued => queued
  | calling due => calling (due + delay)
  | pulling item rest due => pulling item rest (due + delay)
  | holding result => holding result
  | spent => spent

namespace Attempt

/-- The attempt at a later time, for a request with the identifier `id`. -/
def later (delay : Nat) (id : String) (a : Attempt) : Attempt :=
  ⟨a.backend, { a.request with requestId := id }, a.phase.later delay⟩

/-- The backend does the same with a call under the identifier `id`. -/
def Ignores (id : String) (a : Attempt) : Prop := a.backend.IgnoresId a.request.requestId id

variable {delay : Nat} {id : String} {a : Attempt}

theorem due?_later : (a.later delay id).due? = a.due?.map (· + delay) := by
  cases hp : a.phase <;> simp [due?, later, Phase.later, hp]

theorem result?_later : (a.later delay id).result? = a.result? := by
  cases hp : a.phase <;> simp [result?, later, Phase.later, hp]

theorem ignores_step (h : a.Ignores id) : a.step.1.Ignores id := by
  rw [Ignores, step_backend, step_request]
  exact h

private theorem pull_later (now : Nat) (items : List Item) :
    ((a.later delay id).pull (now + delay) items).1 = (a.pull now items).1.later delay id := by
  cases items with
  | nil => rfl
  | cons i rest =>
    simp only [pull, later, Phase.later]
    rw [Nat.add_right_comm]

private theorem answered_later (h : a.Ignores id) (now : Nat) :
    ((a.later delay id).answered (now + delay)).1 = (a.answered now).1.later delay id := by
  have hbuffered : a.backend.buffered { a.request with requestId := id } = a.backend.buffered a.request :=
    h.buffered a.request
  have hstreamed : a.backend.streamed { a.request with requestId := id } = a.backend.streamed a.request :=
    h.streamed a.request
  have hpull (items : List Item) : ((a.later delay id).pull (now + delay) items).1 =
      (a.pull now items).1.later delay id := pull_later now items
  simp only [later] at hpull
  simp only [answered, later, hbuffered, hstreamed]
  split
  · split
    · exact hpull _
    · rfl
    · rfl
  · split <;> rfl

private theorem arrived_later (now : Nat) (item : Item) (rest : List Item) :
    ((a.later delay id).arrived (now + delay) item rest).1 = (a.arrived now item rest).1.later delay id := by
  cases ho : item.outcome with
  | value c =>
    by_cases hc : c.isUsable = true
    · simp only [arrived, ho, hc, if_true]
      rfl
    · simp only [arrived, ho, hc]
      exact pull_later now rest
  | failure e =>
    simp only [arrived, ho]
    rfl
  | crash =>
    simp only [arrived, ho]
    rfl

/-- An attempt takes the same steps later. -/
theorem step_later (h : a.Ignores id) : (a.later delay id).step.1 = a.step.1.later delay id := by
  cases hp : a.phase with
  | queued | holding _ | spent => simp only [step, later, Phase.later, hp]
  | calling due =>
    have hl : (a.later delay id).phase = .calling (due + delay) := by simp only [later, Phase.later, hp]
    simp only [step, hl, hp]
    exact answered_later h due
  | pulling item rest due =>
    have hl : (a.later delay id).phase = .pulling item rest (due + delay) := by
      simp only [later, Phase.later, hp]
    simp only [step, hl, hp]
    exact arrived_later due item rest

end Attempt

/-! ### Races -/

namespace Entrant

/-- The entrant at a later time. -/
def later (delay : Nat) (id : String) (e : Entrant) : Entrant := ⟨e.attempt.later delay id, e.state⟩

variable {delay : Nat} {id : String}

theorem due?_later (e : Entrant) : (e.later delay id).due? = e.due?.map (· + delay) := by
  have hpending : (e.later delay id).isPending = e.isPending := rfl
  simp only [due?, hpending]
  split
  · exact Attempt.due?_later
  · rfl

private theorem report_cancel_later (e : Entrant) : (e.later delay id).cancel.1.report = e.cancel.1.report := by
  have hpending : (e.later delay id).isPending = e.isPending := rfl
  have hdrop (a : Attempt) : a.drop.1.backend = a.backend := by
    unfold Attempt.drop
    split <;> rfl
  simp only [cancel, hpending]
  split
  · simp only [report, hdrop]
    rfl
  · rfl

end Entrant

/-- The verdict at a later time. -/
def Verdict.later (delay : Nat) (id : String) (v : Verdict) : Verdict where
  time := v.time + delay
  result := v.result.map fun w => { w with requestId := id }

/-- The race at a later time, for a request with the identifier `id`. -/
def Race.later (delay : Nat) (id : String) (r : Race) : Race where
  request := { r.request with requestId := id }
  start := r.start + delay
  limit := r.limit
  entrants := r.entrants.map (Entrant.later delay id)
  failures := r.failures

/-- A race that goes on, or its end, at a later time. -/
def Progress.later (delay : Nat) (id : String) : Progress → Progress
  | .running r => .running (r.later delay id)
  | .decided v => .decided (v.later delay id)

namespace Race

variable {delay : Nat} {id : String} {r : Race}

theorem deadline_later : (r.later delay id).deadline = r.deadline + delay := Nat.add_right_comm ..

private theorem turn?_later : (r.later delay id).turn? = r.turn?.map (Turn.map (Entrant.later delay id) delay) :=
  Turn.first?_map fun e _ => e.due?_later

private theorem put_later (t : Turn Entrant) (e : Entrant) :
    (t.map (Entrant.later delay id) delay).put (e.later delay id) = (t.put e).map (Entrant.later delay id) := by
  simp only [Turn.put, Turn.map, List.map_append, List.map_cons]

private theorem expire_later : (r.later delay id).expire.1 = r.expire.1.later delay id := by
  simp only [expire, Progress.later, Verdict.later, deadline_later]
  rfl

private theorem win_later (t : Turn Entrant) (a : Attempt) (u : FirstUnit) :
    ((r.later delay id).win (t.map (Entrant.later delay id) delay) (a.later delay id) u).1 =
      (r.win t a u).1.later delay id := by
  have hentrant : (⟨(a.later delay id).take, .won⟩ : Entrant) = Entrant.later delay id ⟨a.take, .won⟩ := rfl
  have hreports (es : List Entrant) : (cancelAll (es.map (Entrant.later delay id))).1.map (·.report) =
      (cancelAll es).1.map (·.report) := by
    simp only [cancelAll, List.map_map]
    exact List.map_congr_left fun e _ => e.report_cancel_later
  have hlatency : t.due + delay - (r.start + delay) = t.due - r.start := Nat.add_sub_add_right ..
  simp only [win, hentrant, put_later, hreports]
  simp only [Turn.map, later, hlatency]
  rfl

private theorem fail_later (t : Turn Entrant) (a : Attempt) (e : BackendError) :
    (r.later delay id).fail (t.map (Entrant.later delay id) delay) (a.later delay id) e =
      (r.fail t a e).later delay id := by
  have hentrant : (⟨(a.later delay id).take, .failed⟩ : Entrant) = Entrant.later delay id ⟨a.take, .failed⟩ := rfl
  have hany (es : List Entrant) : (es.map (Entrant.later delay id)).any (·.isPending) = es.any (·.isPending) := by
    rw [List.any_map]
    rfl
  simp only [fail, hentrant, put_later, hany]
  split <;> rfl

/-- No backend in the race looks at the identifier. -/
def Ignores (id : String) (r : Race) : Prop := ∀ e ∈ r.entrants, e.attempt.Ignores id

/-- A race takes the same steps later. -/
theorem step_later (h : r.Ignores id) : (r.later delay id).step.1 = r.step.1.later delay id := by
  cases ht : r.turn? with
  | none =>
    simp only [step, turn?_later, ht, Option.map_none]
    exact expire_later
  | some t =>
    have hstep : (t.chosen.attempt.later delay id).step.1 = t.chosen.attempt.step.1.later delay id :=
      Attempt.step_later (h _ (Turn.chosen_mem ht))
    have hdue : (t.map (Entrant.later delay id) delay).due = t.due + delay := rfl
    have hchosen : (t.map (Entrant.later delay id) delay).chosen.attempt = t.chosen.attempt.later delay id := rfl
    simp only [step, turn?_later, ht, Option.map_some, hdue, hchosen, hstep, deadline_later,
      Nat.add_lt_add_iff_right, Attempt.result?_later]
    split
    · split
      · have hentrant : (⟨t.chosen.attempt.step.1.later delay id, .pending⟩ : Entrant) =
            Entrant.later delay id ⟨t.chosen.attempt.step.1, .pending⟩ := rfl
        simp only [hentrant, put_later]
        rfl
      · exact win_later t _ _
      · exact fail_later t _ _
    · exact expire_later

theorem ignores_step {r' : Race} {log : List Traffic} (h : r.Ignores id) (hs : r.step = (.running r', log)) :
    r'.Ignores id := by
  obtain ⟨t, e, fs, hes, -, rfl, he⟩ := step_running hs
  have hchosen : t.chosen.attempt.step.1.Ignores id := by
    apply Attempt.ignores_step
    apply h
    rw [hes]
    exact mem_put.2 (.inl rfl)
  intro x hx
  rcases mem_put.1 hx with rfl | hx
  · rcases he with he | he
    · rw [he]
      exact hchosen
    · rw [he]
      exact hchosen
  · apply h
    rw [hes]
    exact mem_put.2 (.inr hx)

/-- A race comes to the same verdict later. -/
theorem run_later (h : r.Ignores id) : (r.later delay id).run.1 = r.run.1.later delay id := by
  induction hw : r.work using Nat.strongRecOn generalizing r with
  | ind n ih =>
    have hstep : (r.later delay id).step.1 = r.step.1.later delay id := step_later h
    cases hs : r.step with
    | mk p log =>
      rw [hs] at hstep
      cases p with
      | running r' =>
        rw [run_of_running hs, run_of_running (Prod.ext hstep rfl)]
        exact ih r'.work (hw ▸ step_work_lt hs) (ignores_step h hs) rfl
      | decided v =>
        rw [run_of_decided hs, run_of_decided (Prod.ext hstep rfl)]

/-! ### Requests -/

variable {registry : Registry} {limit now : Nat} {request : RaceRequest} {bs : List Backend}

private theorem launched_later (h : ∀ b ∈ bs, b.IgnoresId request.requestId id) :
    launched bs limit (now + delay) { request with requestId := id } =
      (launched bs limit now request).later delay id := by
  have hattempt (b : Backend) (hb : b ∈ bs) : attempt b (now + delay) { request with requestId := id } =
      (attempt b now request).later delay id := by
    have hbuffered : b.buffered { request.forBackend b.name with requestId := id } =
        b.buffered (request.forBackend b.name) := (h b hb).buffered (request.forBackend b.name)
    have hstreamed : b.streamed { request.forBackend b.name with requestId := id } =
        b.streamed (request.forBackend b.name) := (h b hb).streamed (request.forBackend b.name)
    have hrequest : RaceRequest.forBackend { request with requestId := id } b.name =
        { request.forBackend b.name with requestId := id } := rfl
    have hlatency : (Attempt.create b { request.forBackend b.name with requestId := id }).latency =
        (Attempt.create b (request.forBackend b.name)).latency := by
      simp only [Attempt.latency, Attempt.create, hbuffered, hstreamed]
      rfl
    rw [attempt, attempt, hrequest]
    simp only [Attempt.launch, Attempt.create, Attempt.later, Phase.later] at hlatency ⊢
    rw [hlatency, Nat.add_right_comm]
  have hentrants : (launched bs limit (now + delay) { request with requestId := id }).entrants =
      ((launched bs limit now request).later delay id).entrants := by
    show (launched bs limit (now + delay) { request with requestId := id }).entrants =
      (launched bs limit now request).entrants.map (Entrant.later delay id)
    rw [entrants_launched, entrants_launched, List.map_map]
    apply List.map_congr_left
    intro b hb
    rw [hattempt b hb]
    rfl
  simp only [launched, launch, later] at hentrants ⊢
  rw [hentrants]
  rfl

private theorem ignores_launched (h : ∀ b ∈ bs, b.IgnoresId request.requestId id) :
    (launched bs limit now request).Ignores id := by
  intro e he
  obtain ⟨b, hb, rfl⟩ := mem_launched.1 he
  exact h b hb

/-- If no backend looks at the identifier, a request at another time and with another identifier comes to the same
verdict, as much later. -/
theorem decide_later (h : ∀ b ∈ registry.backends, b.IgnoresId request.requestId id) :
    (decide registry limit (now + delay) { request with requestId := id }).1 =
      (decide registry limit now request).1.later delay id := by
  by_cases hsome : request.candidates.isEmpty = true
  · simp only [decide, enter, hsome, if_true]
    rfl
  · cases hbs : resolve registry request.candidates with
    | error e =>
      simp only [decide, enter, hsome, hbs]
      rfl
    | ok bs =>
      by_cases hlimit : limit = 0
      · simp only [decide, enter, hsome, hbs, hlimit]
        rfl
      · have hne : request.candidates ≠ [] := by simpa using hsome
        have hignores (b : Backend) (hb : b ∈ bs) : b.IgnoresId request.requestId id := by
          obtain ⟨a, -, ha⟩ := (mem_resolve hbs).1 hb
          exact h b (List.mem_of_find?_eq_some ha)
        have hdecide : (decide registry limit now request).1 = (launched bs limit now request).run.1 :=
          decide_eq_run hne hbs hlimit
        have hdecide' : (decide registry limit (now + delay) { request with requestId := id }).1 =
            (launched bs limit (now + delay) { request with requestId := id }).run.1 :=
          decide_eq_run hne hbs hlimit
        rw [hdecide, hdecide', launched_later hignores]
        exact run_later (ignores_launched hignores)

end Race

end ChatRace
