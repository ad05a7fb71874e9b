import ChatRace.Backend.Stream
import ChatRace.Proofs.Race.Course

/-!
# Connections

Which connections are open on a line, told by the states of those who hold them: an attempt under way holds
one, a stream that is open holds one, and nobody else does.  Each operation changes the balance of calls made
and connections ended by what changes hands (`balance_step`, `IsUnderWay.balance_step`, `Stream.next_cases`),
and apart from the launch of a race none makes a call, so a balance that is never negative between two
operations is never negative within one (`IsSound.append_of_noCalls`).
-/

namespace ChatRace

open Chat

/-! ### Balances -/

namespace Traffic

/-- The number of connections on a line that have been made and have not ended. -/
def balance (line : Nat) (log : List Traffic) : Int := (calls line log).length - releases line log

@[simp] theorem balance_nil (line : Nat) : balance line [] = 0 := rfl

@[simp] theorem balance_append (line : Nat) (a b : List Traffic) :
    balance line (a ++ b) = balance line a + balance line b := by
  simp only [balance, calls_append, releases_append, List.length_append]
  omega

@[simp] theorem balance_pulled (line l : Nat) : balance line [.pulled l] = 0 := rfl

theorem balance_called (line l : Nat) (r : BackendRequest) :
    balance line [.called l r] = if l = line then 1 else 0 := by
  by_cases h : l = line <;> simp [balance, calls, releases, h]

theorem balance_released (line l : Nat) : balance line [.released l] = if l = line then -1 else 0 := by
  by_cases h : l = line <;> simp [balance, calls, releases, h]

/-- No connection ends that has not been made, at any time. -/
def IsSound (line : Nat) (log : List Traffic) : Prop :=
  ∀ pre, pre <+: log → releases line pre ≤ (calls line pre).length

private theorem isSound_append {line : Nat} {log more : List Traffic} (h : IsSound line log)
    (hmore : ∀ pre, pre <+: more → releases line (log ++ pre) ≤ (calls line (log ++ pre)).length) :
    IsSound line (log ++ more) := by
  rintro pre ⟨rest, hrest⟩
  rcases List.append_eq_append_iff.1 hrest with ⟨mid, hlog, -⟩ | ⟨mid, rfl, hmid⟩
  · exact h pre ⟨mid, hlog.symm⟩
  · exact hmore mid ⟨rest, hmid.symm⟩

/-- What only ends connections is sound if the balance is not negative behind it. -/
theorem IsSound.append_of_noCalls {line : Nat} {log more : List Traffic} (h : IsSound line log)
    (hcalls : calls line more = []) (hbal : 0 ≤ balance line (log ++ more)) : IsSound line (log ++ more) := by
  apply isSound_append h
  rintro pre ⟨rest, rfl⟩
  simp only [calls_append, List.append_eq_nil_iff] at hcalls
  simp only [balance_append] at hbal
  simp only [balance, hcalls.1, hcalls.2, List.length_nil] at hbal
  simp only [releases_append, calls_append, List.length_append]
  omega

/-- What only makes calls is sound. -/
theorem IsSound.append_of_noReleases {line : Nat} {log more : List Traffic} (h : IsSound line log)
    (hmore : releases line more = 0) : IsSound line (log ++ more) := by
  apply isSound_append h
  rintro pre ⟨rest, rfl⟩
  have := h log (List.prefix_refl log)
  simp only [releases_append] at hmore
  simp only [releases_append, calls_append, List.length_append]
  omega

end Traffic

/-! ### Attempts -/

namespace Attempt

/-- Whether an attempt holds a connection. -/
def isConnected (a : Attempt) : Bool :=
  match a.phase with
  | .calling _ | .pulling _ _ _ | .holding (.ok (.streamed _ _)) => true
  | .queued | .holding _ | .spent => false

/-- The connections that an attempt holds on a line. -/
def connections (line : Nat) (a : Attempt) : Int :=
  if a.isConnected && a.backend.line == line then 1 else 0

theorem isConnected_of_due {a : Attempt} {d : Nat} (h : a.due? = some d) : a.isConnected = true := by
  cases hp : a.phase <;> simp [due?, hp] at h <;> simp [isConnected, hp]

private theorem connections_of_due {a : Attempt} {d : Nat} (h : a.due? = some d) (line : Nat) :
    a.connections line = if a.backend.line = line then 1 else 0 := by
  simp [connections, isConnected_of_due h]

theorem balance_step {a : Attempt} {d : Nat} (h : a.due? = some d) (line : Nat) :
    Traffic.balance line a.step.2 + a.connections line = a.step.1.connections line := by
  have harr : Traffic.balance line a.arrival = 0 := by
    unfold arrival
    split <;> rfl
  rw [connections_of_due h]
  rcases step_cases h with ⟨i, rest, e⟩ | ⟨c, rest, e⟩ | ⟨r, hr, e⟩
  · simp [e, harr, connections, isConnected]
  · simp [e, harr, connections, isConnected]
  · have hc : ({ a with phase := .holding r } : Attempt).isConnected = false := by
      cases r with
      | error err => rfl
      | ok u =>
        cases u with
        | buffered reply => rfl
        | streamed c rest => exact absurd rfl (hr c rest)
    simp only [e, Traffic.balance_append, harr, Traffic.balance_released, connections, hc]
    split <;> simp

theorem calls_step {a : Attempt} {d : Nat} (h : a.due? = some d) (line : Nat) :
    Traffic.calls line a.step.2 = [] := by
  have harr : Traffic.calls line a.arrival = [] := by
    unfold arrival
    split <;> rfl
  rcases step_cases h with ⟨i, rest, e⟩ | ⟨c, rest, e⟩ | ⟨r, -, e⟩
  · simp [e, harr]
  · simp [e, harr]
  · simp only [e, Traffic.calls_append, harr]
    rfl

theorem balance_drop (a : Attempt) (line : Nat) :
    Traffic.balance line a.drop.2 + a.connections line = 0 := by
  have hrel : Traffic.balance line [.released a.backend.line] + (if a.backend.line = line then 1 else 0) = 0 := by
    rw [Traffic.balance_released]
    split <;> rfl
  unfold drop connections isConnected
  split <;> simp_all

theorem calls_drop (a : Attempt) (line : Nat) : Traffic.calls line a.drop.2 = [] := by
  unfold drop
  split <;> rfl

theorem balance_launch (b : Backend) (request : BackendRequest) (now line : Nat) :
    Traffic.balance line ((create b request).launch now).2 =
      ((create b request).launch now).1.connections line := by
  simp [create, launch, Traffic.balance_called, connections, isConnected]

theorem releases_launch (a : Attempt) (now line : Nat) : Traffic.releases line (a.launch now).2 = 0 := by
  unfold launch
  split <;> rfl

end Attempt

/-! ### Streams -/

namespace Stream

/-- The connections that a stream holds on a line. -/
def connections (line : Nat) (s : Stream) : Int := if s.isOpen && s.line == line then 1 else 0

theorem balance_drop (s : Stream) (line : Nat) : Traffic.balance line s.drop.2 + s.connections line = 0 := by
  cases h : s.isOpen with
  | false => simp [drop, connections, h]
  | true =>
    simp only [drop, connections, h, if_true, Traffic.balance_released]
    split <;> simp_all

theorem calls_drop (s : Stream) (line : Nat) : Traffic.calls line s.drop.2 = [] := by
  unfold drop
  split <;> rfl

/-- A pull ends the connection if it comes to the end of the stream, and only then. -/
theorem next_cases (s : Stream) (now : Nat) :
    (∃ d rest, s.next now = (some d, { s with rest := rest }, [.pulled s.line])) ∨
    (∃ s' log, s.next now = (none, s', log) ∧ s'.isOpen = false ∧
      (log = s.drop.2 ∨ log = .pulled s.line :: s.drop.2)) := by
  cases hr : s.rest with
  | nil => exact .inr ⟨s.drop.1, s.drop.2, by simp [next, hr], rfl, .inl rfl⟩
  | cons i rest =>
    cases ho : i.outcome with
    | value c => exact .inl ⟨⟨now + i.delay, .ok c⟩, rest, by simp [next, hr, ho]⟩
    | failure e => exact .inl ⟨⟨now + i.delay, .error e⟩, rest, by simp [next, hr, ho]⟩
    | crash =>
      exact .inr ⟨{ s with rest := [], isOpen := false }, .pulled s.line :: s.drop.2,
        by simp [next, hr, ho, drop], rfl, .inr rfl⟩

end Stream

/-! ### Races -/

namespace Race

/-- The connections that the attempts of a race hold on a line. -/
def connections (line : Nat) (r : Race) : Int := (r.entrants.map (·.attempt.connections line)).sum

/-- The calls on a line that are in progress. -/
def callsInProgress (line : Nat) (r : Race) : Nat :=
  r.entrants.countP fun e => e.isPending && e.attempt.backend.line == line

theorem IsUnderWay.connections_eq {r : Race} (h : r.IsUnderWay) (line : Nat) :
    r.connections line = r.callsInProgress line := by
  have key : ∀ es : List Entrant, (∀ e ∈ es, e ∈ r.entrants) →
      (es.map (·.attempt.connections line)).sum =
        ((es.countP fun e => e.isPending && e.attempt.backend.line == line : Nat) : Int) := by
    intro es hes
    induction es with
    | nil => rfl
    | cons e es ih =>
      have hmem := hes e (List.mem_cons_self ..)
      have he : e.attempt.connections line =
          if (e.isPending && e.attempt.backend.line == line) = true then 1 else 0 := by
        cases hp : e.isPending with
        | true =>
          obtain ⟨d, hd, -⟩ := h.due e hmem hp
          simp [Attempt.connections, Attempt.isConnected_of_due hd]
        | false => simp [Attempt.connections, Attempt.isConnected, (h.failed e hmem hp).2]
      rw [List.map_cons, List.sum_cons, List.countP_cons, ih fun x hx => hes x (List.mem_cons_of_mem _ hx), he]
      split <;> omega
  exact key r.entrants fun _ he => he

private theorem balance_cancelAll {es : List Entrant}
    (h : ∀ e ∈ es, e.isPending = false → e.attempt.phase = .spent) (line : Nat) :
    Traffic.balance line (cancelAll es).2 + (es.map (·.attempt.connections line)).sum = 0 := by
  induction es with
  | nil => rfl
  | cons e es ih =>
    have ih := ih fun x hx => h x (List.mem_cons_of_mem _ hx)
    have he : Traffic.balance line e.cancel.2 + e.attempt.connections line = 0 := by
      cases hp : e.isPending with
      | true =>
        simp only [Entrant.cancel, hp, if_true]
        exact Attempt.balance_drop e.attempt line
      | false =>
        have hspent := h e (List.mem_cons_self ..) hp
        simp [Entrant.cancel, hp, Attempt.connections, Attempt.isConnected, hspent]
    simp only [cancelAll, List.flatMap_cons, Traffic.balance_append, List.map_cons, List.sum_cons] at ih ⊢
    omega

theorem calls_cancelAll (es : List Entrant) (line : Nat) : Traffic.calls line (cancelAll es).2 = [] := by
  induction es with
  | nil => rfl
  | cons e es ih =>
    have he : Traffic.calls line e.cancel.2 = [] := by
      unfold Entrant.cancel
      split
      · exact Attempt.calls_drop e.attempt line
      · rfl
    simp only [cancelAll, List.flatMap_cons, Traffic.calls_append] at ih ⊢
    rw [he, ih, List.append_nil]

end Race

/-- The stream that comes with a verdict. -/
def Verdict.stream? (v : Verdict) : Option Stream :=
  match v.result with
  | .ok w =>
    match w.unit with
    | .buffered _ => none
    | .streamed _ rest => some (.held w.line rest)
  | .error _ => none

/-- The connections that a race, or what it has come to, holds on a line. -/
def Progress.connections (line : Nat) : Progress → Int
  | .running r => r.connections line
  | .decided v => v.stream?.elim 0 (·.connections line)

namespace Race

/-- The connections that all hold but the entrant whose turn it is. -/
def connectionsBeside (line : Nat) (t : Turn Entrant) : Int :=
  ((t.before ++ t.after).map (·.attempt.connections line)).sum

private theorem sum_put (line : Nat) (t : Turn Entrant) (e : Entrant) :
    ((t.put e).map (·.attempt.connections line)).sum = e.attempt.connections line + connectionsBeside line t := by
  simp only [Turn.put, connectionsBeside, List.map_append, List.map_cons, List.sum_append, List.sum_cons]
  omega

private theorem connections_take (a : Attempt) (line : Nat) : a.take.connections line = 0 := by
  simp [Attempt.connections, Attempt.isConnected, Attempt.take]

/-- The winner's connection goes with its unit, and all others end. -/
private theorem balance_win {r : Race} {t : Turn Entrant} {a : Attempt} {u : FirstUnit}
    (hspent : ∀ e, e ∈ t.before ∨ e ∈ t.after → e.isPending = false → e.attempt.phase = .spent)
    (hu : a.result? = some (.ok u)) (line : Nat) :
    Traffic.balance line (r.win t a u).2 + (a.connections line + connectionsBeside line t) =
      (r.win t a u).1.connections line := by
  have hall : ∀ e ∈ t.put ⟨a.take, .won⟩, e.isPending = false → e.attempt.phase = .spent := by
    intro e he hp
    rcases mem_put.1 he with rfl | he
    · rfl
    · exact hspent e he hp
  have hcancel := balance_cancelAll hall line
  have hunit : a.connections line = (r.win t a u).1.connections line := by
    rw [Attempt.result?_eq_some] at hu
    cases u <;> simp [Attempt.connections, Attempt.isConnected, hu, win, Progress.connections,
      Verdict.stream?, Stream.connections, Stream.held]
  rw [sum_put, connections_take] at hcancel
  rw [← hunit]
  simp only [win]
  omega

/-- An attempt that has failed holds no connection. -/
private theorem connections_fail {r : Race} {t : Turn Entrant} {a : Attempt} {e : BackendError}
    (hspent : ∀ x, x ∈ t.before ∨ x ∈ t.after → x.isPending = false → x.attempt.phase = .spent)
    (line : Nat) : (r.fail t a e).connections line = connectionsBeside line t := by
  rcases fail_cases r t a e with ⟨-, hf⟩ | ⟨hnone, hf⟩
  · rw [hf, Progress.connections, connections, sum_put, connections_take, Int.zero_add]
  · -- nobody is in the race any more, so nobody holds a connection
    have hzero : ∀ es : List Entrant, (∀ x ∈ es, x ∈ t.before ∨ x ∈ t.after) →
        (es.map (·.attempt.connections line)).sum = 0 := by
      intro es hes
      induction es with
      | nil => rfl
      | cons x es ih =>
        have hx := hes x (List.mem_cons_self ..)
        rw [List.map_cons, List.sum_cons, ih fun y hy => hes y (List.mem_cons_of_mem _ hy)]
        simp [Attempt.connections, Attempt.isConnected, hspent x hx (hnone x hx)]
    rw [hf, connectionsBeside, hzero _ fun x hx => List.mem_append.1 hx]
    rfl

/-- A race that goes on, or has been decided, holds what has been opened and has not ended. -/
theorem IsUnderWay.balance_step {r : Race} (h : r.IsUnderWay) (line : Nat) :
    Traffic.balance line r.step.2 + r.connections line = r.step.1.connections line := by
  have hspent : ∀ e ∈ r.entrants, e.isPending = false → e.attempt.phase = .spent :=
    fun e he hp => (h.failed e he hp).2
  obtain ⟨t, ht, hexp | ⟨-, hgo | ⟨u, -, hu, hw⟩ | ⟨e, -, he, hf⟩⟩⟩ := h.step_cases
  · rw [hexp.2]
    exact balance_cancelAll hspent line
  all_goals
    have hstep := Attempt.balance_step ht.due line
    have hbeside := fun e he => hspent e (ht.mem_iff.2 (.inr he))
    have hsum : r.connections line = t.chosen.attempt.connections line + connectionsBeside line t := by
      rw [connections, ht.entrants_eq, sum_put]
  · obtain ⟨d, hd, -, hgo⟩ := hgo
    rw [hsum]
    simp only [hgo, Progress.connections, connections, sum_put]
    omega
  · have hwin := balance_win (r := r) hbeside hu line
    rw [hsum]
    simp only [hw, Traffic.balance_append]
    omega
  · have hlost : t.chosen.attempt.step.1.connections line = 0 := by
      rw [Attempt.result?_eq_some] at he
      simp [Attempt.connections, Attempt.isConnected, he]
    rw [hsum]
    simp only [hf, connections_fail hbeside]
    omega

theorem IsUnderWay.calls_step {r : Race} (h : r.IsUnderWay) (line : Nat) :
    Traffic.calls line r.step.2 = [] := by
  obtain ⟨t, ht, hexp | ⟨-, hgo | ⟨u, -, -, hw⟩ | ⟨e, -, -, hf⟩⟩⟩ := h.step_cases
  · rw [hexp.2]
    exact calls_cancelAll r.entrants line
  · obtain ⟨d, -, -, hgo⟩ := hgo
    rw [hgo]
    exact Attempt.calls_step ht.due line
  · rw [hw, Traffic.calls_append, Attempt.calls_step ht.due line]
    exact calls_cancelAll _ line
  · rw [hf]
    exact Attempt.calls_step ht.due line

/-- What a race has opened and not ended when it is decided is the winner's stream. -/
theorem IsUnderWay.balance_run {r : Race} (h : r.IsUnderWay) (line : Nat) :
    Traffic.balance line r.run.2 + r.connections line = (Progress.decided r.run.1).connections line := by
  induction hw : r.work using Nat.strongRecOn generalizing r with
  | ind n ih =>
    have hstep := h.balance_step line
    cases hs : r.step with
    | mk p log =>
      rw [hs] at hstep
      cases p with
      | running r' =>
        have hrest := ih r'.work (hw ▸ step_work_lt hs) (h.of_step hs) rfl
        have hmore : Traffic.balance line log + r.connections line = r'.connections line := hstep
        rw [run_of_running hs, Traffic.balance_append]
        show Traffic.balance line log + Traffic.balance line r'.run.2 + r.connections line =
          (Progress.decided r'.run.1).connections line
        omega
      | decided v =>
        rw [run_of_decided hs]
        exact hstep

theorem IsUnderWay.balance_abandon {r : Race} (h : r.IsUnderWay) (line : Nat) :
    Traffic.balance line r.abandon + r.connections line = 0 :=
  balance_cancelAll (fun e he hp => (h.failed e he hp).2) line

/-- The launch of a race calls each backend under its own name. -/
theorem log_launch (bs : List Backend) (limit now : Nat) (request : RaceRequest) :
    (between bs limit now request).launch.2 = bs.map fun b => .called b.line (request.forBackend b.name) := by
  simp only [launch, between, List.flatMap_map]
  exact List.map_eq_flatMap.symm

/-- The launch of a race makes the calls that its attempts then hold connections for, and ends none. -/
theorem balance_launch (bs : List Backend) (limit now : Nat) (request : RaceRequest) (line : Nat) :
    Traffic.balance line (between bs limit now request).launch.2 =
        (between bs limit now request).launch.1.connections line ∧
      Traffic.releases line (between bs limit now request).launch.2 = 0 := by
  simp only [launch, between, connections, List.map_map, List.flatMap_map]
  induction bs with
  | nil => exact ⟨rfl, rfl⟩
  | cons b bs ih =>
    have hb := Attempt.balance_launch b (request.forBackend b.name) now line
    have hr := Attempt.releases_launch (Attempt.create b (request.forBackend b.name)) now line
    simp only [List.flatMap_cons, Traffic.balance_append, Traffic.releases_append, List.map_cons, List.sum_cons,
      Function.comp_apply, ih.2, hb, hr]
    exact ⟨by rw [ih.1], trivial⟩

end Race

end ChatRace
