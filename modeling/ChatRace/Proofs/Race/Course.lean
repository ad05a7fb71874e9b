import ChatRace.Proofs.Attempt.Alone
import ChatRace.Race.Basic

/-!
# The course of a race

What holds of every race that has not been decided (`IsUnderWay`), what its next step can be (`step_cases`), and
the induction that carries a property from the start of a race to its verdict (`run_induction`).  A race makes
progress with every step, so the number of steps that `run` allows is always enough.
-/

namespace ChatRace.Race

open Chat

/-! ### Races under way -/

/-- The race has not been decided: somebody is still in it, everybody who is has a next step, and everybody who
is not has failed. -/
structure IsUnderWay (r : Race) : Prop where
  due : ∀ e ∈ r.entrants, e.isPending = true → ∃ d, e.attempt.due? = some d ∧ r.start ≤ d
  pending : ∃ e ∈ r.entrants, e.isPending = true
  failed : ∀ e ∈ r.entrants, e.isPending = false → e.state = .failed ∧ e.attempt.phase = .spent

/-- It is the turn of an entrant that is still in the race and due first. -/
structure IsTurn (r : Race) (t : Turn Entrant) : Prop where
  turn : r.turn? = some t
  entrants_eq : r.entrants = t.put t.chosen
  pending : t.chosen.isPending = true
  due : t.chosen.attempt.due? = some t.due
  start_le : r.start ≤ t.due
  due_le : ∀ e ∈ r.entrants, e.isPending = true → ∀ d, e.attempt.due? = some d → t.due ≤ d

theorem IsTurn.chosen_mem {r : Race} {t : Turn Entrant} (h : r.IsTurn t) : t.chosen ∈ r.entrants := by
  rw [h.entrants_eq]
  simp [Turn.put]

theorem mem_put {t : Turn Entrant} {e x : Entrant} : x ∈ t.put e ↔ x = e ∨ x ∈ t.before ∨ x ∈ t.after := by
  simp only [Turn.put, List.mem_append, List.mem_cons]
  exact or_left_comm

theorem IsTurn.mem_iff {r : Race} {t : Turn Entrant} (h : r.IsTurn t) {x : Entrant} :
    x ∈ r.entrants ↔ x = t.chosen ∨ x ∈ t.before ∨ x ∈ t.after := by
  rw [h.entrants_eq, mem_put]

theorem IsTurn.map_put {r : Race} {t : Turn Entrant} (h : r.IsTurn t) {f : Entrant → α} {e : Entrant}
    (he : f e = f t.chosen) : (t.put e).map f = r.entrants.map f := by
  simp [h.entrants_eq, Turn.put, he]

private theorem due?_of_pending {e : Entrant} (h : e.isPending = true) : e.due? = e.attempt.due? := by
  simp [Entrant.due?, h]

theorem IsUnderWay.exists_turn {r : Race} (h : r.IsUnderWay) : ∃ t, r.turn? = some t ∧ r.IsTurn t := by
  cases ht : r.turn? with
  | none =>
    obtain ⟨e, he, hp⟩ := h.pending
    obtain ⟨d, hd, -⟩ := h.due e he hp
    have := Turn.first?_eq_none.1 ht e he
    simp [due?_of_pending hp, hd] at this
  | some t =>
    refine ⟨t, rfl, ?_⟩
    have hmem := Turn.chosen_mem ht
    have hdue := Turn.due?_chosen ht
    have hp : t.chosen.isPending = true := by
      cases hp : t.chosen.isPending with
      | true => rfl
      | false => simp [Entrant.due?, hp] at hdue
    rw [due?_of_pending hp] at hdue
    obtain ⟨d, hd, hle⟩ := h.due _ hmem hp
    refine ⟨ht, (Turn.put_chosen ht).symm, hp, hdue, ?_, ?_⟩
    · rw [hdue, Option.some.injEq] at hd
      omega
    · intro e he hpe d hd
      exact Turn.due_le ht he (by rw [due?_of_pending hpe, hd])

/-- The race takes its next step at the turn, or at its deadline. -/
theorem IsTurn.due_eq {r : Race} {t : Turn Entrant} (h : r.IsTurn t) : r.due = min t.due r.deadline := by
  simp [Race.due, h.turn]

theorem IsUnderWay.start_le_due {r : Race} (h : r.IsUnderWay) : r.start ≤ r.due := by
  obtain ⟨t, -, ht⟩ := h.exists_turn
  have hle := ht.start_le
  rw [ht.due_eq, deadline]
  omega

/-! ### One step -/

/-- A race expires, or the entrant whose turn it is takes a step and then goes on, wins or fails. -/
theorem IsUnderWay.step_cases {r : Race} (h : r.IsUnderWay) :
    ∃ t, r.IsTurn t ∧
      ((r.deadline ≤ t.due ∧ r.step = r.expire) ∨
      (t.due < r.deadline ∧
        ((∃ d, t.chosen.attempt.step.1.due? = some d ∧ t.due ≤ d ∧
          r.step = (.running { r with entrants := t.put ⟨t.chosen.attempt.step.1, .pending⟩ },
            t.chosen.attempt.step.2)) ∨
        (∃ u, t.chosen.attempt.alone r.start = some (t.due, .ok u) ∧
          t.chosen.attempt.step.1.result? = some (.ok u) ∧
          r.step = ((r.win t t.chosen.attempt.step.1 u).1,
            t.chosen.attempt.step.2 ++ (r.win t t.chosen.attempt.step.1 u).2)) ∨
        (∃ e, t.chosen.attempt.alone r.start = some (t.due, .error e) ∧
          t.chosen.attempt.step.1.result? = some (.error e) ∧
          r.step = (r.fail t t.chosen.attempt.step.1 e, t.chosen.attempt.step.2))))) := by
  obtain ⟨t, ht, h⟩ := h.exists_turn
  refine ⟨t, h, ?_⟩
  by_cases hd : t.due < r.deadline
  · refine .inr ⟨hd, ?_⟩
    rcases Attempt.due?_or_result?_step h.due with ⟨d, hd', hr, hle⟩ | ⟨x, hd', hr⟩
    · exact .inl ⟨d, hd', hle, by simp [step, ht, hd, hr]⟩
    · have ha : t.chosen.attempt.alone r.start = some (t.due, x) := by
        rw [Attempt.alone_step h.due, Attempt.alone_of_result hd' hr]
      cases x with
      | ok u => exact .inr (.inl ⟨u, ha, hr, by simp [step, ht, hd, hr]⟩)
      | error e => exact .inr (.inr ⟨e, ha, hr, by simp [step, ht, hd, hr]⟩)
  · exact .inl ⟨by omega, by simp [step, ht, hd]⟩

/-- What becomes of a race in which an entrant fails. -/
theorem fail_cases (r : Race) (t : Turn Entrant) (a : Attempt) (e : BackendError) :
    ((∃ x, (x ∈ t.before ∨ x ∈ t.after) ∧ x.isPending = true) ∧
      r.fail t a e = .running { r with
        entrants := t.put ⟨a.take, .failed⟩
        failures := ⟨a.backend.name, e.message⟩ :: r.failures }) ∨
    ((∀ x, x ∈ t.before ∨ x ∈ t.after → x.isPending = false) ∧
      r.fail t a e =
        .decided ⟨t.due, .error (.allFailed (r.failures.reverse ++ [⟨a.backend.name, e.message⟩]))⟩) := by
  by_cases hp : (t.put ⟨a.take, .failed⟩).any (·.isPending) = true
  · refine .inl ⟨?_, by simp only [fail, hp, if_true]⟩
    obtain ⟨x, hx, hxp⟩ := List.any_eq_true.1 hp
    rcases mem_put.1 hx with rfl | hx
    · simp [Entrant.isPending] at hxp
    · exact ⟨x, hx, hxp⟩
  · refine .inr ⟨?_, by simp only [fail, hp]; simp⟩
    intro x hx
    have := mt List.any_eq_true.2 hp
    simp only [not_exists, not_and, Bool.not_eq_true] at this
    exact this x (mem_put.2 (.inr hx))

private theorem due?_of_turn? {r : Race} {t : Turn Entrant} (h : r.turn? = some t) :
    t.chosen.attempt.due? = some t.due := by
  have hdue := Turn.due?_chosen h
  unfold Entrant.due? at hdue
  split at hdue
  · exact hdue
  · nomatch hdue

/-- A race that goes on has changed one entrant that was due, whose attempt has taken a step. -/
theorem step_running {r r' : Race} {log : List Traffic} (h : r.step = (.running r', log)) :
    ∃ (t : Turn Entrant) (e : Entrant) (fs : List Failure), r.entrants = t.put t.chosen ∧
      t.chosen.attempt.due? = some t.due ∧ r' = { r with entrants := t.put e, failures := fs } ∧
      (e.attempt = t.chosen.attempt.step.1 ∨ e.attempt = t.chosen.attempt.step.1.take) := by
  unfold step at h
  cases ht : r.turn? with
  | none => simp [ht, expire] at h
  | some t =>
    have hdue := due?_of_turn? ht
    refine ⟨t, ?_⟩
    simp only [ht] at h
    split at h
    · split at h
      · obtain ⟨rfl, -⟩ : { r with entrants := t.put ⟨t.chosen.attempt.step.1, .pending⟩ } = r' ∧ _ := by
          simpa using h
        exact ⟨_, r.failures, (Turn.put_chosen ht).symm, hdue, rfl, .inl rfl⟩
      · simp [win] at h
      · rename_i err _
        rcases fail_cases r t t.chosen.attempt.step.1 err with ⟨-, hf⟩ | ⟨-, hf⟩
        · rw [hf, Prod.mk.injEq, Progress.running.injEq] at h
          exact ⟨_, _, (Turn.put_chosen ht).symm, hdue, h.1.symm, .inr rfl⟩
        · simp [hf] at h
    · simp [expire] at h

/-- A race that is won is won with the result of an attempt that was due. -/
theorem step_won {r : Race} {v : Verdict} {w : Victory} {log : List Traffic} (h : r.step = (.decided v, log))
    (hv : v.result = .ok w) :
    ∃ t : Turn Entrant, r.entrants = t.put t.chosen ∧ t.chosen.attempt.due? = some t.due ∧
      t.chosen.attempt.step.1.result? = some (.ok w.unit) := by
  have hexp : r.expire.1 ≠ .decided v := by
    rintro hexp
    obtain rfl := Progress.decided.inj hexp
    nomatch hv
  unfold step at h
  cases ht : r.turn? with
  | none => exact absurd (congrArg Prod.fst (ht ▸ h)) hexp
  | some t =>
    refine ⟨t, (Turn.put_chosen ht).symm, due?_of_turn? ht, ?_⟩
    simp only [ht] at h
    split at h
    · split at h
      · nomatch congrArg Prod.fst h
      · rename_i u hu
        obtain rfl := Progress.decided.inj (congrArg Prod.fst h)
        rw [hu, ← Except.ok.inj hv]
      · rename_i err _
        rcases fail_cases r t t.chosen.attempt.step.1 err with ⟨-, hf⟩ | ⟨-, hf⟩
        · nomatch hf.symm.trans (congrArg Prod.fst h)
        · obtain rfl := Progress.decided.inj (hf.symm.trans (congrArg Prod.fst h))
          nomatch hv
    · exact absurd (congrArg Prod.fst h) hexp

/-- A step takes something off the work of a race that goes on. -/
theorem step_work_lt {r r' : Race} {log : List Traffic} (h : r.step = (.running r', log)) :
    r'.work < r.work := by
  obtain ⟨t, e, fs, hes, hdue, rfl, he⟩ := step_running h
  have hlt : e.attempt.work < t.chosen.attempt.work := by
    rcases he with he | he
    · rw [he]
      exact Attempt.step_work_lt hdue
    · rw [he]
      exact Attempt.work_pos hdue
  simp only [work, hes, Turn.put, List.map_append, List.map_cons, List.sum_append, List.sum_cons]
  omega

/-- If the race goes on, the entrant whose turn it was is due no earlier than it was, or has failed while somebody
else is still in the race. -/
theorem IsUnderWay.running_cases {r r' : Race} {log : List Traffic} (h : r.IsUnderWay)
    (hs : r.step = (.running r', log)) :
    ∃ t e fs, r.IsTurn t ∧ r' = { r with entrants := t.put e, failures := fs } ∧
      ((e.isPending = true ∧ ∃ d, e.attempt.due? = some d ∧ t.due ≤ d) ∨
      (e.isPending = false ∧ e.state = .failed ∧ e.attempt.phase = .spent ∧
        ∃ x, (x ∈ t.before ∨ x ∈ t.after) ∧ x.isPending = true)) := by
  obtain ⟨t, ht, hexp | ⟨-, ⟨d, hd, hle, hgo⟩ | ⟨u, -, -, hw⟩ | ⟨e, -, -, hf⟩⟩⟩ := h.step_cases
  · simp [hexp.2, expire] at hs
  · rw [hs, Prod.mk.injEq, Progress.running.injEq] at hgo
    exact ⟨t, _, r.failures, ht, hgo.1, .inl ⟨rfl, d, hd, hle⟩⟩
  · simp [hw, win] at hs
  · rcases fail_cases r t t.chosen.attempt.step.1 e with ⟨hothers, hf'⟩ | ⟨-, hf'⟩
    · rw [hs, hf', Prod.mk.injEq, Progress.running.injEq] at hf
      exact ⟨t, _, _, ht, hf.1, .inr ⟨rfl, rfl, rfl, hothers⟩⟩
    · simp [hs, hf'] at hf

/-- What a step keeps, if the race goes on. -/
theorem IsUnderWay.of_step {r r' : Race} {log : List Traffic} (h : r.IsUnderWay)
    (hs : r.step = (.running r', log)) : r'.IsUnderWay := by
  obtain ⟨t, e, fs, ht, rfl, ⟨hp, d, hd, hle⟩ | ⟨hp, hstate, hphase, y, hy, hyp⟩⟩ := h.running_cases hs
  · refine ⟨?_, ⟨e, mem_put.2 (.inl rfl), hp⟩, ?_⟩
    · intro x hx hxp
      rcases mem_put.1 hx with rfl | hx
      · exact ⟨d, hd, Nat.le_trans ht.start_le hle⟩
      · exact h.due x (ht.mem_iff.2 (.inr hx)) hxp
    · intro x hx hxp
      rcases mem_put.1 hx with rfl | hx
      · simp [hp] at hxp
      · exact h.failed x (ht.mem_iff.2 (.inr hx)) hxp
  · refine ⟨?_, ⟨y, mem_put.2 (.inr hy), hyp⟩, ?_⟩
    · intro x hx hxp
      rcases mem_put.1 hx with rfl | hx
      · simp [hp] at hxp
      · exact h.due x (ht.mem_iff.2 (.inr hx)) hxp
    · intro x hx hxp
      rcases mem_put.1 hx with rfl | hx
      · exact ⟨hstate, hphase⟩
      · exact h.failed x (ht.mem_iff.2 (.inr hx)) hxp

/-- A race that goes on is between as many as before, and for the same request. -/
theorem of_step_running {r r' : Race} {log : List Traffic} (h : r.step = (.running r', log)) :
    r'.request = r.request ∧ r'.entrants.length = r.entrants.length := by
  obtain ⟨t, e, fs, hes, -, rfl, -⟩ := step_running h
  simp [hes, Turn.put]

private theorem state_cancel_ne_won {e : Entrant} (h : e.isPending = false → e.state = .failed) :
    e.cancel.1.state ≠ .won := by
  cases hp : e.isPending with
  | true => simp [Entrant.cancel, hp]
  | false => simp [Entrant.cancel, hp, h hp]

/-- A race is won by the entrant whose turn it is. -/
private theorem IsUnderWay.win_of_won {r : Race} {now : Nat} {v : Victory} {log : List Traffic} (h : r.IsUnderWay)
    (hs : r.step = (.decided ⟨now, .ok v⟩, log)) :
    ∃ t u, r.IsTurn t ∧ (r.win t t.chosen.attempt.step.1 u).1 = .decided ⟨now, .ok v⟩ := by
  obtain ⟨t, ht, hexp | ⟨-, ⟨d, -, -, hgo⟩ | ⟨u, -, -, hwin⟩ | ⟨e, -, -, hfail⟩⟩⟩ := h.step_cases
  · simp [hexp.2, expire] at hs
  · simp [hgo] at hs
  · exact ⟨t, u, ht, congrArg Prod.fst (hwin.symm.trans hs)⟩
  · rcases fail_cases r t t.chosen.attempt.step.1 e with ⟨-, hf⟩ | ⟨-, hf⟩ <;> simp [hfail, hf] at hs

/-- Of a race that is won every entrant is reported, and exactly one of them as the winner. -/
theorem IsUnderWay.of_won {r : Race} {now : Nat} {v : Victory} {log : List Traffic} (h : r.IsUnderWay)
    (hs : r.step = (.decided ⟨now, .ok v⟩, log)) :
    v.stream = r.request.stream ∧ v.attempts.length = r.entrants.length ∧
      (v.attempts.map (·.state)).count .won = 1 := by
  obtain ⟨t, u, ht, hwin⟩ := h.win_of_won hs
  -- the others are reported as cancelled or failed
  have hothers (x : Entrant) (hx : x ∈ t.before ∨ x ∈ t.after) : x.cancel.1.state ≠ .won :=
    state_cancel_ne_won fun hp => (h.failed x (ht.mem_iff.2 (.inr hx)) hp).1
  have hcount (es : List Entrant) (hes : ∀ x ∈ es, x.cancel.1.state ≠ .won) :
      (es.map fun x => x.cancel.1.state).count .won = 0 := by
    simpa [List.count_eq_zero] using hes
  have hv : v = _ := (Except.ok.inj (Verdict.mk.inj (Progress.decided.inj hwin)).2).symm
  subst hv
  refine ⟨rfl, by simp [ht.entrants_eq, Turn.put], ?_⟩
  simp only [Turn.put, List.map_append, List.map_cons, List.map_map, List.count_append, List.count_cons,
    Function.comp_def, Entrant.report]
  rw [hcount t.before fun x hx => hothers x (.inl hx), hcount t.after fun x hx => hothers x (.inr hx)]
  rfl

/-- Nobody is still in a race that has been won. -/
theorem IsUnderWay.pending_notMem_of_won {r : Race} {now : Nat} {v : Victory} {log : List Traffic}
    (h : r.IsUnderWay) (hs : r.step = (.decided ⟨now, .ok v⟩, log)) : .pending ∉ v.attempts.map (·.state) := by
  obtain ⟨t, u, -, hwin⟩ := h.win_of_won hs
  have hcancel (x : Entrant) : x.cancel.1.state ≠ .pending := by
    cases hp : x.isPending with
    | true => simp [Entrant.cancel, hp]
    | false => simpa [Entrant.cancel, hp] using of_decide_eq_false hp
  have hv : v = _ := (Except.ok.inj (Verdict.mk.inj (Progress.decided.inj hwin)).2).symm
  subst hv
  intro hmem
  simp only [List.map_map, List.mem_map, Function.comp_apply, Entrant.report] at hmem
  obtain ⟨x, -, hx⟩ := hmem
  exact hcancel x hx

/-- The next step of a race that goes on is not due earlier. -/
theorem IsUnderWay.due_le_of_step {r r' : Race} {log : List Traffic} (h : r.IsUnderWay)
    (hs : r.step = (.running r', log)) : r.due ≤ r'.due := by
  obtain ⟨t', -, ht'⟩ := (h.of_step hs).exists_turn
  obtain ⟨t, e, fs, ht, rfl, he⟩ := h.running_cases hs
  have hturn : t.due ≤ t'.due := by
    rcases mem_put.1 ht'.chosen_mem with hx | hx
    · -- it is the same entrant's turn again, so it has not failed
      have hpending := ht'.pending
      have hdue := ht'.due
      rw [hx] at hpending hdue
      rcases he with ⟨-, d, hd, hle⟩ | ⟨hp, -⟩
      · rw [hd, Option.some.injEq] at hdue
        omega
      · simp [hp] at hpending
    · exact ht.due_le _ (ht.mem_iff.2 (.inr hx)) ht'.pending _ ht'.due
  rw [ht.due_eq, ht'.due_eq]
  simp only [deadline]
  omega

/-- The verdicts that a race can come to: before its deadline it is won, or lost by all; at its deadline it is over. -/
inductive IsVerdict (r : Race) : Verdict → Prop
  | won {t : Nat} (w : Victory) (h : t < r.deadline) : IsVerdict r ⟨t, .ok w⟩
  | lost {t : Nat} (fs : List Failure) (h : t < r.deadline) : IsVerdict r ⟨t, .error (.allFailed fs)⟩
  | expired : IsVerdict r ⟨r.deadline, .error (.timeout (r.limit * 1000))⟩

/-- A race is decided when its next step is due. -/
theorem IsUnderWay.of_decided {r : Race} {v : Verdict} {log : List Traffic} (h : r.IsUnderWay)
    (hs : r.step = (.decided v, log)) : r.IsVerdict v ∧ v.time = r.due := by
  obtain ⟨t, ht, ⟨hle, hexp⟩ | ⟨hlt, ⟨d, -, -, hgo⟩ | ⟨u, -, -, hw⟩ | ⟨e, -, -, hf⟩⟩⟩ := h.step_cases
  · obtain rfl := Progress.decided.inj (congrArg Prod.fst (hexp.symm.trans hs))
    refine ⟨.expired, ?_⟩
    rw [ht.due_eq, Nat.min_eq_right hle]
  · nomatch hs.symm.trans hgo
  · obtain rfl := Progress.decided.inj (congrArg Prod.fst (hw.symm.trans hs))
    refine ⟨.won _ hlt, ?_⟩
    rw [ht.due_eq, Nat.min_eq_left (Nat.le_of_lt hlt)]
  · rcases fail_cases r t t.chosen.attempt.step.1 e with ⟨-, hf'⟩ | ⟨-, hf'⟩
    · simp [hs, hf'] at hf
    · obtain rfl := Progress.decided.inj (hf'.symm.trans (congrArg Prod.fst (hf.symm.trans hs)))
      refine ⟨.lost _ hlt, ?_⟩
      rw [ht.due_eq, Nat.min_eq_left (Nat.le_of_lt hlt)]

/-! ### Whole races -/

theorem work_pos (r : Race) : 0 < r.work := Nat.succ_pos _

/-- The number of steps that are allowed does not matter if there are enough. -/
private theorem runFor_of_work_le {n m : Nat} {r : Race} (hn : r.work ≤ n) (hm : r.work ≤ m) :
    runFor n r = runFor m r := by
  induction n generalizing m r with
  | zero =>
    have hpos := r.work_pos
    omega
  | succ n ih =>
    have hpos := r.work_pos
    obtain ⟨m, rfl⟩ : ∃ k, m = k + 1 := ⟨m - 1, by omega⟩
    simp only [runFor]
    cases hs : r.step with
    | mk p log =>
      cases p with
      | decided v => rfl
      | running r' =>
        have hlt := step_work_lt hs
        have hrest : runFor n r' = runFor m r' := ih (by omega) (by omega)
        simp only [hrest]

/-- A run goes on with the next step. -/
theorem run_of_running {r r' : Race} {log : List Traffic} (h : r.step = (.running r', log)) :
    r.run = (r'.run.1, log ++ r'.run.2) := by
  have hlt := step_work_lt h
  obtain ⟨n, hn⟩ : ∃ n, r.work = n + 1 := ⟨r.work - 1, by omega⟩
  have hrest : runFor n r' = r'.run := runFor_of_work_le (by omega) (Nat.le_refl _)
  simp only [run, hn, runFor, h, hrest]

/-- A run ends with the step that decides the race. -/
theorem run_of_decided {r : Race} {v : Verdict} {log : List Traffic} (h : r.step = (.decided v, log)) :
    r.run = (v, log) := by
  obtain ⟨n, hn⟩ : ∃ n, r.work = n + 1 := ⟨r.work - 1, by have := r.work_pos; omega⟩
  simp only [run, hn, runFor, h]

/-- A property that each step keeps until the race is over holds of the way to the verdict. -/
theorem run_induction {P : Race → Prop} {Q : Verdict → Prop}
    (step : ∀ r, P r →
      (∃ r' log, r.step = (.running r', log) ∧ P r') ∨ ∃ v log, r.step = (.decided v, log) ∧ Q v)
    {r : Race} (h : P r) : Q r.run.1 := by
  induction hw : r.work using Nat.strongRecOn generalizing r with
  | ind n ih =>
    rcases step r h with ⟨r', log, hs, h'⟩ | ⟨v, log, hs, hv⟩
    · rw [run_of_running hs]
      exact ih r'.work (hw ▸ step_work_lt hs) h' rfl
    · rw [run_of_decided hs]
      exact hv

/-- A race comes to a verdict, and not before its next step is due. -/
theorem IsUnderWay.isVerdict_run {r : Race} (h : r.IsUnderWay) : r.IsVerdict r.run.1 ∧ r.due ≤ r.run.1.time := by
  refine run_induction
    (P := fun r' => r'.IsUnderWay ∧ r'.start = r.start ∧ r'.limit = r.limit ∧ r.due ≤ r'.due)
    (Q := fun v => r.IsVerdict v ∧ r.due ≤ v.time) ?_ ⟨h, rfl, rfl, Nat.le_refl _⟩
  rintro r' ⟨h', hstart, hlimit, hdue⟩
  cases hs : r'.step with
  | mk p log =>
    cases p with
    | running r'' =>
      obtain ⟨t, e, fs, -, -, hr'', -⟩ := step_running hs
      refine .inl ⟨r'', log, rfl, h'.of_step hs, ?_, ?_, Nat.le_trans hdue (h'.due_le_of_step hs)⟩
      · rw [hr'', ← hstart]
      · rw [hr'', ← hlimit]
    | decided v =>
      obtain ⟨hv, htime⟩ := h'.of_decided hs
      have hdeadline : r'.deadline = r.deadline := by simp only [deadline, hstart, hlimit]
      refine .inr ⟨v, log, rfl, ?_, htime ▸ hdue⟩
      cases hv with
      | won w hlt => exact .won w (hdeadline ▸ hlt)
      | lost fs hlt => exact .lost fs (hdeadline ▸ hlt)
      | expired =>
        rw [hdeadline, hlimit]
        exact .expired

end ChatRace.Race
