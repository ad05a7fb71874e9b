import ChatRace.Proofs.Race.Course

/-!
# Decisions

How a race is decided, told by what each attempt comes to on its own: a race is won by the entrant that has
its unit first (`LedBy.run_eq`), it is lost at the last failure if all fail in time (`Doomed.run_eq`), and
otherwise at its deadline (`Stalled.run_eq`).  Each of the three cases is a property of races under way that
every step keeps.
-/

namespace ChatRace

open Chat

/-- What is reported of an entrant at the decision of a race that began at `start`, if it comes at `w`. -/
def Entrant.reportAt (start w : Nat) (e : Entrant) : Report where
  backend := e.attempt.backend.name
  state :=
    if e.isPending then
      match e.attempt.alone start with
      | some (t, .ok _) => if t = w then .won else .cancelled
      | some (t, .error _) => if t < w then .failed else .cancelled
      | none => .cancelled
    else e.state

/-- When an entrant that is still in the race will fail, and how, if it will. -/
def Entrant.failureAhead (start : Nat) (e : Entrant) : Option (Nat × Failure) :=
  if e.isPending then
    match e.attempt.alone start with
    | some (t, .error err) => some (t, ⟨e.attempt.backend.name, err.message⟩)
    | _ => none
  else none

namespace Race

/-! ### One turn, told by the ends ahead -/

/-- The attempt that goes on after its turn has the end ahead that it had before. -/
private theorem IsTurn.alone_step {r : Race} {t : Turn Entrant} (h : r.IsTurn t) {d : Nat}
    (hd : t.chosen.attempt.step.1.due? = some d) :
    t.chosen.attempt.step.1.alone r.start = t.chosen.attempt.alone r.start :=
  Attempt.alone_step_of_due h.due hd r.start

/-- Whoever is in the race after the entrant whose turn it was goes on was in it before, with the same end
ahead. -/
private theorem IsTurn.of_mem_put_goesOn {r : Race} {t : Turn Entrant} (h : r.IsTurn t) {d : Nat}
    (hd : t.chosen.attempt.step.1.due? = some d) {x : Entrant} (hx : x ∈ t.put ⟨t.chosen.attempt.step.1, .pending⟩)
    (hxp : x.isPending = true) :
    ∃ y ∈ r.entrants, y.isPending = true ∧ x.attempt.backend = y.attempt.backend ∧
      x.attempt.alone r.start = y.attempt.alone r.start := by
  rcases mem_put.1 hx with rfl | hx
  · exact ⟨_, h.chosen_mem, h.pending, Attempt.step_backend _, h.alone_step hd⟩
  · exact ⟨x, h.mem_iff.2 (.inr hx), hxp, rfl, rfl⟩

/-- Whoever is in the race before the entrant whose turn it is goes on is in it after, with the same end ahead. -/
private theorem IsTurn.mem_put_goesOn {r : Race} {t : Turn Entrant} (h : r.IsTurn t) {d : Nat}
    (hd : t.chosen.attempt.step.1.due? = some d) {x : Entrant} (hx : x ∈ r.entrants) (hxp : x.isPending = true) :
    ∃ y ∈ t.put ⟨t.chosen.attempt.step.1, .pending⟩, y.isPending = true ∧
      y.attempt.backend = x.attempt.backend ∧ y.attempt.alone r.start = x.attempt.alone r.start := by
  rcases h.mem_iff.1 hx with rfl | hx
  · exact ⟨_, mem_put.2 (.inl rfl), rfl, Attempt.step_backend _, h.alone_step hd⟩
  · exact ⟨x, mem_put.2 (.inr hx), hxp, rfl, rfl⟩

/-- Whoever is in the race after the entrant whose turn it was has failed was in it before. -/
private theorem IsTurn.of_mem_put_failed {r : Race} {t : Turn Entrant} (h : r.IsTurn t) {a : Attempt} {x : Entrant}
    (hx : x ∈ t.put ⟨a, .failed⟩) (hxp : x.isPending = true) : x ∈ r.entrants := by
  rcases mem_put.1 hx with rfl | hx
  · nomatch hxp
  · exact h.mem_iff.2 (.inr hx)

/-! ### Won races -/

/-- The entrant with the backend `b` will have the unit `u` at `w`, and nobody else will have one until then. -/
structure LedBy (r : Race) (b : Backend) (w : Nat) (u : FirstUnit) : Prop extends IsUnderWay r where
  distinct : (r.entrants.map (·.attempt.backend.name)).Nodup
  leader : ∃ e ∈ r.entrants, e.isPending = true ∧ e.attempt.backend = b ∧
    e.attempt.alone r.start = some (w, .ok u)
  others : ∀ e ∈ r.entrants, e.isPending = true → ∀ t x, e.attempt.alone r.start = some (t, x) →
    (e.attempt.backend = b ∧ t = w ∧ x = .ok u) ∨ (t ≠ w ∧ ∀ u', x = .ok u' → w < t)
  inTime : w < r.deadline

/-- The victory of the backend `b` with the unit `u` at `w`. -/
def victory (r : Race) (b : Backend) (w : Nat) (u : FirstUnit) : Victory where
  requestId := r.request.requestId
  winner := b.name
  line := b.line
  stream := r.request.stream
  latency := w - r.start
  attempts := r.entrants.map (·.reportAt r.start w)
  unit := u

private theorem name_ne_of_distinct {t : Turn Entrant} {x : Entrant}
    (h : ((t.put t.chosen).map (·.attempt.backend.name)).Nodup) (hx : x ∈ t.before ∨ x ∈ t.after) :
    x.attempt.backend.name ≠ t.chosen.attempt.backend.name := by
  simp only [Turn.put, List.map_append, List.map_cons, List.nodup_append, List.nodup_cons] at h
  rcases hx with hx | hx
  · exact h.2.2 _ (List.mem_map_of_mem hx) _ (List.mem_cons_self ..)
  · intro he
    exact h.2.1.1 (he ▸ List.mem_map_of_mem hx)

private theorem reportAt_of_not_pending {e : Entrant} (h : e.isPending = false) (start w : Nat) :
    e.reportAt start w = e.report := by
  simp [Entrant.reportAt, Entrant.report, h]

private theorem report_cancel {e : Entrant} {start w : Nat}
    (h : e.isPending = true → ∃ t x, e.attempt.alone start = some (t, x) ∧ w < t) :
    e.cancel.1.report = e.reportAt start w := by
  cases hp : e.isPending with
  | false => simp [Entrant.cancel, reportAt_of_not_pending hp, hp]
  | true =>
    obtain ⟨t, x, ha, hlt⟩ := h hp
    have hb : e.attempt.drop.1.backend = e.attempt.backend := by
      unfold Attempt.drop
      split <;> rfl
    simp only [Entrant.cancel, Entrant.report, Entrant.reportAt, hp, if_true, ha, hb, Report.mk.injEq, true_and]
    cases x with
    | ok u => simp [show t ≠ w by omega]
    | error e => simp [show ¬t < w by omega]

private theorem win_eq {r : Race} {t : Turn Entrant} {u : FirstUnit} {b : Backend} (h : r.LedBy b t.due u)
    (ht : r.IsTurn t) (hb : t.chosen.attempt.backend = b)
    (hu : t.chosen.attempt.alone r.start = some (t.due, .ok u)) :
    (r.win t t.chosen.attempt.step.1 u).1 = .decided ⟨t.due, .ok (r.victory b t.due u)⟩ := by
  -- nobody else is ready before the leader, so whoever is cancelled would have come to an end after it
  have later : ∀ x, x ∈ t.before ∨ x ∈ t.after → x.cancel.1.report = x.reportAt r.start t.due := by
    intro x hx
    apply report_cancel
    intro hxp
    have hxm := ht.mem_iff.2 (.inr hx)
    obtain ⟨d, hd, -⟩ := h.due x hxm hxp
    obtain ⟨t', y, hy, hle⟩ := Attempt.alone_of_due hd r.start
    have hfirst := ht.due_le x hxm hxp d hd
    rcases h.others x hxm hxp t' y hy with ⟨hxb, -, -⟩ | ⟨hne, -⟩
    · exact absurd (by rw [hxb, hb]) (name_ne_of_distinct (ht.entrants_eq ▸ h.distinct) hx)
    · exact ⟨t', y, hy, by omega⟩
  have hwon : (Entrant.cancel ⟨t.chosen.attempt.step.1.take, .won⟩).1.report =
      t.chosen.reportAt r.start t.due := by
    have hp : Entrant.isPending ⟨t.chosen.attempt.step.1.take, .won⟩ = false := rfl
    simp only [Entrant.cancel, hp]
    simp [Entrant.report, Entrant.reportAt, ht.pending, hu, Attempt.take, Attempt.step_backend]
  have hes : (cancelAll (t.put ⟨t.chosen.attempt.step.1.take, .won⟩)).1.map (·.report) =
      r.entrants.map (·.reportAt r.start t.due) := by
    simp only [ht.entrants_eq, cancelAll, Turn.put, List.map_append, List.map_cons, List.map_map, hwon]
    congr 1
    · exact List.map_congr_left fun x hx => later x (.inl hx)
    · congr 1
      exact List.map_congr_left fun x hx => later x (.inr hx)
  simp only [win, victory, hes, Attempt.step_backend, hb]

/-- Until the leader has its unit the race goes on, and the leader wins it. -/
theorem LedBy.step {r : Race} {b : Backend} {w : Nat} {u : FirstUnit} (h : r.LedBy b w u) :
    (∃ r' log, r.step = (.running r', log) ∧ r'.LedBy b w u ∧ r'.victory b w u = r.victory b w u) ∨
      ∃ log, r.step = (.decided ⟨w, .ok (r.victory b w u)⟩, log) ∧ r.due = w := by
  obtain ⟨e, he, hep, heb, hea⟩ := h.leader
  obtain ⟨de, hde, -⟩ := h.due e he hep
  have hdw := Attempt.due_le_alone hde hea
  obtain ⟨t, ht, hexp | ⟨-, hgo | ⟨v, hv, -, hw⟩ | ⟨err, herr, -, hf⟩⟩⟩ := h.step_cases
  · -- the race cannot expire, for the leader is due in time
    have := ht.due_le e he hep de hde
    have := h.inTime
    omega
  · obtain ⟨d, hd, -, hgo⟩ := hgo
    refine .inl ⟨_, _, hgo, ⟨h.toIsUnderWay.of_step hgo, ?_, ?_, ?_, h.inTime⟩, ?_⟩
    · rw [ht.map_put (by simp only [Attempt.step_backend])]
      exact h.distinct
    · obtain ⟨x, hx, hxp, hxb, hxa⟩ := ht.mem_put_goesOn hd he hep
      exact ⟨x, hx, hxp, hxb.trans heb, hxa.trans hea⟩
    · intro x hx hxp t' y hy
      obtain ⟨z, hz, hzp, hb, ha⟩ := ht.of_mem_put_goesOn hd hx hxp
      rw [hb]
      exact h.others z hz hzp t' y (ha ▸ hy)
    · have hp : Entrant.isPending ⟨t.chosen.attempt.step.1, .pending⟩ = true := rfl
      simp only [victory]
      rw [ht.map_put (by
        simp only [Entrant.reportAt, hp, ht.pending, Attempt.step_backend, ht.alone_step hd, if_true])]
  · have hle := ht.due_le e he hep de hde
    -- whoever has a unit now is the leader, since any other has one only later
    rcases h.others _ ht.chosen_mem ht.pending _ _ hv with ⟨hb, rfl, hu⟩ | ⟨-, hlt⟩
    · obtain rfl : v = u := by simpa using hu
      have := ht.due_eq
      have := h.inTime
      exact .inr ⟨_, hw.trans (by rw [win_eq h ht hb hv]), by omega⟩
    · have := hlt v rfl
      omega
  · have hle := ht.due_le e he hep de hde
    rcases h.others _ ht.chosen_mem ht.pending _ _ herr with ⟨-, -, hu⟩ | ⟨hne, -⟩
    · simp at hu
    -- the leader is not the one that has failed, so somebody is still in the race
    have he' : e ∈ t.before ∨ e ∈ t.after := by
      rcases ht.mem_iff.1 he with rfl | he
      · simp [herr] at hea
      · exact he
    rcases fail_cases r t t.chosen.attempt.step.1 err with ⟨-, hf'⟩ | ⟨hnone, -⟩
    · rw [hf'] at hf
      refine .inl ⟨_, _, hf, ⟨h.toIsUnderWay.of_step hf, ?_, ?_, ?_, h.inTime⟩, ?_⟩
      · rw [ht.map_put (by simp only [Attempt.take, Attempt.step_backend])]
        exact h.distinct
      · exact ⟨e, mem_put.2 (.inr he'), hep, heb, hea⟩
      · exact fun x hx hxp => h.others x (ht.of_mem_put_failed hx hxp) hxp
      · have hp : Entrant.isPending ⟨t.chosen.attempt.step.1.take, .failed⟩ = false := rfl
        simp only [victory]
        have hlt : t.due < w := by omega
        rw [ht.map_put (by
          rw [reportAt_of_not_pending hp]
          simp [Entrant.report, Entrant.reportAt, ht.pending, herr, hlt, Attempt.take, Attempt.step_backend])]
    · simp [hnone e he'] at hep

/-- The leader wins. -/
theorem LedBy.run_eq {r : Race} {b : Backend} {w : Nat} {u : FirstUnit} (h : r.LedBy b w u) :
    r.run.1 = ⟨w, .ok (r.victory b w u)⟩ := by
  refine run_induction (P := fun r' => r'.LedBy b w u ∧ r'.victory b w u = r.victory b w u)
    (Q := fun v => v = ⟨w, .ok (r.victory b w u)⟩) ?_ ⟨h, rfl⟩
  rintro r' ⟨h', hv⟩
  rcases h'.step with ⟨r'', log, hs, h'', hv'⟩ | ⟨log, hs, -⟩
  · exact .inl ⟨r'', log, hs, h'', hv'.trans hv⟩
  · exact .inr ⟨_, log, hs, by rw [hv]⟩

/-! ### Races that all lose -/

/-- Everybody who is still in the race will fail in time. -/
structure Doomed (r : Race) : Prop extends IsUnderWay r where
  fails : ∀ e ∈ r.entrants, e.isPending = true →
    ∃ t err, e.attempt.alone r.start = some (t, .error err) ∧ t < r.deadline

/-- The failures that will come, in the order of the entrants. -/
def failuresAhead (r : Race) : List (Nat × Failure) := r.entrants.filterMap (·.failureAhead r.start)

private theorem IsTurn.failuresAhead_perm {r : Race} {t : Turn Entrant} (h : r.IsTurn t) {err : BackendError}
    (ha : t.chosen.attempt.alone r.start = some (t.due, .error err)) :
    r.failuresAhead.Perm ((t.due, ⟨t.chosen.attempt.backend.name, err.message⟩) ::
      (t.before ++ t.after).filterMap (·.failureAhead r.start)) := by
  have hf : t.chosen.failureAhead r.start = some (t.due, ⟨t.chosen.attempt.backend.name, err.message⟩) := by
    simp [Entrant.failureAhead, h.pending, ha]
  simp only [failuresAhead, h.entrants_eq, Turn.put, List.filterMap_append, List.filterMap_cons, hf]
  exact List.perm_middle

private theorem IsTurn.due_le_failure {r : Race} {t : Turn Entrant} (h : r.IsTurn t) (hr : r.IsUnderWay)
    {y : Nat × Failure} (hy : y ∈ r.failuresAhead) : t.due ≤ y.1 := by
  obtain ⟨e, he, hey⟩ := List.mem_filterMap.1 hy
  unfold Entrant.failureAhead at hey
  split at hey
  · rename_i hp
    obtain ⟨d, hd, -⟩ := hr.due e he hp
    have hle := h.due_le e he hp d hd
    split at hey
    · rename_i t' err ha
      have := Attempt.due_le_alone hd ha
      rw [← Option.some.inj hey]
      omega
    · simp at hey
  · simp at hey

/-- The race goes on, with or without one more failure, or it is over with the last one. -/
theorem Doomed.step {r : Race} (h : r.Doomed) :
    (∃ r' log, r.step = (.running r', log) ∧ r'.Doomed ∧
      ((r'.failures = r.failures ∧ r'.failuresAhead = r.failuresAhead) ∨
      ∃ t f, r'.failures = f :: r.failures ∧ r.failuresAhead.Perm ((t, f) :: r'.failuresAhead) ∧
        ∀ y ∈ r'.failuresAhead, t ≤ y.1)) ∨
    ∃ t f log, r.step = (.decided ⟨t, .error (.allFailed (r.failures.reverse ++ [f]))⟩, log) ∧
      r.failuresAhead = [(t, f)] := by
  obtain ⟨t, ht, hexp | ⟨-, hgo | ⟨v, hv, -⟩ | ⟨err, herr, -, hf⟩⟩⟩ := h.step_cases
  · obtain ⟨t', err, ha, hlt⟩ := h.fails _ ht.chosen_mem ht.pending
    have := Attempt.due_le_alone ht.due ha
    omega
  · obtain ⟨d, hd, -, hgo⟩ := hgo
    refine .inl ⟨_, _, hgo, ⟨h.toIsUnderWay.of_step hgo, ?_⟩, .inl ⟨rfl, ?_⟩⟩
    · intro x hx hxp
      obtain ⟨y, hy, hyp, -, ha⟩ := ht.of_mem_put_goesOn hd hx hxp
      rw [ha]
      exact h.fails y hy hyp
    · have hp : Entrant.isPending ⟨t.chosen.attempt.step.1, .pending⟩ = true := rfl
      have hsame : Entrant.failureAhead r.start ⟨t.chosen.attempt.step.1, .pending⟩ =
          t.chosen.failureAhead r.start := by
        simp only [Entrant.failureAhead, hp, ht.pending, ht.alone_step hd, Attempt.step_backend]
      simp only [failuresAhead, ht.entrants_eq, Turn.put, List.filterMap_append, List.filterMap_cons, hsame]
  · obtain ⟨t', err, ha, -⟩ := h.fails _ ht.chosen_mem ht.pending
    simp [hv] at ha
  · have hperm := ht.failuresAhead_perm herr
    rcases fail_cases r t t.chosen.attempt.step.1 err with ⟨-, hf'⟩ | ⟨hnone, hf'⟩
    · rw [hf', Attempt.step_backend] at hf
      have hahead : failuresAhead { r with
          entrants := t.put ⟨t.chosen.attempt.step.1.take, .failed⟩
          failures := ⟨t.chosen.attempt.backend.name, err.message⟩ :: r.failures } =
          (t.before ++ t.after).filterMap (·.failureAhead r.start) := by
        have hnot : Entrant.failureAhead r.start ⟨t.chosen.attempt.step.1.take, .failed⟩ = none := rfl
        simp only [failuresAhead, Turn.put, List.filterMap_append, List.filterMap_cons, hnot]
      refine .inl ⟨_, _, hf, ⟨h.toIsUnderWay.of_step hf, ?_⟩, .inr ⟨t.due, _, rfl, ?_, ?_⟩⟩
      · exact fun x hx hxp => h.fails x (ht.of_mem_put_failed hx hxp) hxp
      · rw [hahead]
        exact hperm
      · intro y hy
        rw [hahead] at hy
        exact ht.due_le_failure h.toIsUnderWay (hperm.mem_iff.2 (List.mem_cons_of_mem _ hy))
    · rw [hf', Attempt.step_backend] at hf
      refine .inr ⟨t.due, _, _, hf, ?_⟩
      have hrest : (t.before ++ t.after).filterMap (·.failureAhead r.start) = [] := by
        rw [List.filterMap_eq_nil_iff]
        intro x hx
        simp [Entrant.failureAhead, hnone x (List.mem_append.1 hx)]
      rw [hrest] at hperm
      exact List.perm_singleton.1 hperm

/-- The race is lost at the last failure, with the failures in their order. -/
theorem Doomed.run_eq {r : Race} (h : r.Doomed) :
    ∃ order t f, (order ++ [(t, f)]).Perm r.failuresAhead ∧ (order ++ [(t, f)]).Pairwise (·.1 ≤ ·.1) ∧
      r.run.1 = ⟨t, .error (.allFailed (r.failures.reverse ++ (order ++ [(t, f)]).map (·.2)))⟩ := by
  -- the failures that have come are in order, and none of those ahead comes before any of them
  refine run_induction
    (P := fun r' => r'.Doomed ∧ ∃ past, (past ++ r'.failuresAhead).Perm r.failuresAhead ∧
      past.Pairwise (·.1 ≤ ·.1) ∧ (∀ x ∈ past, ∀ y ∈ r'.failuresAhead, x.1 ≤ y.1) ∧
      r'.failures.reverse = r.failures.reverse ++ past.map (·.2))
    (Q := fun v => ∃ order t f, (order ++ [(t, f)]).Perm r.failuresAhead ∧
      (order ++ [(t, f)]).Pairwise (·.1 ≤ ·.1) ∧
      v = ⟨t, .error (.allFailed (r.failures.reverse ++ (order ++ [(t, f)]).map (·.2)))⟩)
    ?_ ⟨h, [], by simp⟩
  rintro r' ⟨h', past, hperm, hsorted, hle, hfs⟩
  rcases h'.step with ⟨r'', log, hs, h'', ⟨hsame, hahead⟩ | ⟨t, f, hcons, hahead, hmin⟩⟩ | ⟨t, f, log, hs, hahead⟩
  · exact .inl ⟨r'', log, hs, h'', past, by rwa [hahead], hsorted, by rwa [hahead], by rwa [hsame]⟩
  · have htf : ∀ x ∈ past, x.1 ≤ t := fun x hx => hle x hx _ (hahead.mem_iff.2 (List.mem_cons_self ..))
    refine .inl ⟨r'', log, hs, h'', past ++ [(t, f)], ?_, ?_, ?_, ?_⟩
    · rw [List.append_assoc]
      exact (List.Perm.append_left past hahead.symm).trans hperm
    · rw [List.pairwise_append]
      exact ⟨hsorted, List.pairwise_singleton .., by simpa using htf⟩
    · intro x hx y hy
      rcases List.mem_append.1 hx with hx | hx
      · exact hle x hx y (hahead.mem_iff.2 (List.mem_cons_of_mem _ hy))
      · rw [List.mem_singleton.1 hx]
        exact hmin y hy
    · simp [hcons, hfs]
  · refine .inr ⟨_, log, hs, past, t, f, hahead ▸ hperm, ?_, ?_⟩
    · rw [List.pairwise_append]
      refine ⟨hsorted, List.pairwise_singleton .., ?_⟩
      intro x hx y hy
      exact hle x hx y (hahead ▸ hy)
    · simp [hfs]

/-! ### Races that are not lost by all -/

/-- Somebody who is still in the race will not fail in time. -/
structure Spared (r : Race) : Prop extends IsUnderWay r where
  spared : ∃ e ∈ r.entrants, e.isPending = true ∧
    ∀ t err, e.attempt.alone r.start = some (t, .error err) → r.deadline ≤ t

/-- The race goes on with the one who will not fail in time, or it is over before all have failed. -/
private theorem Spared.step {r : Race} (h : r.Spared) :
    (∃ r' log, r.step = (.running r', log) ∧ r'.Spared) ∨
      ∃ v log, r.step = (.decided v, log) ∧ ∀ fs, v.result ≠ .error (.allFailed fs) := by
  obtain ⟨e, he, hep, hspared⟩ := h.spared
  obtain ⟨t, ht, hexp | ⟨hin, hgo | ⟨u, -, -, hw⟩ | ⟨err, herr, -, hf⟩⟩⟩ := h.step_cases
  · exact .inr ⟨_, _, hexp.2, by simp⟩
  · obtain ⟨d, hd, -, hgo⟩ := hgo
    obtain ⟨x, hx, hxp, -, hxa⟩ := ht.mem_put_goesOn hd he hep
    exact .inl ⟨_, _, hgo, h.toIsUnderWay.of_step hgo, x, hx, hxp, by rwa [hxa]⟩
  · exact .inr ⟨_, _, hw, by simp⟩
  · -- whoever has failed in time is not the one
    have he' : e ∈ t.before ∨ e ∈ t.after := by
      rcases ht.mem_iff.1 he with rfl | he
      · have hle := hspared _ _ herr
        omega
      · exact he
    rcases fail_cases r t t.chosen.attempt.step.1 err with ⟨-, hf'⟩ | ⟨hnone, -⟩
    · rw [hf'] at hf
      exact .inl ⟨_, _, hf, h.toIsUnderWay.of_step hf, e, mem_put.2 (.inr he'), hep, hspared⟩
    · simp [hnone e he'] at hep

private theorem Spared.run_ne {r : Race} (h : r.Spared) (fs : List Failure) :
    r.run.1.result ≠ .error (.allFailed fs) :=
  run_induction (P := Spared) (Q := fun v => ∀ fs, v.result ≠ .error (.allFailed fs)) (fun _ h' => h'.step) h fs

/-- If all have failed, all were to fail in time. -/
theorem IsUnderWay.doomed_of_allFailed {r : Race} {fs : List Failure} (h : r.IsUnderWay)
    (hfs : r.run.1.result = .error (.allFailed fs)) : r.Doomed := by
  refine ⟨h, ?_⟩
  intro e he hep
  obtain ⟨d, hd, -⟩ := h.due e he hep
  obtain ⟨t, x, ha, -⟩ := Attempt.alone_of_due hd r.start
  have hspared (hlate : ∀ t' err, e.attempt.alone r.start = some (t', .error err) → r.deadline ≤ t') : False :=
    Spared.run_ne ⟨h, e, he, hep, hlate⟩ fs hfs
  cases x with
  | ok u => exact (hspared fun t' err ha' => by simp [ha] at ha').elim
  | error err =>
    refine ⟨t, err, ha, Nat.lt_of_not_le fun hle => hspared fun t' err' ha' => ?_⟩
    rw [ha, Option.some.injEq, Prod.mk.injEq] at ha'
    omega

/-! ### The tally -/

/-- The names of those who have failed, and of those who are still in the race. -/
def tally (r : Race) : List String :=
  r.failures.map (·.backend) ++ (r.entrants.filter (·.isPending)).map (·.attempt.backend.name)

private theorem IsTurn.tally_eq {r : Race} {t : Turn Entrant} (h : r.IsTurn t) :
    r.tally = r.failures.map (·.backend) ++ ((t.before.filter (·.isPending)).map (·.attempt.backend.name) ++
      t.chosen.attempt.backend.name :: (t.after.filter (·.isPending)).map (·.attempt.backend.name)) := by
  have hput : r.entrants.filter (·.isPending) =
      t.before.filter (·.isPending) ++ t.chosen :: t.after.filter (·.isPending) := by
    rw [h.entrants_eq, Turn.put, List.filter_append, List.filter_cons_of_pos h.pending]
  rw [tally, hput, List.map_append, List.map_cons]

/-- Nobody is lost while the race goes on. -/
private theorem IsUnderWay.tally_step {r r' : Race} {log : List Traffic} (h : r.IsUnderWay)
    (hs : r.step = (.running r', log)) : r'.tally.Perm r.tally := by
  obtain ⟨t, ht, hexp | ⟨-, hgo | ⟨u, -, -, hw⟩ | ⟨e, -, -, hf⟩⟩⟩ := h.step_cases
  · simp [hexp.2, expire] at hs
  · obtain ⟨d, -, -, hgo⟩ := hgo
    rw [hs, Prod.mk.injEq, Progress.running.injEq] at hgo
    obtain ⟨rfl, -⟩ := hgo
    have hp : Entrant.isPending ⟨t.chosen.attempt.step.1, .pending⟩ = true := rfl
    rw [ht.tally_eq]
    simp only [tally, Turn.put, List.filter_append, List.filter_cons_of_pos hp, List.map_append, List.map_cons,
      Attempt.step_backend]
    exact List.Perm.refl _
  · simp [hw, win] at hs
  · rcases fail_cases r t t.chosen.attempt.step.1 e with ⟨-, hf'⟩ | ⟨-, hf'⟩
    · rw [hs, hf', Prod.mk.injEq, Progress.running.injEq] at hf
      obtain ⟨rfl, -⟩ := hf
      have hp : ¬Entrant.isPending ⟨t.chosen.attempt.step.1.take, .failed⟩ = true := by simp [Entrant.isPending]
      rw [ht.tally_eq]
      simp only [tally, Turn.put, List.filter_append, List.filter_cons_of_neg hp, List.map_append, List.map_cons,
        Attempt.step_backend]
      rw [← List.append_assoc, ← List.append_assoc]
      exact List.perm_middle.symm
    · simp [hs, hf'] at hf

/-- A race is lost by all when nobody is in it any more. -/
private theorem IsUnderWay.perm_tally {r : Race} {t : Nat} {fs : List Failure} {log : List Traffic}
    (h : r.IsUnderWay) (hs : r.step = (.decided ⟨t, .error (.allFailed fs)⟩, log)) :
    (fs.map (·.backend)).Perm r.tally := by
  obtain ⟨t, ht, hexp | ⟨-, hgo | ⟨u, -, -, hw⟩ | ⟨e, -, -, hf⟩⟩⟩ := h.step_cases
  · simp [hexp.2, expire] at hs
  · obtain ⟨d, -, -, hgo⟩ := hgo
    cases hs.symm.trans hgo
  · simp [hw, win] at hs
  · rcases fail_cases r t t.chosen.attempt.step.1 e with ⟨-, hf'⟩ | ⟨hnone, hf'⟩
    · simp [hs, hf'] at hf
    · rw [hs, hf', Prod.mk.injEq, Progress.decided.injEq, Verdict.mk.injEq, Except.error.injEq,
        RaceError.allFailed.injEq] at hf
      obtain ⟨⟨-, rfl⟩, -⟩ := hf
      have hbefore : t.before.filter (·.isPending) = [] :=
        List.filter_eq_nil_iff.2 fun x hx => by simp [hnone x (.inl hx)]
      have hafter : t.after.filter (·.isPending) = [] :=
        List.filter_eq_nil_iff.2 fun x hx => by simp [hnone x (.inr hx)]
      rw [ht.tally_eq, hbefore, hafter, List.map_append, List.map_reverse]
      simp only [List.map_cons, List.map_nil, List.nil_append, Attempt.step_backend]
      exact List.Perm.append_right _ (List.reverse_perm _)

/-- If all have failed, each one has, and is listed once for each of its attempts. -/
theorem IsUnderWay.perm_of_allFailed {r : Race} {fs : List Failure} (h : r.IsUnderWay)
    (hfs : r.run.1.result = .error (.allFailed fs)) : (fs.map (·.backend)).Perm r.tally := by
  refine run_induction (P := fun r' => r'.IsUnderWay ∧ r'.tally.Perm r.tally)
    (Q := fun v => ∀ fs, v.result = .error (.allFailed fs) → (fs.map (·.backend)).Perm r.tally) ?_
    ⟨h, List.Perm.refl _⟩ fs hfs
  rintro r' ⟨h', hperm⟩
  cases hs : r'.step with
  | mk p log =>
    cases p with
    | running r'' => exact .inl ⟨r'', log, rfl, h'.of_step hs, (h'.tally_step hs).trans hperm⟩
    | decided v =>
      refine .inr ⟨v, log, rfl, ?_⟩
      intro fs hfs
      obtain ⟨t, result⟩ := v
      obtain rfl : result = _ := hfs
      exact (h'.perm_tally hs).trans hperm

/-! ### Races that time runs out on -/

/-- Nobody will have a unit in time, and somebody will have nothing at all. -/
structure Stalled (r : Race) : Prop extends IsUnderWay r where
  late : ∃ e ∈ r.entrants, e.isPending = true ∧ ∃ t x, e.attempt.alone r.start = some (t, x) ∧ r.deadline ≤ t
  noUnit : ∀ e ∈ r.entrants, e.isPending = true → ∀ t u, e.attempt.alone r.start = some (t, .ok u) →
    r.deadline ≤ t

/-- The race goes on until its deadline, and is lost there. -/
theorem Stalled.step {r : Race} (h : r.Stalled) :
    (∃ r' log, r.step = (.running r', log) ∧ r'.Stalled ∧ r'.start = r.start ∧ r'.limit = r.limit) ∨
      r.step = r.expire := by
  obtain ⟨e, he, hep, t', y, hea, hlate⟩ := h.late
  obtain ⟨t, ht, hexp | ⟨hin, hgo | ⟨v, hv, -⟩ | ⟨err, herr, -, hf⟩⟩⟩ := h.step_cases
  · exact .inr hexp.2
  · obtain ⟨d, hd, -, hgo⟩ := hgo
    refine .inl ⟨_, _, hgo, ⟨h.toIsUnderWay.of_step hgo, ?_, ?_⟩, rfl, rfl⟩
    · obtain ⟨x, hx, hxp, -, hxa⟩ := ht.mem_put_goesOn hd he hep
      exact ⟨x, hx, hxp, t', y, hxa.trans hea, hlate⟩
    · intro x hx hxp t u hu
      obtain ⟨z, hz, hzp, -, ha⟩ := ht.of_mem_put_goesOn hd hx hxp
      exact h.noUnit z hz hzp t u (ha ▸ hu)
  · have := h.noUnit _ ht.chosen_mem ht.pending _ _ hv
    omega
  · -- the late one is not the one that has failed in time
    have he' : e ∈ t.before ∨ e ∈ t.after := by
      rcases ht.mem_iff.1 he with rfl | he
      · rw [herr, Option.some.injEq, Prod.mk.injEq] at hea
        omega
      · exact he
    rcases fail_cases r t t.chosen.attempt.step.1 err with ⟨-, hf'⟩ | ⟨hnone, -⟩
    · rw [hf'] at hf
      refine .inl ⟨_, _, hf, ⟨h.toIsUnderWay.of_step hf, ?_, ?_⟩, rfl, rfl⟩
      · exact ⟨e, mem_put.2 (.inr he'), hep, t', y, hea, hlate⟩
      · exact fun x hx hxp => h.noUnit x (ht.of_mem_put_failed hx hxp) hxp
    · simp [hnone e he'] at hep

/-- The race is lost at its deadline. -/
theorem Stalled.run_eq {r : Race} (h : r.Stalled) :
    r.run.1 = ⟨r.deadline, .error (.timeout (r.limit * 1000))⟩ := by
  refine run_induction (P := fun r' => r'.Stalled ∧ r'.start = r.start ∧ r'.limit = r.limit)
    (Q := fun v => v = ⟨r.deadline, .error (.timeout (r.limit * 1000))⟩) ?_ ⟨h, rfl, rfl⟩
  rintro r' ⟨h', hstart, hlimit⟩
  rcases h'.step with ⟨r'', log, hs, h'', hstart', hlimit'⟩ | hs
  · exact .inl ⟨r'', log, hs, h'', hstart'.trans hstart, hlimit'.trans hlimit⟩
  · exact .inr ⟨_, _, hs, by simp [deadline, hstart, hlimit]⟩

end Race

end ChatRace
