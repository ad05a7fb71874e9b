import ChatRace.Attempt.Basic

/-!
# Attempts on their own

What one step of an attempt can do (`step_cases`), and what an attempt comes to that nobody stops: it always
has a result (`alone_of_due`), not before its next step is due (`due_le_alone`), and a step does not change
what it comes to (`alone_step`).  The number of steps that `alone` allows is always enough, so the result does
not depend on it (`resultWithin_of_work_le`).
-/

namespace ChatRace.Attempt

open Chat

/-! ### One step -/

theorem result?_eq_some {a : Attempt} {x : Except BackendError FirstUnit} :
    a.result? = some x ↔ a.phase = .holding x := by
  unfold result?
  split <;> simp_all

/-- What the next step brings on the line before it does anything: the item that has been pulled. -/
def arrival (a : Attempt) : List Traffic :=
  match a.phase with
  | .pulling _ _ _ => [.pulled a.backend.line]
  | _ => []

private theorem pull_cases (now : Nat) (a : Attempt) (items : List Item) :
    (∃ i rest, a.pull now items = ({ a with phase := .pulling i rest (now + i.delay) }, [])) ∨
    (∃ e, a.pull now items = ({ a with phase := .holding (.error e) }, [.released a.backend.line])) := by
  cases items with
  | nil => exact .inr ⟨a.closedEarly, rfl⟩
  | cons i rest => exact .inl ⟨i, rest, rfl⟩

/-- A step pulls the next item, or has the beginning of a stream as its result, or another result, with which
the connection ends. -/
theorem step_cases {a : Attempt} {d : Nat} (h : a.due? = some d) :
    (∃ i rest, a.step = ({ a with phase := .pulling i rest (d + i.delay) }, a.arrival)) ∨
    (∃ c rest, a.step = ({ a with phase := .holding (.ok (.streamed c rest)) }, a.arrival)) ∨
    (∃ r, (∀ c rest, r ≠ .ok (.streamed c rest)) ∧
      a.step = ({ a with phase := .holding r }, a.arrival ++ [.released a.backend.line])) := by
  cases hp : a.phase with
  | queued | holding _ | spent => simp [due?, hp] at h
  | calling due =>
    obtain rfl : due = d := by simpa [due?, hp] using h
    have hl : a.arrival = [] := by simp [arrival, hp]
    simp only [step, hp, answered, hl, List.nil_append]
    split
    · split
      · rename_i items _
        rcases pull_cases due a items with ⟨i, rest, e⟩ | ⟨e, he⟩
        · exact .inl ⟨i, rest, e⟩
        · exact .inr (.inr ⟨_, by simp, he⟩)
      · exact .inr (.inr ⟨_, by simp, rfl⟩)
      · exact .inr (.inr ⟨_, by simp, rfl⟩)
    · split
      · exact .inr (.inr ⟨_, by simp, rfl⟩)
      · exact .inr (.inr ⟨_, by simp, rfl⟩)
      · exact .inr (.inr ⟨_, by simp, rfl⟩)
  | pulling item rest due =>
    obtain rfl : due = d := by simpa [due?, hp] using h
    have hl : a.arrival = [.pulled a.backend.line] := by simp [arrival, hp]
    simp only [step, hp, arrived, hl]
    cases item.outcome with
    | value c =>
      by_cases hc : c.isUsable = true
      · exact .inr (.inl ⟨c, rest, by simp [hc]⟩)
      · rcases pull_cases due a rest with ⟨i, more, e⟩ | ⟨e, he⟩
        · exact .inl ⟨i, more, by simp [hc, e]⟩
        · exact .inr (.inr ⟨.error e, by simp, by simp [hc, he]⟩)
    | failure e => exact .inr (.inr ⟨.error e, by simp, by simp [settle]⟩)
    | crash => exact .inr (.inr ⟨.error a.lost, by simp, by simp [settle]⟩)

/-- After a step the next one is not due earlier, or there is a result. -/
theorem due?_or_result?_step {a : Attempt} {d : Nat} (h : a.due? = some d) :
    (∃ d', a.step.1.due? = some d' ∧ a.step.1.result? = none ∧ d ≤ d') ∨
      ∃ r, a.step.1.due? = none ∧ a.step.1.result? = some r := by
  rcases step_cases h with ⟨i, rest, e⟩ | ⟨c, rest, e⟩ | ⟨r, _, e⟩
  · exact .inl ⟨d + i.delay, by simp [e, due?], by simp [e, result?], by omega⟩
  · exact .inr ⟨.ok (.streamed c rest), by simp [e, due?], by simp [e, result?]⟩
  · exact .inr ⟨r, by simp [e, due?], by simp [e, result?]⟩

theorem step_backend (a : Attempt) : a.step.1.backend = a.backend := by
  cases h : a.due? with
  | none =>
    cases hp : a.phase <;> simp [due?, hp] at h <;> simp [step, hp]
  | some d =>
    rcases step_cases h with ⟨i, rest, e⟩ | ⟨c, rest, e⟩ | ⟨r, _, e⟩ <;> simp [e]

theorem step_request (a : Attempt) : a.step.1.request = a.request := by
  cases h : a.due? with
  | none =>
    cases hp : a.phase <;> simp [due?, hp] at h <;> simp [step, hp]
  | some d =>
    rcases step_cases h with ⟨i, rest, e⟩ | ⟨c, rest, e⟩ | ⟨r, _, e⟩ <;> simp [e]

/-! ### Enough steps -/

private theorem settle_work (a : Attempt) (r : Except BackendError FirstUnit) : (a.settle r).1.work = 0 := rfl

private theorem pull_work_lt (now : Nat) (a : Attempt) (items : List Item) :
    (a.pull now items).1.work < streamWork items := by
  cases items with
  | nil => simp [pull, settle_work, streamWork]
  | cons i rest => simp [pull, work, streamWork]

theorem step_work_lt {a : Attempt} {d : Nat} (h : a.due? = some d) : a.step.1.work < a.work := by
  cases hp : a.phase with
  | queued | holding _ | spent => simp [due?, hp] at h
  | calling due =>
    have h0 : 0 < a.work := by simp only [work, hp]; omega
    simp only [step, hp, answered]
    split
    · split
      · rename_i items ho
        have := pull_work_lt due a items
        simp only [work, hp, ho] at this ⊢
        omega
      · rwa [settle_work]
      · rwa [settle_work]
    · split <;> rwa [settle_work]
  | pulling item rest due =>
    have hr := pull_work_lt due a rest
    have hw : a.work = streamWork rest := by simp [work, hp]
    have h0 : 0 < streamWork rest := by simp [streamWork]
    simp only [step, hp, arrived, hw]
    cases item.outcome with
    | value c =>
      by_cases hc : c.isUsable = true
      · simpa [hc, work] using h0
      · simpa [hc] using hr
    | failure e => simpa [settle_work] using h0
    | crash => simpa [settle_work] using h0

theorem work_pos {a : Attempt} {d : Nat} (h : a.due? = some d) : 0 < a.work :=
  Nat.zero_lt_of_lt (step_work_lt h)

private theorem ahead_pull (now : Nat) (a : Attempt) (items : List Item) :
    (a.pull now items).1.ahead <:+ items := by
  cases items with
  | nil => exact List.suffix_refl []
  | cons i rest => exact List.suffix_cons i rest

/-- The items that may still be pulled are the last of those before. -/
theorem ahead_step {a : Attempt} {d : Nat} (h : a.due? = some d) : a.step.1.ahead <:+ a.ahead := by
  have hnil : ∀ r : Except BackendError FirstUnit, (∀ c rest, r ≠ .ok (.streamed c rest)) →
      (a.settle r).1.ahead <:+ a.ahead := by
    intro r hr
    have : (a.settle r).1.ahead = [] := by
      cases r with
      | error e => rfl
      | ok u =>
        cases u with
        | buffered reply => rfl
        | streamed c rest => exact absurd rfl (hr c rest)
    rw [this]
    exact List.nil_suffix
  cases hp : a.phase with
  | queued | holding _ | spent => simp [due?, hp] at h
  | calling due =>
    simp only [step, hp, answered]
    split
    · split
      · rename_i items ho
        have ha : a.ahead = items := by simp [ahead, hp, ho]
        exact ha ▸ ahead_pull due a items
      · exact hnil _ (by simp)
      · exact hnil _ (by simp)
    · split <;> exact hnil _ (by simp)
  | pulling item rest due =>
    have ha : a.ahead = rest := by simp [ahead, hp]
    simp only [step, hp, arrived]
    cases item.outcome with
    | value c =>
      by_cases hc : c.isUsable = true
      · simp [hc, ahead, hp]
      · simpa [hc, ha] using ahead_pull due a rest
    | failure e => exact hnil _ (by simp)
    | crash => exact hnil _ (by simp)

private theorem resultWithin_of_not_due {a : Attempt} (h : a.due? = none) (n now : Nat) :
    a.resultWithin n now = a.result?.map fun r => (now, r) := by
  cases n <;> simp [resultWithin, h]

/-- The number of steps that are allowed does not matter if there are enough. -/
theorem resultWithin_of_work_le {n m now : Nat} {a : Attempt} (hn : a.work ≤ n) (hm : a.work ≤ m) :
    a.resultWithin n now = a.resultWithin m now := by
  induction n generalizing m now a with
  | zero =>
    have h : a.due? = none := by
      cases h : a.due? with
      | none => rfl
      | some d => have := work_pos h; omega
    rw [resultWithin_of_not_due h, resultWithin_of_not_due h]
  | succ n ih =>
    cases h : a.due? with
    | none => rw [resultWithin_of_not_due h, resultWithin_of_not_due h]
    | some d =>
      have hlt := step_work_lt h
      obtain ⟨m, rfl⟩ : ∃ k, m = k + 1 := ⟨m - 1, by omega⟩
      simp only [resultWithin, h]
      exact ih (by omega) (by omega)

/-! ### What an attempt comes to -/

/-- A step does not change what an attempt comes to. -/
theorem alone_step {a : Attempt} {d : Nat} (h : a.due? = some d) (now : Nat) :
    a.alone now = a.step.1.alone d := by
  have hlt := step_work_lt h
  obtain ⟨n, hn⟩ : ∃ n, a.work = n + 1 := ⟨a.work - 1, by omega⟩
  rw [alone, hn, resultWithin, h]
  exact resultWithin_of_work_le (by omega) (Nat.le_refl _)

/-- An attempt under way comes to the same whenever one begins to look. -/
theorem alone_congr {a : Attempt} {d : Nat} (h : a.due? = some d) (now now' : Nat) :
    a.alone now = a.alone now' := by
  rw [alone_step h now, alone_step h now']

/-- As long as an attempt is under way, its steps change nothing. -/
theorem alone_step_of_due {a : Attempt} {d d' : Nat} (h : a.due? = some d) (h' : a.step.1.due? = some d')
    (now : Nat) : a.step.1.alone now = a.alone now := by
  rw [alone_step h, alone_congr h' now d]

theorem alone_of_result {a : Attempt} {r : Except BackendError FirstUnit} (hd : a.due? = none)
    (h : a.result? = some r) (now : Nat) : a.alone now = some (now, r) := by
  rw [alone, resultWithin_of_not_due hd, h]
  rfl

/-- An attempt under way has a result at some time, not before its next step. -/
theorem alone_of_due {a : Attempt} {d : Nat} (h : a.due? = some d) (now : Nat) :
    ∃ t r, a.alone now = some (t, r) ∧ d ≤ t := by
  induction hw : a.work using Nat.strongRecOn generalizing a d now with
  | ind n ih =>
    rw [alone_step h now]
    rcases due?_or_result?_step h with ⟨d', hd', _, hle⟩ | ⟨r, hd', hr⟩
    · obtain ⟨t, r, e, ht⟩ := ih _ (hw ▸ step_work_lt h) hd' d rfl
      exact ⟨t, r, e, by omega⟩
    · exact ⟨d, r, alone_of_result hd' hr d, Nat.le_refl d⟩

/-- Attempts with backends of the same name that take the same course. -/
structure IsLike (a b : Attempt) : Prop where
  name : a.backend.name = b.backend.name
  stream : a.request.stream = b.request.stream
  buffered : a.backend.buffered a.request = b.backend.buffered b.request
  streamed : a.backend.streamed a.request = b.backend.streamed b.request
  phase : a.phase = b.phase

private theorem IsLike.lost_eq {a b : Attempt} (h : a.IsLike b) : a.lost = b.lost := by
  simp only [lost, h.name]

private theorem IsLike.phase_pull {a b : Attempt} (h : a.IsLike b) (now : Nat) (items : List Item) :
    (a.pull now items).1.phase = (b.pull now items).1.phase := by
  cases items with
  | nil => simp only [pull, settle, closedEarly, h.name]
  | cons i rest => rfl

private theorem IsLike.step {a b : Attempt} (h : a.IsLike b) : a.step.1.IsLike b.step.1 := by
  have hphase : a.step.1.phase = b.step.1.phase := by
    cases hp : b.phase with
    | queued | holding _ | spent => simp only [Attempt.step, h.phase, hp]
    | calling due =>
      simp only [Attempt.step, h.phase, hp, answered, h.stream, h.streamed, h.buffered]
      split
      · split
        · exact h.phase_pull due _
        · rfl
        · simp only [settle, h.lost_eq]
      · split
        · rfl
        · rfl
        · simp only [settle, h.lost_eq]
    | pulling item rest due =>
      simp only [Attempt.step, h.phase, hp, arrived]
      cases item.outcome with
      | value c =>
        by_cases hc : c.isUsable = true
        · simp only [hc, if_true]
        · simp only [hc]
          exact h.phase_pull due rest
      | failure e => rfl
      | crash => simp only [settle, h.lost_eq]
  refine ⟨?_, ?_, ?_, ?_, hphase⟩
  · rw [step_backend, step_backend, h.name]
  · rw [step_request, step_request, h.stream]
  · rw [step_backend, step_backend, step_request, step_request, h.buffered]
  · rw [step_backend, step_backend, step_request, step_request, h.streamed]

/-- Attempts that take the same course come to the same. -/
theorem IsLike.alone_eq {a b : Attempt} (h : a.IsLike b) (now : Nat) : a.alone now = b.alone now := by
  induction hw : a.work using Nat.strongRecOn generalizing a b now with
  | ind n ih =>
    have hdue : a.due? = b.due? := by simp only [due?, h.phase]
    have hresult : a.result? = b.result? := by simp only [result?, h.phase]
    cases hd : b.due? with
    | none =>
      rw [Attempt.alone, Attempt.alone, resultWithin_of_not_due (hdue.trans hd), resultWithin_of_not_due hd,
        hresult]
    | some d =>
      rw [alone_step (hdue.trans hd), alone_step hd]
      exact ih _ (hw ▸ step_work_lt (hdue.trans hd)) h.step d rfl

theorem due_le_alone {a : Attempt} {d now t : Nat} {r : Except BackendError FirstUnit}
    (h : a.due? = some d) (ha : a.alone now = some (t, r)) : d ≤ t := by
  obtain ⟨t', r', e, hle⟩ := alone_of_due h now
  rw [ha, Option.some.injEq, Prod.mk.injEq] at e
  omega

end ChatRace.Attempt
