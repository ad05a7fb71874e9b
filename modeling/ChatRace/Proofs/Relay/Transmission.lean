import ChatRace.Relay.Transmission

/-!
# Runs of transmissions

A transmission comes to its end: every step, be it a beat or a comment, takes something off its work
(`step_work_lt`), so a run is its steps one after another (`run_of_running`, `run_of_ended`).  What a client gets is
the same on another line (`run_onLine`), and it is the same at another time (`run_moved`).
-/

namespace ChatRace.Transmission

/-! ### The work of a step -/

private theorem act_fixed (now : Nat) (t : Transmission) (a : Relay.Act) :
    (t.act now a).1.beats = t.beats ∧ (t.act now a).1.due = t.due ∧
      ((t.act now a).1.quiet = t.quiet ∨ (t.act now a).1.quiet = now) := by
  cases a with
  | write data => exact ⟨rfl, rfl, .inr rfl⟩
  | pulled => exact ⟨rfl, rfl, .inl rfl⟩
  | release => exact ⟨rfl, rfl, .inl rfl⟩

/-- A beat leaves the beats and their times alone; it writes something, or nothing. -/
theorem perform_fixed (now : Nat) (t : Transmission) (acts : List Relay.Act) :
    (t.perform now acts).1.beats = t.beats ∧ (t.perform now acts).1.due = t.due ∧
      ((t.perform now acts).1.quiet = t.quiet ∨ (t.perform now acts).1.quiet = now) := by
  induction acts generalizing t with
  | nil => exact ⟨rfl, rfl, .inl rfl⟩
  | cons a acts ih =>
    simp only [perform]
    split
    · exact ⟨rfl, rfl, .inl rfl⟩
    · obtain ⟨hb, hd, hq⟩ := act_fixed now t a
      obtain ⟨hb', hd', hq'⟩ := ih (t.act now a).1
      refine ⟨hb'.trans hb, hd'.trans hd, ?_⟩
      rcases hq' with hq' | hq'
      · rw [hq']
        exact hq
      · exact .inr hq'

private theorem proceed_running {now : Nat} {t u : Transmission} (h : (t.proceed now).1 = .running u) :
    ∃ a b rest, t.beats = a :: b :: rest ∧ u = { t with beats := b :: rest, due := now + b.delay } := by
  unfold proceed at h
  split at h
  · simp at h
  · split at h
    · rename_i a b rest hbeats
      refine ⟨a, b, rest, hbeats, ?_⟩
      simpa using h.symm
    · simp at h

theorem work_pos (t : Transmission) : 0 < t.work := Nat.succ_pos _

/-- A step takes something off the work of a transmission that goes on. -/
theorem step_work_lt {t u : Transmission} {log : List Traffic} (h : t.step = (.running u, log)) :
    u.work < t.work := by
  unfold step at h
  split at h
  · simp at h
  · split at h
    · -- a beat: its successor is waited for since `t.due`, and nothing has been written since then or before it
      rename_i hdue
      obtain ⟨hbeats, -, hquiet⟩ := perform_fixed t.due t (t.beats.head?.elim [] (·.acts))
      obtain ⟨a, b, rest, hb, rfl⟩ := proceed_running (congrArg Prod.fst h)
      have htail : t.beats.tail = b :: rest := by rw [← hbeats, hb, List.tail_cons]
      have hwait : t.due + b.delay - (t.perform t.due (t.beats.head?.elim [] (·.acts))).1.quiet ≤
          b.delay + keepAliveAfter := by
        rcases hquiet with hq | hq <;> rw [hq] <;> omega
      have hcomments := Nat.div_le_div_right (c := keepAliveAfter) hwait
      rw [Nat.add_div_right _ (by decide : 0 < keepAliveAfter)] at hcomments
      simp only [work, htail, beatWork, List.tail_cons, List.map_cons, List.sum_cons]
      generalize (t.due - t.quiet) / keepAliveAfter = past
      omega
    · -- a comment: one of those that are still to come while the beat is waited for
      rename_i hdue
      simp only at h
      split at h
      · simp at h
      · obtain rfl : t.put (t.quiet + keepAliveAfter) Relay.keepAlive = u := by
          rw [Prod.mk.injEq, Fate.running.injEq] at h
          exact h.1
        have hone : (t.due - t.quiet) / keepAliveAfter =
            (t.due - (t.quiet + keepAliveAfter)) / keepAliveAfter + 1 := by
          rw [← Nat.add_div_right _ (by decide : 0 < keepAliveAfter)]
          congr 1
          omega
        simp only [work, put]
        omega

/-! ### Runs -/

private theorem runFor_of_work_le {n m : Nat} {t : Transmission} (hn : t.work ≤ n) (hm : t.work ≤ m) :
    t.runFor n = t.runFor m := by
  induction n generalizing m t with
  | zero => exact absurd t.work_pos (by omega)
  | succ n ih =>
    have hpos := t.work_pos
    obtain ⟨m, rfl⟩ : ∃ k, m = k + 1 := ⟨m - 1, by omega⟩
    simp only [runFor]
    cases hs : t.step with
    | mk f log =>
      cases f with
      | ended u complete => rfl
      | running u =>
        have hlt := step_work_lt hs
        have hrest : u.runFor n = u.runFor m := ih (by omega) (by omega)
        simp only [hrest]

/-- A run goes on with the next step. -/
theorem run_of_running {t u : Transmission} {log : List Traffic} (h : t.step = (.running u, log)) :
    t.run.1 = u.run.1 := by
  have hlt := step_work_lt h
  obtain ⟨n, hn⟩ : ∃ n, t.work = n + 1 := ⟨t.work - 1, by omega⟩
  have hrest : u.runFor n = u.run := runFor_of_work_le (by omega) (Nat.le_refl _)
  rw [run, hn]
  simp only [runFor, h]
  exact congrArg Prod.fst hrest

/-- A run ends with the last step. -/
theorem run_of_ended {t u : Transmission} {complete : Bool} {log : List Traffic}
    (h : t.step = (.ended u complete, log)) : t.run.1 = (u, complete, if t.isFull then t.quiet else t.next) := by
  rw [run, work, runFor, h]

/-! ### Clients who take all frames -/

theorem isFull_eq_false {t : Transmission} (h : t.room = none) : t.isFull = false := by
  rw [isFull, h]
  rfl

theorem room_act_eq_none {t : Transmission} (h : t.room = none) (now : Nat) (a : Relay.Act) :
    (t.act now a).1.room = none := by
  cases a with
  | write data => exact congrArg (Option.map (· - 1)) h
  | pulled | release => exact h

theorem room_perform_eq_none {t : Transmission} (h : t.room = none) (now : Nat) (acts : List Relay.Act) :
    (t.perform now acts).1.room = none := by
  induction acts generalizing t with
  | nil => exact h
  | cons a acts ih =>
    simp only [perform, isFull_eq_false h, Bool.false_eq_true, if_false]
    exact ih (room_act_eq_none h now a)

/-! ### The beats of an answer -/

private theorem beatWork_itemBeats (s : Chat.Stamp) (items : List Item) :
    beatWork (Relay.itemBeats s items) ≤ itemWork items + 2 := by
  induction items with
  | nil => simp [Relay.itemBeats, beatWork, itemWork]
  | cons i items ih =>
    simp only [beatWork, itemWork] at ih
    cases ho : i.outcome with
    | value c =>
      cases hd : c.done with
      | true =>
        simp only [Relay.itemBeats, ho, hd, if_true, beatWork, itemWork, List.map_cons, List.map_nil,
          List.sum_cons, List.sum_nil]
        omega
      | false =>
        simp only [Relay.itemBeats, ho, hd, Bool.false_eq_true, if_false, beatWork, itemWork, List.map_cons,
          List.sum_cons]
        omega
    | failure e =>
      simp only [Relay.itemBeats, ho, beatWork, itemWork, List.map_cons, List.map_nil, List.sum_cons,
        List.sum_nil]
      omega
    | crash =>
      simp only [Relay.itemBeats, ho, beatWork, itemWork, List.map_cons, List.map_nil, List.sum_cons,
        List.sum_nil]
      omega

theorem start_eq (line now : Nat) (room : Option Nat) (bs : List Relay.Beat) :
    (start line now room bs).line = line ∧ (start line now room bs).room = room ∧
      (start line now room bs).isOpen = true ∧ (start line now room bs).frames = [] ∧
      (start line now room bs).beats = bs ∧ (start line now room bs).quiet = now := by
  cases bs <;> exact ⟨rfl, rfl, rfl, rfl, rfl, rfl⟩

/-- The work of a transmission that begins is that of the items and of its ends. -/
theorem work_start_le (line now : Nat) (room : Option Nat) (s : Chat.Stamp) (first : Chat.Chunk)
    (rest : List Item) : (start line now room (Relay.beats s first rest)).work ≤ itemWork rest + 3 := by
  have hrest := beatWork_itemBeats s rest
  unfold Relay.beats
  split <;> simp only [start, work, List.tail_cons, Nat.add_zero, Nat.sub_self, Nat.zero_div, beatWork,
    List.map_nil, List.sum_nil] at hrest ⊢ <;> omega

/-! ### Another line, another time -/

/-- The transmission with its items coming on another line, and `delay` later. -/
def moved (line delay : Nat) (t : Transmission) : Transmission :=
  { t with
    line
    due := t.due + delay
    quiet := t.quiet + delay
    frames := t.frames.map fun f => (f.1 + delay, f.2) }

/-- The same fate on another line, and later. -/
def Fate.moved (line delay : Nat) : Fate → Fate
  | .running t => .running (t.moved line delay)
  | .ended t complete => .ended (t.moved line delay) complete

private theorem act_moved (line delay now : Nat) (t : Transmission) (a : Relay.Act) :
    ((t.moved line delay).act (now + delay) a).1 = (t.act now a).1.moved line delay := by
  cases a <;> rfl

private theorem perform_moved (line delay now : Nat) (t : Transmission) (acts : List Relay.Act) :
    ((t.moved line delay).perform (now + delay) acts).1 = (t.perform now acts).1.moved line delay := by
  induction acts generalizing t with
  | nil => rfl
  | cons a acts ih =>
    have hfull : (t.moved line delay).isFull = t.isFull := rfl
    simp only [perform, hfull]
    split
    · rfl
    · simp only [act_moved, ih]

private theorem proceed_moved (line delay now : Nat) (t : Transmission) :
    ((t.moved line delay).proceed (now + delay)).1 = (t.proceed now).1.moved line delay := by
  have hfull : (t.moved line delay).isFull = t.isFull := rfl
  have hbeats : (t.moved line delay).beats = t.beats := rfl
  simp only [proceed, hfull, hbeats]
  split
  · rfl
  · split
    · rename_i a b rest _
      simp only [Fate.moved, moved]
      rw [Nat.add_right_comm]
    · rfl

private theorem step_moved (line delay : Nat) (t : Transmission) :
    (t.moved line delay).step.1 = t.step.1.moved line delay := by
  have hfull (u : Transmission) : (u.moved line delay).isFull = u.isFull := rfl
  have hdue : (t.moved line delay).due = t.due + delay := rfl
  have hquiet : (t.moved line delay).quiet + keepAliveAfter = t.quiet + keepAliveAfter + delay :=
    Nat.add_right_comm ..
  have hbeats : (t.moved line delay).beats = t.beats := rfl
  simp only [step, hfull, hdue, hquiet, hbeats, perform_moved, proceed_moved, Nat.add_le_add_iff_right]
  split
  · rfl
  · split
    · rfl
    · have hput : (t.moved line delay).put (t.quiet + keepAliveAfter + delay) Relay.keepAlive =
          (t.put (t.quiet + keepAliveAfter) Relay.keepAlive).moved line delay := rfl
      rw [hput, hfull]
      split <;> rfl

/-- What a client gets does not depend on the line or the time, and it gets everything as much later. -/
theorem run_moved (line delay : Nat) (t : Transmission) :
    (t.moved line delay).run.1 = (t.run.1.1.moved line delay, t.run.1.2.1, t.run.1.2.2 + delay) := by
  induction hw : t.work using Nat.strongRecOn generalizing t with
  | ind n ih =>
    have hstep := step_moved line delay t
    cases hs : t.step with
    | mk f log =>
      rw [hs] at hstep
      cases f with
      | running u =>
        rw [run_of_running hs, run_of_running (Prod.ext hstep rfl)]
        exact ih u.work (hw ▸ step_work_lt hs) u rfl
      | ended u complete =>
        have hfull : (t.moved line delay).isFull = t.isFull := rfl
        have hquiet : (t.moved line delay).quiet = t.quiet + delay := rfl
        have hnext : (t.moved line delay).next = t.next + delay := by
          simp only [next, moved]
          omega
        rw [run_of_ended hs, run_of_ended (Prod.ext hstep rfl), hfull, hquiet, hnext]
        split <;> rfl

/-- The transmission with its items coming on another line. -/
def onLine (line : Nat) (t : Transmission) : Transmission := { t with line }

/-- What a client gets, and when, does not depend on the line. -/
theorem run_onLine (line : Nat) (t : Transmission) :
    (t.onLine line).run.1 = (t.run.1.1.onLine line, t.run.1.2) := by
  have hmoved (u : Transmission) : u.moved line 0 = u.onLine line := by
    simp only [moved, onLine, Nat.add_zero, List.map_id']
  rw [← hmoved, run_moved, hmoved]
  rfl

end ChatRace.Transmission
