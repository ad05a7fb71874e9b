import ChatRace.Proofs.Relay.Transmission

/-!
# Records of transmissions

What happens in the course of a transmission, in order: the client takes a frame, or something happens on the line
(`Transmission.record`).  The frames and the traffic of a run are those of its record (`frames_run`, `traffic_run`).
A beat does its acts until the client takes no more, and then the last thing that has been done is a frame
(`exists_does`).  What a run is made of is told by its record: beats, comments between them, and the end, or the
client's leave (`course`).
-/

namespace ChatRace

/-- What happens in the course of a transmission. -/
inductive Moment where
  | took (time : Nat) (text : String)
  | line (t : Traffic)

namespace Moment

def frame? : Moment → Option (Nat × String)
  | took time text => some (time, text)
  | line _ => none

def traffic? : Moment → Option Traffic
  | took _ _ => none
  | line t => some t

/-- The frames that the client takes. -/
def frames (ms : List Moment) : List (Nat × String) := ms.filterMap frame?

/-- What happens on the line. -/
def traffic (ms : List Moment) : List Traffic := ms.filterMap traffic?

@[simp] theorem frames_append (ms ns : List Moment) : frames (ms ++ ns) = frames ms ++ frames ns :=
  List.filterMap_append ..

@[simp] theorem traffic_append (ms ns : List Moment) : traffic (ms ++ ns) = traffic ms ++ traffic ns :=
  List.filterMap_append ..

@[simp] theorem frames_line (log : List Traffic) : frames (log.map .line) = [] := by
  rw [frames, List.filterMap_map, List.filterMap_eq_nil_iff]
  intro t _
  rfl

@[simp] theorem traffic_line (log : List Traffic) : traffic (log.map .line) = log := by
  rw [traffic, List.filterMap_map]
  exact List.filterMap_some

end Moment

namespace Transmission

/-! ### The record of a run -/

/-- What doing one thing comes to. -/
def moments (now : Nat) (t : Transmission) : Relay.Act → List Moment
  | .write data => [.took now (Relay.frame data)]
  | .pulled => [.line (.pulled t.line)]
  | .release => t.close.2.map .line

/-- What happens while some things are done. -/
def performed (now : Nat) (t : Transmission) : List Relay.Act → List Moment
  | [] => []
  | a :: rest => if t.isFull then [] else t.moments now a ++ performed now (t.act now a).1 rest

/-- What happens in the next step. -/
def stepRecord (t : Transmission) : List Moment :=
  if t.isFull then t.close.2.map .line
  else if t.due ≤ t.quiet + keepAliveAfter then
    let acts := t.beats.head?.elim [] (·.acts)
    t.performed t.due acts ++ ((t.perform t.due acts).1.proceed t.due).2.map .line
  else
    let u := t.put (t.quiet + keepAliveAfter) Relay.keepAlive
    .took (t.quiet + keepAliveAfter) Relay.keepAlive :: if u.isFull then u.close.2.map .line else []

def recordFor : Nat → Transmission → List Moment
  | 0, _ => []
  | steps + 1, t =>
    t.stepRecord ++ match t.step.1 with
      | .running u => recordFor steps u
      | .ended _ _ => []

/-- What happens until the transmission is over. -/
def record (t : Transmission) : List Moment := recordFor t.work t

private theorem traffic_performed (now : Nat) (t : Transmission) (acts : List Relay.Act) :
    Moment.traffic (t.performed now acts) = (t.perform now acts).2 := by
  induction acts generalizing t with
  | nil => rfl
  | cons a acts ih =>
    simp only [performed, perform]
    split
    · rfl
    · have hone : Moment.traffic (t.moments now a) = (t.act now a).2 := by
        cases a with
        | write data | pulled => rfl
        | release => exact Moment.traffic_line _
      rw [Moment.traffic_append, hone, ih]

private theorem frames_performed (now : Nat) (t : Transmission) (acts : List Relay.Act) :
    (t.perform now acts).1.frames.reverse = t.frames.reverse ++ Moment.frames (t.performed now acts) := by
  induction acts generalizing t with
  | nil => exact (List.append_nil _).symm
  | cons a acts ih =>
    simp only [performed, perform]
    split
    · exact (List.append_nil _).symm
    · have hone : (t.act now a).1.frames.reverse = t.frames.reverse ++ Moment.frames (t.moments now a) := by
        cases a with
        | write data => exact List.reverse_cons
        | pulled => exact (List.append_nil _).symm
        | release =>
          rw [moments, Moment.frames_line]
          exact (List.append_nil _).symm
      rw [Moment.frames_append, ← List.append_assoc, ← hone]
      exact ih _

private theorem traffic_step (t : Transmission) : t.step.2 = Moment.traffic t.stepRecord := by
  unfold step stepRecord
  split
  · exact (Moment.traffic_line _).symm
  · split
    · rw [Moment.traffic_append, traffic_performed, Moment.traffic_line]
    · dsimp only
      split
      · exact (Moment.traffic_line _).symm
      · rfl

/-- The transmission that goes on, or is over. -/
private def Fate.now : Fate → Transmission
  | .running t | .ended t _ => t

private theorem frames_proceed (now : Nat) (t : Transmission) : (t.proceed now).1.now.frames = t.frames := by
  unfold proceed
  split
  · rfl
  · split <;> rfl

private theorem frames_step (t : Transmission) :
    t.step.1.now.frames.reverse = t.frames.reverse ++ Moment.frames t.stepRecord := by
  unfold step stepRecord
  split
  · rw [Moment.frames_line]
    exact (List.append_nil _).symm
  · split
    · rw [Moment.frames_append, Moment.frames_line, List.append_nil, ← frames_performed]
      exact congrArg List.reverse (frames_proceed ..)
    · have hput : (t.put (t.quiet + keepAliveAfter) Relay.keepAlive).frames.reverse =
          t.frames.reverse ++ [(t.quiet + keepAliveAfter, Relay.keepAlive)] :=
        List.reverse_cons
      dsimp only
      split
      · have hclose : Moment.frames (Moment.took (t.quiet + keepAliveAfter) Relay.keepAlive ::
            (t.put (t.quiet + keepAliveAfter) Relay.keepAlive).close.2.map .line) =
            [(t.quiet + keepAliveAfter, Relay.keepAlive)] :=
          congrArg (_ :: ·) (Moment.frames_line _)
        rw [hclose]
        exact hput
      · exact hput

/-- What happens on the line in a run is what its record has of it. -/
theorem traffic_run (t : Transmission) : t.run.2 = Moment.traffic t.record := by
  have key (steps : Nat) (t : Transmission) : (t.runFor steps).2 = Moment.traffic (recordFor steps t) := by
    induction steps generalizing t with
    | zero => rfl
    | succ steps ih =>
      have hstep := t.traffic_step
      rw [recordFor, Moment.traffic_append, ← hstep, runFor]
      cases hs : t.step with
      | mk f log =>
        cases f with
        | running u => exact congrArg (log ++ ·) (ih u)
        | ended u complete => exact (List.append_nil _).symm
  exact key t.work t

/-- The frames that the client has taken in the end are those that it had and those of the record. -/
theorem frames_run (t : Transmission) :
    t.run.1.1.frames.reverse = t.frames.reverse ++ Moment.frames t.record := by
  have key (steps : Nat) (t : Transmission) :
      (t.runFor steps).1.1.frames.reverse = t.frames.reverse ++ Moment.frames (recordFor steps t) := by
    induction steps generalizing t with
    | zero => exact (List.append_nil _).symm
    | succ steps ih =>
      have hstep := t.frames_step
      rw [recordFor, Moment.frames_append, ← List.append_assoc, ← hstep, runFor]
      cases hs : t.step with
      | mk f log =>
        cases f with
        | running u => exact ih u
        | ended u complete => exact (List.append_nil _).symm
  exact key t.work t

/-! ### Beats -/

/-- What happens while some things are done one after another. -/
def unrolled (line now : Nat) : Bool → List Relay.Act → List Moment
  | _, [] => []
  | isOpen, .write data :: acts => .took now (Relay.frame data) :: unrolled line now isOpen acts
  | isOpen, .pulled :: acts => .line (.pulled line) :: unrolled line now isOpen acts
  | isOpen, .release :: acts => (if isOpen then [.line (.released line)] else []) ++ unrolled line now false acts

/-- A transmission does the things in `done`, which are the first of `acts`. -/
structure Does (now : Nat) (t : Transmission) (acts done : List Relay.Act) : Prop where
  isPrefix : done <+: acts
  performed : t.performed now acts = unrolled t.line now t.isOpen done
  line : (t.perform now acts).1.line = t.line
  isOpen : (t.perform now acts).1.isOpen = (t.isOpen && !done.contains .release)
  room : t.room = (t.perform now acts).1.room.map (· + (Moment.frames (t.performed now acts)).length)
  /-- A client who takes no more is the end of it. -/
  none : t.isFull = true → done = []
  all : (t.perform now acts).1.isFull = false → done = acts
  /-- The last thing for such a client is what it took. -/
  cut : t.isFull = false → (t.perform now acts).1.isFull = true → ∃ init data, done = init ++ [.write data]

private theorem does_nil {now : Nat} {t : Transmission} {acts : List Relay.Act}
    (h : t.isFull = true ∨ acts = []) : t.Does now acts [] := by
  have hperform : (t.perform now acts).1 = t := by
    rcases h with h | rfl
    · cases acts <;> simp [perform, h]
    · rfl
  have hperformed : t.performed now acts = [] := by
    rcases h with h | rfl
    · cases acts <;> simp [Transmission.performed, h]
    · rfl
  refine ⟨List.nil_prefix, hperformed, ?_, ?_, ?_, fun _ => rfl, ?_, ?_⟩
  · rw [hperform]
  · rw [hperform]
    simp
  · rw [hperform, hperformed]
    simp [Moment.frames]
  · intro hfull
    rw [hperform] at hfull
    rcases h with h | rfl
    · rw [h] at hfull
      cases hfull
    · rfl
  · intro hfull hfull'
    rw [hperform, hfull] at hfull'
    cases hfull'

private theorem line_act (now : Nat) (t : Transmission) (a : Relay.Act) : (t.act now a).1.line = t.line := by
  cases a <;> rfl

private theorem isOpen_act (now : Nat) (t : Transmission) (a : Relay.Act) :
    (t.act now a).1.isOpen = (t.isOpen && !decide (a = .release)) := by
  cases a <;> simp [act, put, close]

theorem room_put {t : Transmission} (h : t.isFull = false) (now : Nat) (text : String) :
    t.room = (t.put now text).room.map (· + 1) := by
  have hroom : (t.put now text).room = t.room.map (· - 1) := rfl
  rw [hroom]
  cases hn : t.room with
  | none => rfl
  | some n =>
    have hpos : n ≠ 0 := by
      rintro rfl
      simp [isFull, hn] at h
    have hsame : n - 1 + 1 = n := Nat.sub_one_add_one hpos
    simp [hsame]

private theorem room_act {t : Transmission} (h : t.isFull = false) (now : Nat) (a : Relay.Act) :
    t.room = (t.act now a).1.room.map (· + (Moment.frames (t.moments now a)).length) := by
  have hsame : t.room = t.room.map (· + 0) := by simp
  cases a with
  | write data => exact room_put h now _
  | pulled => exact hsame
  | release =>
    rw [moments, Moment.frames_line]
    exact hsame

/-- Only a frame can be the last thing that a client takes. -/
private theorem exists_write_of_isFull {now : Nat} {t : Transmission} {a : Relay.Act} (h : t.isFull = false)
    (hfull : (t.act now a).1.isFull = true) : ∃ data, a = .write data := by
  cases a with
  | write data => exact ⟨data, rfl⟩
  | pulled | release =>
    have hsame : t.isFull = true := hfull
    rw [h] at hsame
    cases hsame

private theorem Does.cons {now : Nat} {t : Transmission} {a : Relay.Act} {acts done : List Relay.Act}
    (h : t.isFull = false) (hdone : (t.act now a).1.Does now acts done) : t.Does now (a :: acts) (a :: done) := by
  have hperform : (t.perform now (a :: acts)).1 = ((t.act now a).1.perform now acts).1 := by
    simp [perform, h]
  have hperformed : t.performed now (a :: acts) = t.moments now a ++ (t.act now a).1.performed now acts := by
    simp [Transmission.performed, h]
  refine ⟨List.cons_prefix_cons.2 ⟨rfl, hdone.isPrefix⟩, ?_, ?_, ?_, ?_, ?_, ?_, ?_⟩
  · rw [hperformed, hdone.performed, line_act]
    cases a with
    | write data | pulled => rfl
    | release =>
      simp only [moments, close, unrolled, act]
      cases t.isOpen <;> rfl
  · rw [hperform, hdone.line, line_act]
  · rw [hperform, hdone.isOpen, isOpen_act, Bool.and_assoc, ← Bool.not_or, List.contains_cons]
    have hsame : decide (a = .release) = (Relay.Act.release == a) := by cases a <;> rfl
    rw [hsame]
  · have hroom := room_act h now a
    rw [hdone.room, Option.map_map] at hroom
    rw [hperform, hperformed, Moment.frames_append, List.length_append, hroom]
    congr 1
    funext n
    show n + _ + _ = _
    omega
  · intro hfull
    rw [h] at hfull
    cases hfull
  · intro hfull
    rw [hperform] at hfull
    rw [hdone.all hfull]
  · intro _ hfull
    rw [hperform] at hfull
    by_cases hnext : (t.act now a).1.isFull = true
    · obtain ⟨data, rfl⟩ := exists_write_of_isFull h hnext
      exact ⟨[], data, by rw [hdone.none hnext]; rfl⟩
    · obtain ⟨init, data, hinit⟩ := hdone.cut (by simpa using hnext) hfull
      exact ⟨a :: init, data, by rw [hinit]; rfl⟩

/-- What is done of some things, whatever the client takes. -/
theorem exists_does (now : Nat) (t : Transmission) (acts : List Relay.Act) : ∃ done, t.Does now acts done := by
  induction acts generalizing t with
  | nil => exact ⟨[], does_nil (.inr rfl)⟩
  | cons a acts ih =>
    by_cases hfull : t.isFull = true
    · exact ⟨[], does_nil (.inl hfull)⟩
    · obtain ⟨done, hdone⟩ := ih (t.act now a).1
      exact ⟨a :: done, hdone.cons (by simpa using hfull)⟩

/-! ### The course of a run -/

/-- The acts of the beat that is waited for. -/
def awaited (t : Transmission) : List Relay.Act := t.beats.head?.elim [] (·.acts)

/-- The transmission after the beat that is waited for. -/
def afterBeat (t : Transmission) : Transmission := (t.perform t.due t.awaited).1

/-- The transmission after the beat that is waited for, with another one to come. -/
def goOn (t : Transmission) (b : Relay.Beat) (bs : List Relay.Beat) : Transmission :=
  { t.afterBeat with beats := b :: bs, due := t.due + b.delay }

/-- The transmission after a comment. -/
def afterComment (t : Transmission) : Transmission := t.put (t.quiet + keepAliveAfter) Relay.keepAlive

/-- How a run goes, with its record, and whether the client is told in the end that it has everything. -/
inductive Course : Transmission → List Moment → Bool → Prop
  /-- The client leaves at once. -/
  | left {t : Transmission} (hfull : t.isFull = true) : Course t (t.close.2.map .line) false
  /-- The client leaves in the course of a beat. -/
  | cut {t : Transmission} (hfull : t.isFull = false) (hdue : t.due ≤ t.quiet + keepAliveAfter)
    (hafter : t.afterBeat.isFull = true) :
    Course t (t.performed t.due t.awaited ++ t.afterBeat.close.2.map .line) false
  /-- The last beat comes. -/
  | last {t : Transmission} (hfull : t.isFull = false) (hdue : t.due ≤ t.quiet + keepAliveAfter)
    (hafter : t.afterBeat.isFull = false) (hbeats : t.beats.tail = []) :
    Course t (t.performed t.due t.awaited ++ t.afterBeat.close.2.map .line) true
  /-- A beat comes, and the next is waited for. -/
  | beat {t : Transmission} {b : Relay.Beat} {bs : List Relay.Beat} {ms : List Moment} {complete : Bool}
    (hfull : t.isFull = false) (hdue : t.due ≤ t.quiet + keepAliveAfter) (hafter : t.afterBeat.isFull = false)
    (hbeats : t.beats.tail = b :: bs)
    (hrest : Course (t.goOn b bs) ms complete) :
    Course t (t.performed t.due t.awaited ++ ms) complete
  | comment {t : Transmission} {ms : List Moment} {complete : Bool} (hfull : t.isFull = false)
    (hdue : t.quiet + keepAliveAfter < t.due) (hrest : Course t.afterComment ms complete) :
    Course t (.took (t.quiet + keepAliveAfter) Relay.keepAlive :: ms) complete

private theorem recordFor_of_work_le {n m : Nat} {t : Transmission} (hn : t.work ≤ n) (hm : t.work ≤ m) :
    recordFor n t = recordFor m t := by
  induction n generalizing m t with
  | zero => exact absurd t.work_pos (by omega)
  | succ n ih =>
    have hpos := t.work_pos
    obtain ⟨m, rfl⟩ : ∃ k, m = k + 1 := ⟨m - 1, by omega⟩
    simp only [recordFor]
    cases hs : t.step with
    | mk f log =>
      cases f with
      | ended u complete => rfl
      | running u =>
        have hlt := step_work_lt hs
        have hrest : recordFor n u = recordFor m u := ih (by omega) (by omega)
        simp only [hrest]

private theorem record_of_running {t u : Transmission} {log : List Traffic} (h : t.step = (.running u, log)) :
    t.record = t.stepRecord ++ u.record := by
  have hlt := step_work_lt h
  obtain ⟨n, hn⟩ : ∃ n, t.work = n + 1 := ⟨t.work - 1, by omega⟩
  have hrest : recordFor n u = u.record := recordFor_of_work_le (by omega) (Nat.le_refl _)
  rw [record, hn, recordFor, h]
  exact congrArg (t.stepRecord ++ ·) hrest

private theorem record_of_ended {t u : Transmission} {complete : Bool} {log : List Traffic}
    (h : t.step = (.ended u complete, log)) : t.record = t.stepRecord := by
  rw [record, work, recordFor, h]
  exact List.append_nil _

private theorem beats_afterBeat (t : Transmission) : t.afterBeat.beats = t.beats :=
  (perform_fixed t.due t t.awaited).1

private theorem step_of_isFull {t : Transmission} (h : t.isFull = true) :
    t.step = (.ended t.close.1 false, t.close.2) ∧ t.stepRecord = t.close.2.map .line := by
  rw [step, stepRecord, if_pos h, if_pos h]
  exact ⟨rfl, rfl⟩

private theorem step_of_due {t : Transmission} (h : t.isFull = false) (hdue : t.due ≤ t.quiet + keepAliveAfter) :
    t.step = ((t.afterBeat.proceed t.due).1, (t.perform t.due t.awaited).2 ++ (t.afterBeat.proceed t.due).2) ∧
      t.stepRecord = t.performed t.due t.awaited ++ (t.afterBeat.proceed t.due).2.map .line := by
  have h : ¬t.isFull = true := by simp [h]
  rw [step, stepRecord, if_neg h, if_neg h, if_pos hdue, if_pos hdue]
  exact ⟨rfl, rfl⟩

private theorem step_of_not_due {t : Transmission} (h : t.isFull = false)
    (hdue : t.quiet + keepAliveAfter < t.due) :
    t.step = (if t.afterComment.isFull then (.ended t.afterComment.close.1 false, t.afterComment.close.2)
        else (.running t.afterComment, [])) ∧
      t.stepRecord = .took (t.quiet + keepAliveAfter) Relay.keepAlive ::
        if t.afterComment.isFull then t.afterComment.close.2.map .line else [] := by
  have h : ¬t.isFull = true := by simp [h]
  have hdue : ¬t.due ≤ t.quiet + keepAliveAfter := Nat.not_le.2 hdue
  rw [step, stepRecord, if_neg h, if_neg h, if_neg hdue, if_neg hdue]
  exact ⟨rfl, rfl⟩

private theorem proceed_afterBeat (t : Transmission) :
    t.afterBeat.proceed t.due =
      if t.afterBeat.isFull then (.ended t.afterBeat.close.1 false, t.afterBeat.close.2)
      else match t.beats.tail with
        | [] => (.ended t.afterBeat.close.1 true, t.afterBeat.close.2)
        | b :: bs => (.running (t.goOn b bs), []) := by
  rw [proceed, beats_afterBeat]
  split
  · rfl
  · rcases t.beats with _ | ⟨a, _ | ⟨b, bs⟩⟩ <;> rfl

/-- Every run has its course. -/
theorem course (t : Transmission) : Course t t.record t.run.1.2.1 := by
  induction hw : t.work using Nat.strongRecOn generalizing t with
  | ind n ih =>
    by_cases hfull : t.isFull = true
    · obtain ⟨hstep, hrecord⟩ := step_of_isFull hfull
      rw [record_of_ended hstep, run_of_ended hstep, hrecord]
      exact .left hfull
    have hfull : t.isFull = false := by simpa using hfull
    by_cases hdue : t.due ≤ t.quiet + keepAliveAfter
    · obtain ⟨hstep, hrecord⟩ := step_of_due hfull hdue
      rw [proceed_afterBeat] at hstep hrecord
      by_cases hafter : t.afterBeat.isFull = true
      · rw [if_pos hafter] at hstep hrecord
        rw [record_of_ended hstep, run_of_ended hstep, hrecord]
        exact .cut hfull hdue hafter
      · rw [if_neg hafter] at hstep hrecord
        have hafter : t.afterBeat.isFull = false := by simpa using hafter
        cases hbeats : t.beats.tail with
        | nil =>
          rw [hbeats] at hstep hrecord
          rw [record_of_ended hstep, run_of_ended hstep, hrecord]
          exact .last hfull hdue hafter hbeats
        | cons b bs =>
          rw [hbeats] at hstep hrecord
          rw [record_of_running hstep, run_of_running hstep, hrecord, List.map_nil, List.append_nil]
          exact .beat hfull hdue hafter hbeats (ih _ (hw ▸ step_work_lt hstep) _ rfl)
    · have hdue : t.quiet + keepAliveAfter < t.due := Nat.not_le.1 hdue
      obtain ⟨hstep, hrecord⟩ := step_of_not_due hfull hdue
      by_cases hafter : t.afterComment.isFull = true
      · rw [if_pos hafter] at hstep hrecord
        rw [record_of_ended hstep, run_of_ended hstep, hrecord]
        exact .comment hfull hdue (.left hafter)
      · rw [if_neg hafter] at hstep hrecord
        have hrest := ih t.afterComment.work (hw ▸ step_work_lt hstep) t.afterComment rfl
        rw [record_of_running hstep, run_of_running hstep, hrecord, List.singleton_append]
        exact .comment hfull hdue hrest

end Transmission

end ChatRace
