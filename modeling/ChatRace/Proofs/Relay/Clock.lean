import ChatRace.Proofs.Relay.Receipts
import Mathlib.Algebra.Order.Floor.Div

/-!
# The clock of a transmission

When a client who takes all frames gets each of them.  An event comes at the time of its beat, which is told by the
delays of the beats up to it (`Relay.timed`), and a comment comes whenever ten seconds have passed since the last
frame and no event has come (`comments`).  The frames of a run are the events with the comments put between them
(`frames_run_start`).
-/

namespace ChatRace

namespace Relay

/-- The data that is written by an act. -/
def Act.data? : Act → Option String
  | .write data => some data
  | .pulled | .release => none

/-- The events of some acts that are done at `now`. -/
def eventsAt (now : Nat) (acts : List Act) : List (Nat × String) :=
  (acts.filterMap Act.data?).map fun data => (now, frame data)

/-- The events of some beats with their times; the beat before them has come at `now`. -/
def timed (now : Nat) : List Beat → List (Nat × String)
  | [] => []
  | b :: bs => eventsAt (now + b.delay) b.acts ++ timed (now + b.delay) bs

private theorem time_eventsAt {now : Nat} {acts : List Act} {e : Nat × String} (h : e ∈ eventsAt now acts) :
    e.1 = now := by
  obtain ⟨data, -, rfl⟩ := List.mem_map.1 h
  rfl

theorem le_of_mem_timed {now : Nat} {bs : List Beat} {e : Nat × String} (h : e ∈ timed now bs) : now ≤ e.1 := by
  induction bs generalizing now with
  | nil => cases h
  | cons b bs ih =>
    rcases List.mem_append.1 h with h | h
    · have htime := time_eventsAt h
      omega
    · have hle := ih h
      omega

/-- There is an event to come if the last thing to be done is to write one. -/
theorem timed_ne_nil (now : Nat) {bs : List Beat} {init : List Act} {data : String}
    (h : bs.getLast?.elim [] (·.acts) = init ++ [.write data]) : timed now bs ≠ [] := by
  induction bs generalizing now with
  | nil => simp at h
  | cons b bs ih =>
    by_cases hbs : bs = []
    · subst hbs
      have hacts : b.acts = init ++ [.write data] := h
      simp [timed, eventsAt, hacts, Act.data?]
    · rw [List.getLast?_cons_of_ne_nil hbs] at h
      exact List.append_ne_nil_of_right_ne_nil _ (ih _ h)

end Relay

namespace Transmission

/-! ### Comments -/

/-- The comments between a frame at `t` and an event at `u`. -/
def comments (t u : Nat) : List (Nat × String) :=
  (List.range ((u - t) ⌈/⌉ keepAliveAfter - 1)).map fun i => (t + (i + 1) * keepAliveAfter, Relay.keepAlive)

/-- Some events with the comments in front of each of them; the frame before them has come at `since`. -/
def commented (since : Nat) : List (Nat × String) → List (Nat × String)
  | [] => []
  | e :: es => comments since e.1 ++ e :: commented e.1 es

private theorem lt_ceilDiv_iff (t u i : Nat) :
    i < (u - t) ⌈/⌉ keepAliveAfter - 1 ↔ t + (i + 1) * keepAliveAfter < u := by
  rw [Nat.ceilDiv_eq_add_pred_div, keepAliveAfter]
  omega

/-- There is a comment at each multiple of the interval before the event, and none at the instant of the event. -/
theorem mem_comments {t u : Nat} {f : Nat × String} :
    f ∈ comments t u ↔ ∃ i, t + (i + 1) * keepAliveAfter < u ∧ (t + (i + 1) * keepAliveAfter, Relay.keepAlive) = f := by
  simp only [comments, List.mem_map, List.mem_range, lt_ceilDiv_iff]

theorem comments_of_le {t u : Nat} (h : u ≤ t + keepAliveAfter) : comments t u = [] := by
  rw [List.eq_nil_iff_forall_not_mem]
  intro f hf
  obtain ⟨i, hlt, -⟩ := mem_comments.1 hf
  rw [Nat.add_one_mul] at hlt
  omega

theorem comments_of_lt {t u : Nat} (h : t + keepAliveAfter < u) :
    comments t u = (t + keepAliveAfter, Relay.keepAlive) :: comments (t + keepAliveAfter) u := by
  have hone : (u - t) ⌈/⌉ keepAliveAfter - 1 = (u - (t + keepAliveAfter)) ⌈/⌉ keepAliveAfter - 1 + 1 := by
    rw [Nat.ceilDiv_eq_add_pred_div, Nat.ceilDiv_eq_add_pred_div]
    rw [keepAliveAfter] at h ⊢
    omega
  have hshift (i : Nat) : t + (i + 1 + 1) * keepAliveAfter = t + keepAliveAfter + (i + 1) * keepAliveAfter := by
    rw [Nat.add_one_mul (i + 1)]
    omega
  rw [comments, comments, hone, List.range_succ_eq_map, List.map_cons, List.map_map, Nat.zero_add, Nat.one_mul]
  simp only [Function.comp_def, Nat.succ_eq_add_one, hshift]

private theorem commented_of_lt {since : Nat} {es : List (Nat × String)} (hne : es ≠ [])
    (h : ∀ e ∈ es, since + keepAliveAfter < e.1) : commented since es =
      (since + keepAliveAfter, Relay.keepAlive) :: commented (since + keepAliveAfter) es := by
  cases es with
  | nil => exact absurd rfl hne
  | cons e es =>
    have hlt := h e List.mem_cons_self
    rw [commented, commented, comments_of_lt hlt, List.cons_append]

theorem le_of_mem_commented {m since : Nat} {es : List (Nat × String)} (hsince : m ≤ since)
    (hes : ∀ e ∈ es, m ≤ e.1) : ∀ f ∈ commented since es, m ≤ f.1 := by
  induction es generalizing since with
  | nil => simp [commented]
  | cons e es ih =>
    obtain ⟨he, hrest⟩ := List.forall_mem_cons.1 hes
    intro f hf
    rcases List.mem_append.1 hf with hf | hf
    · obtain ⟨i, -, rfl⟩ := mem_comments.1 hf
      exact Nat.le_trans hsince (Nat.le_add_right ..)
    · have htail : ∀ f ∈ e :: commented e.1 es, m ≤ f.1 := List.forall_mem_cons.2 ⟨he, ih he hrest⟩
      exact htail f hf

/-! ### Runs -/

variable {t : Transmission} {ms : List Moment} {complete : Bool}

/-- The events that are still to come, with their times. -/
def upcoming (t : Transmission) : List (Nat × String) := Relay.timed t.due (⟨0, t.awaited⟩ :: t.beats.tail)

/-- A beat that comes in time writes its events, and the next comment is waited for since the last of them. -/
private theorem commented_perform {now : Nat} (hroom : t.room = none) (hnow : now ≤ t.quiet + keepAliveAfter)
    (acts : List Relay.Act) (es : List (Nat × String)) :
    commented t.quiet (Relay.eventsAt now acts ++ es) =
      Moment.frames (t.performed now acts) ++ commented (t.perform now acts).1.quiet es := by
  induction acts generalizing t with
  | nil => rfl
  | cons a acts ih =>
    have hact := room_act_eq_none hroom now a
    simp only [perform, performed, isFull_eq_false hroom, Bool.false_eq_true, if_false]
    cases a with
    | write data =>
      have hrest := ih hact (Nat.le_add_right ..)
      have hnone := comments_of_le hnow
      have hevents : Relay.eventsAt now (.write data :: acts) ++ es =
          (now, Relay.frame data) :: (Relay.eventsAt now acts ++ es) := rfl
      rw [hevents, commented, hnone, List.nil_append]
      exact congrArg (_ :: ·) hrest
    | pulled => exact ih hact hnow
    | release =>
      have hrest := ih hact hnow
      rw [Moment.frames_append, moments, Moment.frames_line]
      exact hrest

/-- A client who takes all frames gets the events at their times, and comments in between. -/
theorem Course.frames_eq (h : Course t ms complete) (hroom : t.room = none)
    (hfinal : ∃ init data, t.final = init ++ [.write data]) : Moment.frames ms = commented t.quiet t.upcoming := by
  induction h with
  | left h => simp [isFull_eq_false hroom] at h
  | cut _ _ h => simp [isFull_eq_false (room_perform_eq_none hroom _ _), afterBeat] at h
  | @last t _ hdue hafter hbeats =>
    have hframes := commented_perform hroom hdue t.awaited []
    rw [Moment.frames_append, Moment.frames_line, upcoming, hbeats]
    exact hframes.symm
  | @beat t b bs ms complete _ hdue hafter hbeats hrest ih =>
    have hframes := commented_perform hroom hdue t.awaited (Relay.timed t.due t.beats.tail)
    have hupcoming : (t.goOn b bs).upcoming = Relay.timed t.due t.beats.tail := by
      rw [hbeats]
      rfl
    rw [Moment.frames_append, ih (room_perform_eq_none hroom _ _) ((final_goOn hbeats).symm ▸ hfinal), hupcoming]
    exact hframes.symm
  | @comment t ms complete _ hdue hrest ih =>
    have hroom' : t.afterComment.room = none := congrArg (Option.map (· - 1)) hroom
    -- an event is still to come, as one is the last thing to be done, and it does not come before the beat
    have hne : t.upcoming ≠ [] := by
      obtain ⟨init, data, hinit⟩ := hfinal
      have hsame : (⟨0, t.awaited⟩ :: t.beats.tail : List Relay.Beat).getLast?.elim [] (·.acts) = t.final := by
        rw [final, awaited]
        rcases t.beats with _ | ⟨b, _ | ⟨b', bs⟩⟩ <;> rfl
      exact Relay.timed_ne_nil t.due (hsame.trans hinit)
    have hlater : ∀ e ∈ t.upcoming, t.quiet + keepAliveAfter < e.1 := by
      intro e he
      have hle := Relay.le_of_mem_timed he
      omega
    rw [commented_of_lt hne hlater]
    exact congrArg (_ :: ·) (ih hroom' hfinal)

/-- The frames of a transmission that begins at `now`, if its last beat ends in an event. -/
theorem frames_run_start (line now : Nat) {bs : List Relay.Beat} {init : List Relay.Act} {data : String}
    (hlast : bs.getLast?.elim [] (·.acts) = init ++ [.write data]) :
    (start line now none bs).run.1.2.1 = true ∧
      (start line now none bs).run.1.1.frames.reverse = commented now (Relay.timed now bs) := by
  obtain ⟨-, hroom, -, hframes, hbeats, hquiet⟩ := start_eq line now none bs
  have hupcoming : (start line now none bs).upcoming = Relay.timed now bs := by cases bs <;> rfl
  have hcourse := (start line now none bs).course
  have heq := hcourse.frames_eq hroom ⟨init, data, by rw [final, hbeats, hlast]⟩
  refine ⟨hcourse.complete_of_room hroom, ?_⟩
  rw [frames_run, hframes, heq, hquiet, hupcoming]
  rfl

end Transmission

end ChatRace
