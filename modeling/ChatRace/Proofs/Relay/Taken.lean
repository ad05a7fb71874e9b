import ChatRace.Proofs.Relay.Lines
import ChatRace.Proofs.Relay.Record

/-!
# What a client takes of a streamed answer

A client may leave after any frame, and an item may crash.  Whatever comes, each payload is the data of an event
(`Relay.exists_event`), and the frames that are taken are the first events of the answer with comments between them
(`Transmission.Course.events_isPrefix`).  So the lines with data of the body are the first payloads of the answer
(`Transmission.dataLines_body_isPrefix`).
-/

namespace ChatRace

open Chat

namespace Relay

/-! ### Payloads are events -/

/-- Whether all that some acts write is the data of events. -/
inductive Tells (s : Stamp) : List Act → Prop
  | nil : Tells s []
  | write (e : Event) {acts : List Act} : Tells s acts → Tells s (.write (e.data s) :: acts)
  | pulled {acts : List Act} : Tells s acts → Tells s (.pulled :: acts)
  | release {acts : List Act} : Tells s acts → Tells s (.release :: acts)

variable {s : Stamp} {acts more : List Act}

theorem Tells.append (h : Tells s acts) (hmore : Tells s more) : Tells s (acts ++ more) := by
  induction h with
  | nil => exact hmore
  | write e _ ih => exact .write e ih
  | pulled _ ih => exact .pulled ih
  | release _ ih => exact .release ih

theorem tells_textActs (s : Stamp) (c : Chunk) : Tells s (textActs s c) := by
  unfold textActs
  split
  · rename_i t _
    exact .write (.text t) .nil
  · exact .nil

theorem tells_doneActs (s : Stamp) (c : Chunk) : Tells s (doneActs s c) :=
  .write (.finish (c.finishReason.getD "stop") c.usage) (.release (.write .done .nil))

theorem tells_itemBeats (s : Stamp) (items : List Item) : ∀ b ∈ itemBeats s items, Tells s b.acts := by
  have hclose : Tells s (closeActs s) := .release (.write (.finish "stop" none) (.write .done .nil))
  have herror (e : BackendError) : Tells s (errorActs e) := .write (.error e.message) (.release (.write .done .nil))
  induction items with
  | nil => simpa [itemBeats] using hclose
  | cons i items ih =>
    rw [itemBeats]
    split
    · rename_i c _
      split
      · simpa using ((tells_textActs s c).append (tells_doneActs s c)).pulled
      · exact List.forall_mem_cons.2 ⟨.pulled (tells_textActs s c), ih⟩
    · simpa using (herror _).pulled
    · simpa using Tells.pulled (.release .nil)

theorem tells_beats (s : Stamp) (first : Chunk) (rest : List Item) : ∀ b ∈ beats s first rest, Tells s b.acts := by
  have hfirst : Tells s (.write s.role.render :: textActs s first) := .write .role (tells_textActs s first)
  rw [beats]
  split
  · simpa using hfirst.append (tells_doneActs s first)
  · exact List.forall_mem_cons.2 ⟨hfirst, tells_itemBeats s rest⟩

private theorem Tells.exists_event {data : String} (h : Tells s acts) (hdata : .write data ∈ acts) :
    ∃ e : Event, data = e.data s := by
  induction h with
  | nil => nomatch hdata
  | write e _ ih =>
    rcases List.mem_cons.1 hdata with heq | hdata
    · exact ⟨e, Act.write.inj heq⟩
    · exact ih hdata
  | pulled _ ih | release _ ih => exact ih (by simpa using hdata)

/-- Each payload of an answer is the data of an event. -/
theorem exists_event {first : Chunk} {rest : List Item} {data : String} (h : data ∈ payloads s first rest) :
    ∃ e : Event, data = e.data s := by
  obtain ⟨b, hb, hdata⟩ := List.mem_flatMap.1 h
  obtain ⟨a, ha, hwrites⟩ := List.mem_filterMap.1 hdata
  have hwrite : a = .write data := by
    cases a with
    | write d => exact congrArg Act.write (Option.some.inj hwrites)
    | pulled | release => nomatch hwrites
  exact (tells_beats s first rest b hb).exists_event (hwrite ▸ ha)

/-- No payload has a line end. -/
theorem lineEnd_notMem {first : Chunk} {rest : List Item} {data : String} (h : data ∈ payloads s first rest) :
    '\n' ∉ data.toList := by
  obtain ⟨e, rfl⟩ := exists_event h
  by_cases he : e = .done
  · have hmark : '\n' ∉ doneMark.toList := by decide
    rw [he]
    exact hmark
  · intro hmem
    exact absurd ((isDocument_data s he).isOneLine _ hmem) (by decide)

end Relay

/-! ### Frames that are taken -/

/-- The events among the frames that are taken. -/
def Moment.events (ms : List Moment) : List String := ((frames ms).map (·.2)).filter (· ≠ Relay.keepAlive)

namespace Transmission

variable {t : Transmission} {ms : List Moment} {complete : Bool}

private theorem events_unrolled (line now : Nat) (isOpen : Bool) (acts : List Relay.Act) (ms : List Moment) :
    Moment.events (unrolled line now isOpen acts ++ ms) =
      (Relay.written [⟨0, acts⟩]).map Relay.frame ++ Moment.events ms := by
  induction acts generalizing isOpen with
  | nil => rfl
  | cons a acts ih =>
    cases a with
    | write data =>
      have hkept : decide (Relay.frame data ≠ Relay.keepAlive) = true := by simp [Relay.frame_ne_keepAlive]
      have hfirst : Moment.events (unrolled line now isOpen (.write data :: acts) ++ ms) =
          Relay.frame data :: Moment.events (unrolled line now isOpen acts ++ ms) :=
        List.filter_cons_of_pos hkept
      rw [hfirst, ih]
      rfl
    | pulled => exact ih isOpen
    | release =>
      cases isOpen <;> exact ih false

/-- A beat that is waited for is done as far as the client takes its frames. -/
private theorem exists_events_performed (t : Transmission) (ms : List Moment) : ∃ done, done <+: t.awaited ∧
    (t.afterBeat.isFull = false → done = t.awaited) ∧
    Moment.events (t.performed t.due t.awaited ++ ms) =
      (Relay.written [⟨0, done⟩]).map Relay.frame ++ Moment.events ms := by
  obtain ⟨done, hdone⟩ := exists_does t.due t t.awaited
  refine ⟨done, hdone.isPrefix, hdone.all, ?_⟩
  rw [hdone.performed, events_unrolled]

private theorem events_line (log : List Traffic) : Moment.events (log.map .line) = [] := by
  rw [Moment.events, Moment.frames_line]
  rfl

private theorem written_beats (t : Transmission) :
    Relay.written t.beats = Relay.written [⟨0, t.awaited⟩] ++ Relay.written t.beats.tail := by
  rw [awaited]
  cases t.beats with
  | nil => rfl
  | cons b bs => simp [Relay.written]

/-- The events that are taken are the first ones of those that are to come. -/
theorem Course.events_isPrefix (h : Course t ms complete) :
    Moment.events ms <+: (Relay.written t.beats).map Relay.frame := by
  have hbeat (t : Transmission) (log : List Traffic) :
      Moment.events (t.performed t.due t.awaited ++ log.map .line) <+: (Relay.written t.beats).map Relay.frame := by
    obtain ⟨done, ⟨later, hlater⟩, -, hevents⟩ := exists_events_performed t (log.map .line)
    have hawaited : Relay.written [⟨0, t.awaited⟩] = Relay.written [⟨0, done⟩] ++ Relay.written [⟨0, later⟩] := by
      simp [Relay.written, ← hlater]
    rw [hevents, events_line, List.append_nil, written_beats, hawaited, List.append_assoc, List.map_append]
    exact List.prefix_append _ _
  induction h with
  | left hfull =>
    rw [events_line]
    exact List.nil_prefix
  | cut | last => exact hbeat _ _
  | @beat t b bs ms complete hfull hdue hafter hbeats hrest ih =>
    obtain ⟨done, -, hall, hevents⟩ := exists_events_performed t ms
    rw [hevents, hall hafter, written_beats, hbeats, List.map_append]
    exact (List.prefix_append_right_inj _).2 ih
  | comment hfull hdue hrest ih => exact ih

/-- The lines with data of what a client takes of an answer are the first payloads of the answer. -/
theorem dataLines_body_isPrefix (line now : Nat) (room : Option Nat) (s : Stamp) (first : Chunk) (rest : List Item) :
    Relay.dataLines (start line now room (Relay.beats s first rest)).run.1.1.body <+: Relay.payloads s first rest := by
  obtain ⟨-, -, -, hframes, hbeats, -⟩ := start_eq line now room (Relay.beats s first rest)
  have hprefix := (course (start line now room (Relay.beats s first rest))).events_isPrefix
  have hframes' := frames_run (start line now room (Relay.beats s first rest))
  rw [hbeats] at hprefix
  rw [hframes, List.reverse_nil, List.nil_append] at hframes'
  obtain ⟨taken, htaken, hevents⟩ := List.prefix_map_iff.1 hprefix
  have hdata := Relay.dataLines_join (fun data hdata => Relay.lineEnd_notMem (htaken.subset hdata)) hevents
  rw [← hframes'] at hdata
  rw [body, hdata]
  exact htaken

/-- A client who takes all frames finds all payloads. -/
theorem dataLines_body_eq (line now : Nat) (s : Stamp) (first : Chunk) (rest : List Item) :
    Relay.dataLines (start line now none (Relay.beats s first rest)).run.1.1.body = Relay.payloads s first rest :=
  Relay.dataLines_join (fun _ => Relay.lineEnd_notMem) (events_run_start line now s first rest)

end Transmission

end ChatRace
