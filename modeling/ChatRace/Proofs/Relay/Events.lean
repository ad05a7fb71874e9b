import ChatRace.Proofs.Relay.Grammar
import ChatRace.Proofs.Relay.Transmission

/-!
# Events of a whole answer

The events of an answer whose items are all chunks: the role, each piece of text up to the chunk that ends the
answer, the end, and the mark (`script_chunks`).  A client who takes all frames gets the events of an answer in order,
whatever the items' times, and comments between them (`events_run_start`).
-/

namespace ChatRace

open Chat

namespace Relay

/-! ### Payloads -/

/-- The chunks up to the first one that ends the answer, and with it. -/
def heard : List Chunk → List Chunk
  | [] => []
  | c :: cs => if c.done then [c] else c :: heard cs

/-- The finish reason of an answer: that of the chunk that ends it, if it has one. -/
def finishReason (cs : List Chunk) : String := ((cs.find? (·.done)).bind (·.finishReason)).getD "stop"

/-- The usage of an answer: that of the chunk that ends it. -/
def usage? (cs : List Chunk) : Option Usage := (cs.find? (·.done)).bind (·.usage)

/-- The items that are chunks with their delays. -/
def itemsOf (later : List (Nat × Chunk)) : List Item := later.map fun (delay, c) => ⟨delay, .value c⟩

private theorem relayed_chunks (cs : List Chunk) : relayed (cs.map .ok) = (heard cs).map .ok := by
  induction cs with
  | nil => rfl
  | cons c cs ih =>
    have hlast : isLast (.ok c) = c.done := rfl
    cases hd : c.done with
    | true => simp [relayed, heard, hlast, hd]
    | false =>
      have hcons : relayed ((c :: cs).map .ok) = .ok c :: relayed (cs.map .ok) := by simp [relayed, hlast, hd]
      rw [hcons, ih, heard, if_neg (by simp [hd]), List.map_cons]

private theorem closing_chunks (cs : List Chunk) :
    closing ((cs.map .ok).find? isLast) = .finish (finishReason cs) (usage? cs) := by
  have hfind : (cs.map .ok).find? isLast = (cs.find? (·.done)).map .ok := List.find?_map ..
  rw [hfind, finishReason, usage?]
  cases cs.find? (·.done) <;> rfl

theorem script_chunks (cs : List Chunk) : script (cs.map .ok) =
    .role :: ((heard cs).filterMap (·.text?)).map .text ++ [.finish (finishReason cs) (usage? cs), .done] := by
  have htexts (cs : List Chunk) : (cs.map .ok).filterMap text? = cs.filterMap (·.text?) := List.filterMap_map ..
  rw [script, scriptTail, relayed_chunks, htexts, closing_chunks, List.cons_append]

theorem itemsOf_eq (later : List (Nat × Chunk)) :
    itemsOf later = arrivals (later.map fun (delay, c) => (delay, .ok c)) := by
  simp [itemsOf, arrivals]

theorem map_snd_chunks (first : Chunk) (later : List (Nat × Chunk)) :
    .ok first :: (later.map fun (delay, c) => (delay, Except.ok (ε := BackendError) c)).map (·.2) =
      (first :: later.map (·.2)).map .ok := by
  simp

/-! ### Frames -/

theorem frame_eq {data : String} (h : '\n' ∉ data.toList) :
    frame data = "data: " ++ data ++ "\n" ++ "\n" := by
  have hsplit : Text.split (· == '\n') data.toList = [data.toList] := by
    refine Text.split_eq_singleton fun c hc => ?_
    have hne : c ≠ '\n' := fun heq => h (heq ▸ hc)
    simpa using hne
  simp [frame, hsplit, String.join_cons]

theorem frame_ne_keepAlive (data : String) : frame data ≠ keepAlive := by
  obtain ⟨w, ws, hsplit⟩ := List.exists_cons_of_ne_nil (Text.split_ne_nil (· == '\n') data.toList)
  intro h
  have hhead := congrArg (·.toList.head?) h
  simp [frame, hsplit, keepAlive, String.join_cons] at hhead

end Relay

namespace Transmission

/-- The frames that the client has taken, in order. -/
def texts (t : Transmission) : List String := t.frames.reverse.map (·.2)

/-- The events among the frames that the client has taken. -/
def events (t : Transmission) : List String := t.texts.filter (· ≠ Relay.keepAlive)

private theorem events_close (t : Transmission) : t.close.1.events = t.events := rfl

private theorem events_perform (now : Nat) {t : Transmission} (h : t.room = none) (acts : List Relay.Act) :
    (t.perform now acts).1.events = t.events ++ (Relay.written [⟨0, acts⟩]).map Relay.frame := by
  induction acts generalizing t with
  | nil => simp [perform, Relay.written]
  | cons a acts ih =>
    have hact : (t.act now a).1.events = t.events ++ (Relay.written [⟨0, [a]⟩]).map Relay.frame := by
      cases a with
      | write data =>
        simp [act, put, events, texts, Relay.written, Relay.frame_ne_keepAlive]
      | pulled | release => simp [act, close, events, texts, Relay.written]
    have hevents := ih (room_act_eq_none h now a)
    have hall : (Relay.written [⟨0, a :: acts⟩]) = Relay.written [⟨0, [a]⟩] ++ Relay.written [⟨0, acts⟩] := by
      cases a <;> simp [Relay.written]
    rw [hall, List.map_append, ← List.append_assoc, ← hact, ← hevents]
    simp [perform, isFull_eq_false h]

/-- The events that the client has taken and those that are still to come. -/
def promised (t : Transmission) : List String := t.events ++ (Relay.written t.beats).map Relay.frame

/-- A step of a transmission to a client who takes all frames keeps what is promised; the last one has given it
all. -/
theorem promised_step {t : Transmission} (h : t.room = none) :
    match t.step.1 with
    | .running u => u.room = none ∧ u.promised = t.promised
    | .ended u _ => u.events = t.promised := by
  by_cases hdue : t.due ≤ t.quiet + keepAliveAfter
  · -- a beat: its events are taken, and the next one is waited for if there is one
    obtain ⟨hbeats, -, -⟩ := perform_fixed t.due t (t.beats.head?.elim [] (·.acts))
    have hroom := room_perform_eq_none h t.due (t.beats.head?.elim [] (·.acts))
    have hevents := events_perform t.due h (t.beats.head?.elim [] (·.acts))
    simp only [step, isFull_eq_false h, Bool.false_eq_true, if_false, hdue, if_true, proceed, isFull_eq_false hroom,
      hbeats]
    rcases hb : t.beats with _ | ⟨b, _ | ⟨b', rest⟩⟩ <;>
      simp only [hb, List.head?_nil, List.head?_cons, Option.elim_none, Option.elim_some] at hroom hevents ⊢
    · refine (events_close _).trans ?_
      simpa [promised, hb, Relay.written] using hevents
    · refine (events_close _).trans ?_
      simpa [promised, hb, Relay.written] using hevents
    · refine ⟨hroom, ?_⟩
      have hsplit : Relay.written (b :: b' :: rest) =
          Relay.written [⟨0, b.acts⟩] ++ Relay.written (b' :: rest) := by
        simp [Relay.written]
      rw [promised, promised, hb, hsplit, List.map_append, ← List.append_assoc, ← hevents]
      rfl
  · -- a comment
    have hput : (t.put (t.quiet + keepAliveAfter) Relay.keepAlive).room = none := by simp [put, h]
    simp only [step, isFull_eq_false h, Bool.false_eq_true, if_false, hdue, isFull_eq_false hput]
    exact ⟨hput, by simp [promised, put, events, texts]⟩

/-- A client who takes all frames gets the events of the beats, one after another. -/
theorem events_run {t : Transmission} (h : t.room = none) : t.run.1.1.events = t.promised := by
  induction hw : t.work using Nat.strongRecOn generalizing t with
  | ind n ih =>
    have hstep := promised_step h
    cases hs : t.step with
    | mk f log =>
      rw [hs] at hstep
      cases f with
      | running u =>
        obtain ⟨hroom, hpromised⟩ := hstep
        rw [run_of_running hs, ← hpromised]
        exact ih u.work (hw ▸ step_work_lt hs) hroom rfl
      | ended u complete =>
        rw [run_of_ended hs]
        exact hstep

/-- The frames of an answer, apart from the comments, are its events in order. -/
theorem events_run_start (line now : Nat) (s : Stamp) (first : Chunk) (rest : List Item) :
    (start line now none (Relay.beats s first rest)).run.1.1.events =
      (Relay.payloads s first rest).map Relay.frame := by
  obtain ⟨-, hroom, -, hframes, hbeats, -⟩ := start_eq line now none (Relay.beats s first rest)
  rw [events_run hroom, promised, events, texts, hframes, hbeats]
  rfl

end Transmission

end ChatRace
