import ChatRace.Relay.Event

/-!
# The grammar of a streamed answer

What a streamed answer says, told by what has come from the winner: the role; the texts of all chunks up to the first
chunk or error that ends the answer, in order; how it ends; and the mark (`script`).  What comes behind the end is not
told, and a chunk that does not end the answer tells nothing but its text.  The payloads are the data of these events
(`payloads_eq_script`).
-/

namespace ChatRace.Relay

open Chat Json

/-! ### Events -/

/-- An event of a streamed answer. -/
inductive Event where
  | role
  | text (t : String)
  | finish (reason : String) (usage : Option Usage)
  | error (message : String)
  /-- The mark that ends the answer. -/
  | done
  deriving DecidableEq

namespace Event

/-- The document of an event; the mark has none. -/
def document? (s : Stamp) : Event → Option Value
  | role => some s.role
  | text t => some (s.delta t)
  | finish reason usage => some (s.finish reason usage)
  | error message => some (errorDocument message "backend_error")
  | done => none

/-- The data of an event. -/
def data (s : Stamp) (e : Event) : String := (e.document? s).elim doneMark (·.render)

/-- The usage that an event tells. -/
def usage? : Event → Option Usage
  | finish _ usage => usage
  | role | text _ | error _ | done => none

/-- Whether an event is a chunk of the answer. -/
def isChunk : Event → Bool
  | role | text _ | finish _ _ => true
  | error _ | done => false

end Event

/-! ### What is told -/

/-- The items that come to some chunks and errors, each after a delay. -/
def arrivals (later : List (Nat × Except BackendError Chunk)) : List Item :=
  later.map fun (delay, x) => ⟨delay, match x with
    | .ok c => .value c
    | .error e => .failure e⟩

theorem outcome_arrivals_ne_crash (later : List (Nat × Except BackendError Chunk)) :
    ∀ i ∈ arrivals later, i.outcome ≠ .crash := by
  rw [arrivals, List.forall_mem_map]
  rintro ⟨delay, c | e⟩ - <;> simp

/-- An answer ends with an error or a chunk that says so, and goes on behind any other chunk. -/
@[elab_as_elim]
theorem arrivals_induction {P : List (Nat × Except BackendError Chunk) → Prop} (nil : P [])
    (error : ∀ delay e later, P ((delay, .error e) :: later))
    (last : ∀ delay c later, c.done = true → P ((delay, .ok c) :: later))
    (more : ∀ delay c later, c.done = false → P later → P ((delay, .ok c) :: later))
    (later : List (Nat × Except BackendError Chunk)) : P later := by
  induction later with
  | nil => exact nil
  | cons item later ih =>
    obtain ⟨delay, x⟩ := item
    cases x with
    | error e => exact error delay e later
    | ok c =>
      cases hd : c.done with
      | true => exact last delay c later hd
      | false => exact more delay c later hd ih

/-- Whether what has come ends the answer: an error does, and a chunk that says so. -/
def isLast : Except BackendError Chunk → Bool
  | .ok c => c.done
  | .error _ => true

/-- The text that has come, if there is any. -/
def text? : Except BackendError Chunk → Option String
  | .ok c => c.text?
  | .error _ => none

/-- What has come up to the end of the answer, and with it. -/
def relayed (xs : List (Except BackendError Chunk)) : List (Except BackendError Chunk) :=
  xs.takeWhile (!isLast ·) ++ (xs.find? isLast).toList

/-- The event that closes the answer, told by what has ended it; nothing has if the stream is at its end. -/
def closing : Option (Except BackendError Chunk) → Event
  | some (.ok c) => .finish (c.finishReason.getD "stop") c.usage
  | some (.error e) => .error e.message
  | none => .finish "stop" none

/-- The texts, the end and the mark. -/
def scriptTail (xs : List (Except BackendError Chunk)) : List Event :=
  ((relayed xs).filterMap text?).map .text ++ [closing (xs.find? isLast), .done]

/-- The events of an answer. -/
def script (xs : List (Except BackendError Chunk)) : List Event := .role :: scriptTail xs

theorem scriptTail_of_last {x : Except BackendError Chunk} (h : isLast x = true)
    (xs : List (Except BackendError Chunk)) :
    scriptTail (x :: xs) = (text? x).toList.map .text ++ [closing (some x), .done] := by
  have hrelayed : relayed (x :: xs) = [x] := by simp [relayed, h]
  have hfind : (x :: xs).find? isLast = some x := List.find?_cons_of_pos h
  rw [scriptTail, hrelayed, hfind]
  cases ht : text? x <;> simp [ht]

theorem scriptTail_of_not_last {x : Except BackendError Chunk} (h : isLast x = false)
    (xs : List (Except BackendError Chunk)) :
    scriptTail (x :: xs) = (text? x).toList.map .text ++ scriptTail xs := by
  have hrelayed : relayed (x :: xs) = x :: relayed xs := by simp [relayed, h]
  have hfind : (x :: xs).find? isLast = xs.find? isLast := List.find?_cons_of_neg (by simp [h])
  rw [scriptTail, hrelayed, hfind, scriptTail]
  cases ht : text? x <;> simp [ht]

/-- What has come without what is not told of it: the finish reason and the usage of a chunk that does not end the
answer. -/
def bare : Except BackendError Chunk → Except BackendError Chunk
  | .ok c => if c.done then .ok c else .ok ⟨c.delta, none, none, false⟩
  | .error e => .error e

/-- What comes behind the end is not told. -/
theorem script_relayed (xs : List (Except BackendError Chunk)) : script (relayed xs) = script xs := by
  suffices htail : scriptTail (relayed xs) = scriptTail xs by rw [script, script, htail]
  induction xs with
  | nil => rfl
  | cons x xs ih =>
    cases hx : isLast x with
    | true =>
      have hrelayed : relayed (x :: xs) = [x] := by simp [relayed, hx]
      rw [hrelayed, scriptTail_of_last hx, scriptTail_of_last hx]
    | false =>
      have hrelayed : relayed (x :: xs) = x :: relayed xs := by simp [relayed, hx]
      rw [hrelayed, scriptTail_of_not_last hx, scriptTail_of_not_last hx, ih]

/-- Of a chunk that does not end the answer, nothing is told but its text. -/
theorem script_bare (xs : List (Except BackendError Chunk)) : script (xs.map bare) = script xs := by
  suffices htail : scriptTail (xs.map bare) = scriptTail xs by rw [script, script, htail]
  induction xs with
  | nil => rfl
  | cons x xs ih =>
    rw [List.map_cons]
    cases hx : isLast x with
    | true =>
      have hbare : bare x = x := by
        cases x with
        | ok c => exact if_pos hx
        | error e => rfl
      rw [hbare, scriptTail_of_last hx, scriptTail_of_last hx]
    | false =>
      obtain ⟨c, rfl, hc⟩ : ∃ c, x = .ok c ∧ c.done = false := by
        cases x with
        | ok c => exact ⟨c, rfl, hx⟩
        | error e => simp [isLast] at hx
      have hbare : bare (.ok c) = .ok ⟨c.delta, none, none, false⟩ := if_neg (by simp [hc])
      have hlast : isLast (.ok ⟨c.delta, none, none, false⟩) = false := rfl
      rw [hbare, scriptTail_of_not_last hlast, scriptTail_of_not_last hx, ih]
      rfl

/-! ### Payloads -/

/-- The data that some beats write. -/
def written (bs : List Beat) : List String :=
  bs.flatMap fun b => b.acts.filterMap fun
    | .write data => some data
    | _ => none

variable (s : Stamp) {c : Chunk} {bs : List Beat} {xs : List (Except BackendError Chunk)}

private theorem written_text (delay : Nat) (c : Chunk) (acts : List Act) (bs : List Beat) :
    written (⟨delay, textActs s c ++ acts⟩ :: bs) =
      ((text? (.ok c)).toList.map .text).map (Event.data s) ++ written (⟨0, acts⟩ :: bs) := by
  cases ht : c.text? <;> simp [written, textActs, text?, ht, Event.data, Event.document?]

theorem itemBeats_of_done (h : c.done = true) (delay : Nat) (later : List (Nat × Except BackendError Chunk)) :
    itemBeats s (arrivals ((delay, .ok c) :: later)) = [⟨delay, .pulled :: (textActs s c ++ doneActs s c)⟩] := by
  simp [arrivals, itemBeats, h]

theorem itemBeats_of_not_done (h : c.done = false) (delay : Nat) (later : List (Nat × Except BackendError Chunk)) :
    itemBeats s (arrivals ((delay, .ok c) :: later)) =
      ⟨delay, .pulled :: textActs s c⟩ :: itemBeats s (arrivals later) := by
  simp [arrivals, itemBeats, h]

theorem beats_of_done (h : c.done = true) (rest : List Item) :
    beats s c rest = [⟨0, .write s.role.render :: (textActs s c ++ doneActs s c)⟩] := by
  simp [beats, h]

theorem beats_of_not_done (h : c.done = false) (rest : List Item) :
    beats s c rest = ⟨0, .write s.role.render :: textActs s c⟩ :: itemBeats s rest := by
  simp [beats, h]

/-- A chunk that ends the answer writes its text and the end, whatever would come behind it. -/
private theorem written_of_done (h : c.done = true) (delay : Nat) :
    written [⟨delay, textActs s c ++ doneActs s c⟩] = (scriptTail (.ok c :: xs)).map (Event.data s) := by
  have hlast : isLast (.ok c) = true := h
  have hend : written [⟨0, doneActs s c⟩] = [closing (some (.ok c)), Event.done].map (Event.data s) := rfl
  rw [written_text, hend, scriptTail_of_last hlast, List.map_append]

private theorem written_of_not_done (h : c.done = false) (delay : Nat)
    (hbs : written bs = (scriptTail xs).map (Event.data s)) :
    written (⟨delay, textActs s c⟩ :: bs) = (scriptTail (.ok c :: xs)).map (Event.data s) := by
  have hlast : isLast (.ok c) = false := h
  have hrest : written (⟨0, []⟩ :: bs) = written bs := rfl
  have htext := written_text s delay c [] bs
  rw [List.append_nil] at htext
  rw [htext, hrest, hbs, scriptTail_of_not_last hlast, List.map_append]

private theorem written_itemBeats (later : List (Nat × Except BackendError Chunk)) :
    written (itemBeats s (arrivals later)) = (scriptTail (later.map (·.2))).map (Event.data s) := by
  have hpulled (delay : Nat) (acts : List Act) (bs : List Beat) :
      written (⟨delay, .pulled :: acts⟩ :: bs) = written (⟨delay, acts⟩ :: bs) := rfl
  induction later using arrivals_induction with
  | nil => rfl
  | error delay e later =>
    rw [List.map_cons, scriptTail_of_last rfl]
    rfl
  | last delay c later hd =>
    rw [itemBeats_of_done s hd, hpulled]
    exact written_of_done s hd delay
  | more delay c later hd ih =>
    rw [itemBeats_of_not_done s hd, hpulled]
    exact written_of_not_done s hd delay ih

theorem payloads_eq_script (first : Chunk) (later : List (Nat × Except BackendError Chunk)) :
    payloads s first (arrivals later) = (script (.ok first :: later.map (·.2))).map (Event.data s) := by
  have hwritten : payloads s first (arrivals later) = written (beats s first (arrivals later)) := rfl
  have hrole (acts : List Act) (bs : List Beat) :
      written (⟨0, .write s.role.render :: acts⟩ :: bs) = Event.role.data s :: written (⟨0, acts⟩ :: bs) := rfl
  rw [hwritten, script, List.map_cons]
  cases hd : first.done with
  | true => rw [beats_of_done s hd, hrole, written_of_done s hd]
  | false => rw [beats_of_not_done s hd, hrole, written_of_not_done s hd 0 (written_itemBeats s later)]

end ChatRace.Relay
