import ChatRace.Proofs.Provider.Framing

/-!
# What the lines of a streamed answer say

A whole line of a streamed answer says something on its own (`remark`).  What the reader tells is a function of
what the lines say, one after another, and of the way in which the body ends (`told`, `outcomes_eq_told`): the
texts and the errors as they come, and at the end a terminal chunk, or the error that has ended the stream.
-/

namespace ChatRace.Provider

open Chat

/-! ### One line -/

/-- What a line of a streamed answer says. -/
inductive Remark where
  /-- The line holds no data. -/
  | nothing
  | event (c : Completion)
  /-- There is data that is no event. -/
  | malformed (e : BackendError)
  /-- The mark that ends the answer. -/
  | done
  /-- The line is no text. -/
  | garbled (e : BackendError)
  deriving DecidableEq

/-- What a whole line says. -/
def remark (locate : Json.Locator) (line : List UInt8) : Remark :=
  match Text.decode line with
  | .error f => .garbled (.invalidResponse f.message)
  | .ok text =>
    match EventReader.dataOf? text with
    | none => .nothing
    | some data =>
      if data = EventReader.doneMark then .done
      else
        match Json.decode event.reader (Text.toUtf8 data) with
        | .error f => .malformed (.invalidResponse (f.message locate (Text.toUtf8 data)))
        | .ok c => .event c

/-- What the lines of a body say that have come to their ends. -/
def remarks (locate : Json.Locator) (octets : List UInt8) : List Remark := (wholeLines octets).map (remark locate)

theorem remark_of_dataOf?_eq_none {text : String} (h : EventReader.dataOf? text = none) (locate : Json.Locator) :
    remark locate (Text.toUtf8 text) = .nothing := by
  simp only [remark, Text.decode_toUtf8, h]

namespace Completion

/-- The text that an event adds to the answer, if it adds any. -/
def text? (c : Completion) : Option String :=
  (c.choices.head?.bind (·.content)).filter fun t => !t.isEmpty

/-- The finish reason in an event. -/
def finishReason? (c : Completion) : Option String := c.choices.head?.bind (·.finishReason)

end Completion

/-- The last chunk of an answer with a finish reason and a usage. -/
def terminalOf (finishReason : Option String) (usage : Option Usage) : Outcome Chunk :=
  .value (.terminal (finishReason.getD "stop") usage)

/-- What a body comes to that ends in some way and whose lines say one thing after another, given the finish reason
and the usage that have come already. -/
def told (ending : Ending) (finishReason : Option String) (usage : Option Usage) :
    List Remark → List (Outcome Chunk)
  | [] => [(ending.error?).elim (terminalOf finishReason usage) .failure]
  | .nothing :: ms => told ending finishReason usage ms
  | .event c :: ms =>
    (c.text?.map fun t => .value (.content t)).toList ++
      told ending (finishReason <|> c.finishReason?) (c.usage <|> usage) ms
  | .malformed e :: ms => .failure e :: told ending finishReason usage ms
  | .done :: _ => [terminalOf finishReason usage]
  | .garbled e :: _ => [.failure e]

/-- The lines that say nothing make no difference. -/
theorem told_filter (ending : Ending) (finishReason : Option String) (usage : Option Usage) (ms : List Remark) :
    told ending finishReason usage (ms.filter (· ≠ .nothing)) = told ending finishReason usage ms := by
  induction ms generalizing finishReason usage with
  | nil => rfl
  | cons m ms ih => cases m <;> simp_all [told]

namespace EventReader

/-- What a reader makes of what a line says. -/
def note (r : EventReader) : Remark → EventReader × List (Outcome Chunk)
  | .nothing => (r, [])
  | .event c =>
    ({ r with finishReason := r.finishReason <|> c.finishReason?, usage := c.usage <|> r.usage },
      (c.text?.map fun t => .value (.content t)).toList)
  | .malformed e => (r, [.failure e])
  | .done => ({ r with isOver := true }, [r.terminal])
  | .garbled e => ({ r with isOver := true }, [.failure e])

private theorem take_eq_note (r : EventReader) (c : Completion) : r.take c = r.note (.event c) := by
  unfold take note
  cases hc : c.choices.head? with
  | none => simp [Completion.text?, Completion.finishReason?, hc]
  | some choice =>
    simp only [Completion.text?, Completion.finishReason?, hc, Option.bind_some]
    cases choice.content.filter (fun t => !t.isEmpty) <;> rfl

theorem takeLine_eq_note (r : EventReader) (line : List UInt8) :
    r.takeLine line = r.note (remark r.locate line) := by
  cases ht : Text.decode line with
  | error f => simp only [takeLine, remark, ht, note]
  | ok text =>
    cases hd : dataOf? text with
    | none => simp only [takeLine, remark, ht, hd, note]
    | some data =>
      by_cases hdone : data = doneMark
      · simp only [takeLine, remark, ht, hd, hdone, if_true, note]
      · cases hj : Json.decode event.reader (Text.toUtf8 data) with
        | error f => simp only [takeLine, remark, ht, hd, hdone, if_false, hj, note]
        | ok c => simp only [takeLine, remark, ht, hd, hdone, if_false, hj, take_eq_note]

private theorem locate_takeLine (r : EventReader) (line : List UInt8) : (r.takeLine line).1.locate = r.locate := by
  rw [takeLine_eq_note]
  cases remark r.locate line <;> rfl

/-- What is told behind a line depends on what the reader has made of it. -/
private theorem told_cons_eq (ending : Ending) {r : EventReader} (h : r.isOver = false) (m : Remark)
    (ms : List Remark) :
    told ending r.finishReason r.usage (m :: ms) =
      (r.note m).2 ++ if (r.note m).1.isOver then []
        else told ending (r.note m).1.finishReason (r.note m).1.usage ms := by
  cases m <;> simp [told, note, h, terminalOf, terminal]

theorem told_remarks_buffer (ending : Ending) {r : EventReader} (h : r.isOver = false) :
    told ending r.finishReason r.usage (remarks r.locate r.buffer) =
      r.drain.2 ++ if r.drain.1.isOver then [] else [lastItem r.drain.1 ending] := by
  induction hw : r.buffer.length using Nat.strongRecOn generalizing r with
  | ind n ih =>
    rw [remarks, wholeLines_eq]
    cases hc : cutLine? r.buffer with
    | none =>
      rw [drain_of_cutLine?_eq_none hc]
      cases ending <;> simp [told, Ending.error?, lastItem, terminalOf, terminal, h]
    | some cut =>
      obtain ⟨line, rest⟩ := cut
      have hline := takeLine_eq_note { r with buffer := rest } line
      have hcons := told_cons_eq (r := { r with buffer := rest }) ending h (remark r.locate line)
        (remarks r.locate rest)
      rw [← hline] at hcons
      rw [drain_of_cutLine?_eq_some h hc]
      refine Eq.trans hcons ?_
      cases hover : (takeLine { r with buffer := rest } line).1.isOver with
      | true => simp [drain_of_isOver hover, hover]
      | false =>
        have hlt := length_of_cutLine?_eq_some hc
        have hbuffer : (takeLine { r with buffer := rest } line).1.buffer = rest := buffer_takeLine ..
        have hlocate : (takeLine { r with buffer := rest } line).1.locate = r.locate := locate_takeLine ..
        have hrest := ih rest.length (hw ▸ hlt) hover (by rw [hbuffer])
        rw [hbuffer, hlocate] at hrest
        simp only [Bool.false_eq_true, if_false, hrest, List.append_assoc]

end EventReader

/-! ### Bodies -/

theorem outcomes_eq_told (locate : Json.Locator) (wait : Nat) (ending : Ending) (endDelay : Nat)
    (frames : List Frame) :
    (readItems (.fresh locate) wait ending endDelay frames).map (·.outcome) =
      told ending none none (remarks locate (bodyBytes frames)) := by
  have hdrained : (EventReader.fresh locate).drain = (.fresh locate, []) := EventReader.drain_of_cutLine?_eq_none rfl
  have hpushed : ((EventReader.fresh locate).push (bodyBytes frames)).isOver = false := rfl
  rw [outcomes_readItems rfl hdrained]
  exact (EventReader.told_remarks_buffer ending hpushed).symm

end ChatRace.Provider
