import ChatRace.Backend.Mock
import ChatRace.Backend.Stream
import ChatRace.Proofs.Text.Words

/-!
# Greetings of mock backends

A mock backend greets in both modes with the same words.  Its stream has them one by one, with a space in front of each
but the first, and then the end of the whole reply (`Mock.modes_tell_alike`).  So nothing but the gaps of the greeting
can be lost between the chunks.
-/

namespace ChatRace

open Chat

/-! ### Reading a stream -/

/-- What an item comes to, if its reader is to have a chunk or an error. -/
private def outcomeOf : Except BackendError Chunk → Outcome Chunk
  | .ok c => .value c
  | .error e => .failure e

/-- Who pulls more often than there are items has what all of them come to, and then the end. -/
private theorem readAtMost_of_outcomes {items : List Item} {values : List (Except BackendError Chunk)}
    (h : items.map (·.outcome) = values.map outcomeOf) {s : Stream} (hs : s.rest = items) (now : Nat) {count : Nat}
    (hcount : items.length < count) :
    (s.readAtMost now count).got.map (·.value) = values ∧ (s.readAtMost now count).ended = true := by
  induction items generalizing values s now count with
  | nil =>
    obtain rfl : values = [] := by simpa using h.symm
    obtain ⟨k, rfl⟩ := Nat.exists_eq_succ_of_ne_zero (Nat.ne_of_gt hcount)
    simp [Stream.readAtMost, Stream.next, hs]
  | cons i items ih =>
    obtain ⟨k, rfl⟩ := Nat.exists_eq_succ_of_ne_zero (Nat.ne_of_gt (Nat.zero_lt_of_lt hcount))
    have hk : items.length < k := Nat.lt_of_succ_lt_succ hcount
    cases values with
    | nil => cases h
    | cons v values =>
      obtain ⟨hi, hitems⟩ := List.cons.inj h
      obtain ⟨hgot, hended⟩ := ih hitems (s := { s with rest := items }) rfl (now + i.delay) hk
      cases v with
      | ok c =>
        have hnext : s.next now = (some ⟨now + i.delay, .ok c⟩, { s with rest := items }, [.pulled s.line]) := by
          simp only [Stream.next, hs, hi, outcomeOf]
        simp [Stream.readAtMost, hnext, hgot, hended]
      | error e =>
        have hnext : s.next now = (some ⟨now + i.delay, .error e⟩, { s with rest := items }, [.pulled s.line]) := by
          simp only [Stream.next, hs, hi, outcomeOf]
        simp [Stream.readAtMost, hnext, hgot, hended]

/-- A call for a stream comes to one, and who reads all of it has these chunks and errors and then the end. -/
def Backend.Yields (b : Backend) (r : BackendRequest) (values : List (Except BackendError Chunk)) : Prop :=
  ∃ latency items, b.streamed r = ⟨latency, .value items⟩ ∧ ∀ now,
    ((Stream.held b.line items).readAll now).got.map (·.value) = values ∧
      ((Stream.held b.line items).readAll now).ended = true

private theorem yields_of_outcomes {b : Backend} {r : BackendRequest} {values : List (Except BackendError Chunk)}
    {latency : Nat} {items : List Item} (hstreamed : b.streamed r = ⟨latency, .value items⟩)
    (h : items.map (·.outcome) = values.map outcomeOf) : b.Yields r values :=
  ⟨latency, items, hstreamed, fun now => readAtMost_of_outcomes h rfl now (Nat.lt_succ_self _)⟩

/-! ### The greeting -/

namespace Mock

theorem isTrimmed_content (m : Mock) : Text.IsTrimmed m.content.toList := by
  have hlist : m.content.toList = 'H' :: ("ello from ".toList ++ m.name.toList ++ ['!']) := by simp [content]
  rw [hlist]
  exact ⟨⟨'H', rfl, by decide⟩, ⟨'!', by rw [← List.cons_append, List.getLast?_concat], by decide⟩⟩

/-- The pieces of a text are its words with spaces between them. -/
private theorem join_pieces (w : String) (ws : List String) :
    String.join (w :: ws.map (" " ++ ·)) = " ".intercalate (w :: ws) := by
  induction ws generalizing w with
  | nil => simp
  | cons v ws ih =>
    have ih := ih v
    rw [String.intercalate_cons_cons, ← ih]
    simp [String.join_cons, String.append_assoc]

variable {m : Mock} {w : String} {ws : List String}

private theorem yields_healthy (h : Text.words m.content = w :: ws) (hm : m.failure = .healthy) (line : Nat)
    (r : BackendRequest) : (m.backend line).Yields r
      (((w :: ws.map (" " ++ ·)).map fun d => .ok (.content d)) ++
        [.ok (.terminal (m.reply r).finishReason (some (m.reply r).usage))]) := by
  have hstreamed : (m.backend line).streamed r = ⟨m.latency, .value (m.items r)⟩ := by simp [backend, hm]
  refine yields_of_outcomes hstreamed ?_
  simp [items, pieces, h, hm, lastItem, reply, outcomeOf, Function.comp_def]

private theorem yields_midStream (h : Text.words m.content = w :: ws) (hm : m.failure = .midStream) (line : Nat)
    (r : BackendRequest) : (m.backend line).Yields r [.ok (.content w), .error m.unavailable] := by
  have hstreamed : (m.backend line).streamed r = ⟨m.latency, .value (m.items r)⟩ := by simp [backend, hm]
  refine yields_of_outcomes hstreamed ?_
  simp [items, pieces, h, hm, outcomeOf]

/-- Whatever the name of a mock and whatever it is asked, its whole reply is a greeting, and its stream has one chunk
for each run of the greeting that is not blank, none of them empty, and then the end with the reason and the usage of the
reply.  The texts of the chunks make the words with a space between them, which is the greeting exactly if each blank run
in it is one space.  If the mock fails in the middle, its stream has the first of these chunks and then an error. -/
theorem modes_tell_alike (m : Mock) (line : Nat) (r : BackendRequest) :
    ∃ (reply : Reply) (w : String) (ws : List String),
      let healthy : Mock := { m with failure := .healthy }
      let failing : Mock := { m with failure := .midStream }
      let deltas := w :: ws.map (" " ++ ·)
      (healthy.backend line).buffered r = ⟨m.latency, .value reply⟩ ∧
      reply.content = "Hello from " ++ m.name ++ "!" ∧
      (Text.runs reply.content).filter (fun run => !run.toList.all Text.isBlank) = w :: ws ∧
      (∀ d ∈ deltas, d ≠ "") ∧
      (healthy.backend line).Yields r
        ((deltas.map fun d => .ok (.content d)) ++ [.ok (.terminal reply.finishReason (some reply.usage))]) ∧
      String.join deltas = " ".intercalate (w :: ws) ∧
      (String.join deltas = reply.content ↔
        ∀ run ∈ Text.runs reply.content, (∀ c ∈ run.toList, Text.isBlank c = true) → run = " ") ∧
      (failing.backend line).Yields r [.ok (.content w), .error m.unavailable] := by
  have htrimmed := m.isTrimmed_content
  obtain ⟨w, ws, hwords⟩ := List.exists_cons_of_ne_nil (Text.words_ne_nil htrimmed)
  have hhealthy := yields_healthy (m := { m with failure := .healthy }) hwords rfl line r
  have hfailing := yields_midStream (m := { m with failure := .midStream }) hwords rfl line r
  refine ⟨m.reply r, w, ws, rfl, rfl, ?_, ?_, hhealthy, join_pieces w ws, ?_, hfailing⟩
  · rw [← Text.words_eq]
    exact hwords
  · rw [List.forall_mem_cons, List.forall_mem_map]
    refine ⟨Text.ne_empty_of_mem_words (hwords ▸ List.mem_cons_self ..), ?_⟩
    intro v _ hempty
    have hlist := congrArg String.toList hempty
    simp at hlist
  · rw [join_pieces, ← hwords]
    exact Text.intercalate_words_eq_iff htrimmed

/-- A name with two spaces in it has only one in the chunks. -/
example : pieces (content { name := "a  b" }) = ["Hello", " from", " a", " b!"] := by decide +kernel

end Mock

end ChatRace
