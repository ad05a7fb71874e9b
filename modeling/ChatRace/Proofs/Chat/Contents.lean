import ChatRace.Chat.Request
import ChatRace.Proofs.Json.BoundedReading

/-!
# How much a conversation says

The characters of all messages of a conversation (`contentLength`).  A request that is read from a document has no more
of them than there is text in the document (`ClientRequest.isBounded_reader`).
-/

namespace ChatRace.Chat

open Json

/-- The number of characters of all messages. -/
def contentLength (messages : List Message) : Nat := (messages.map fun m => m.content.length).sum

/-- A field that is filled in with what has been read holds no more than what has been read. -/
private theorem held_map_le {β δ : Type} {held : δ → Nat} {r : Except Fault β} {fill : β → δ} {d : δ} {n : Nat}
    (h : r.map fill = .ok d) (hfill : ∀ b, r = .ok b → held (fill b) ≤ n) : held d ≤ n := by
  cases r with
  | error f => cases h
  | ok b =>
    obtain rfl := Except.ok.inj h
    exact hfill b rfl

/-! ### Messages -/

namespace Message

/-- The number of characters that have been read of a message. -/
private def Draft.held (d : Draft) : Nat := d.content.elim 0 String.length

private theorem isBounded_schema : Record.IsBounded Draft.held (fun m => m.content.length) schema where
  empty := rfl
  read := by
    intro f hf v d d' h
    simp only [schema, List.mem_cons, List.not_mem_nil, or_false] at hf
    rcases hf with rfl | rfl
    · exact held_map_le h fun _ _ => Nat.le_add_right ..
    · exact held_map_le h fun s hs => Nat.le_add_left_of_le (Reader.isBounded_text v s hs)
  finish := by
    rintro ⟨role, content⟩ m h
    cases role <;> cases content <;> cases h
    exact Nat.le_refl _

end Message

/-! ### Requests -/

namespace ClientRequest

/-- The number of characters of the messages that have been read of a request. -/
private def Draft.held (d : Draft) : Nat := d.messages.elim 0 contentLength

private theorem isBounded_schema : Record.IsBounded Draft.held (fun q => contentLength q.messages) schema where
  empty := rfl
  read := by
    intro f hf v d d' h
    simp only [schema, List.mem_cons, List.not_mem_nil, or_false] at hf
    rcases hf with rfl | rfl | rfl | rfl | rfl | rfl | rfl | rfl
    case inr.inl =>
      exact held_map_le h fun ms hms => Nat.le_add_left_of_le (Message.isBounded_schema.reader.list v ms hms)
    all_goals exact held_map_le h fun _ _ => Nat.le_add_right ..
  finish := by
    rintro ⟨model, messages, _, _, _, _, _, _⟩ q h
    cases model <;> cases messages <;> cases h
    exact Nat.le_refl _

/-- The messages of a request have no more characters than there is text in the document. -/
theorem isBounded_reader : Reader.IsBounded (fun q => contentLength q.messages) reader :=
  isBounded_schema.reader

end ClientRequest

end ChatRace.Chat
