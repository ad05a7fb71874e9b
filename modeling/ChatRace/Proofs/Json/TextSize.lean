import ChatRace.Json.Decode
import ChatRace.Proofs.Text.Octets

/-!
# How much text a document holds

The texts that are read from a document have together no more characters than the document has octets.  Each part of
the way from the octets to a value keeps this.  An octet adds at most one to the text of the tokens
(`Token.Scan.textSize_step`), a token adds at most its own text to the tree (`Document.textSize_step`), and a reader
takes no text from the tree twice (`Reader.IsBounded`).
-/

namespace ChatRace.Json

/-! ### Tokens -/

/-- The most octets that a piece of a quoted string makes in its text. -/
def Piece.textSize : Piece → Nat
  | .octet _ => 1
  | .unit _ => 4

/-- The most octets that pieces make. -/
def piecesSize (ps : List Piece) : Nat := (ps.map Piece.textSize).sum

@[simp] theorem piecesSize_nil : piecesSize [] = 0 := rfl

@[simp] theorem piecesSize_cons (p : Piece) (ps : List Piece) : piecesSize (p :: ps) = p.textSize + piecesSize ps :=
  List.sum_cons

namespace Token

/-- The most octets that the text of a token has. -/
def textSize : Token → Nat
  | .string q => piecesSize q.pieces
  | _ => 0

/-- The same for the tokens of a document. -/
def textSizes (ts : List Token) : Nat := (ts.map textSize).sum

@[simp] theorem textSizes_cons (t : Token) (ts : List Token) : textSizes (t :: ts) = t.textSize + textSizes ts :=
  List.sum_cons

theorem textSizes_reverse (ts : List Token) : textSizes ts.reverse = textSizes ts := by
  rw [textSizes, List.map_reverse, List.sum_reverse, textSizes]

@[simp] theorem textSize_ofPieces (ps : List Piece) (stop : QuoteEnd) :
    (ofPieces ps stop).textSize = piecesSize ps := by
  rw [ofPieces, textSize, piecesSize, List.map_reverse, List.sum_reverse, piecesSize]

/-- The text of what is being read.  The octets of a code count before there is a piece for it. -/
def Mode.textSize : Mode → Nat
  | .between | .numeral _ | .stopped => 0
  | .word _ t => t.textSize
  | .quoted ps | .escape ps => piecesSize ps
  | .hex ps seen => piecesSize ps + seen.length

namespace Scan

/-- The text of a pass over the octets. -/
def textSize (s : Scan) : Nat := textSizes s.tokens + s.mode.textSize

@[simp] theorem textSize_mk (ts : List Token) (mode : Mode) :
    (⟨ts, mode⟩ : Scan).textSize = textSizes ts + mode.textSize := rfl

@[simp] theorem textSize_emit (ts : List Token) (t : Token) : (emit ts t).textSize = t.textSize + textSizes ts :=
  textSizes_cons t ts

@[simp] theorem textSize_stop (ts : List Token) (t : Token) : (stop ts t).textSize = t.textSize + textSizes ts :=
  textSizes_cons t ts

private theorem textSize_first (ts : List Token) (b : UInt8) : (first ts b).textSize = textSizes ts := by
  unfold first
  split
  case h_16 => split <;> simp [Mode.textSize, Token.textSize]
  all_goals simp [Mode.textSize, Token.textSize]

/-- An octet adds at most one to the text. -/
theorem textSize_step (s : Scan) (b : UInt8) : (s.step b).textSize ≤ s.textSize + 1 := by
  obtain ⟨ts, mode⟩ := s
  cases mode with
  | between =>
    simp only [step, textSize_first, textSize_mk]
    omega
  | stopped => exact Nat.le_add_right ..
  | word rest t =>
    cases rest with
    | nil =>
      simp only [step, textSize_first, textSizes_cons, textSize_mk, Mode.textSize]
      omega
    | cons c rest =>
      simp only [step]
      split
      · simp only [textSize_stop, textSize_mk, Token.textSize]
        omega
      · split <;> simp only [textSize_emit, textSize_mk, Mode.textSize] <;> omega
  | numeral d =>
    simp only [step]
    split
    · exact Nat.le_add_right ..
    · simp only [textSize_first, textSizes_cons, textSize_mk, Token.textSize]
      omega
    · simp only [textSize_stop, textSize_mk, Token.textSize]
      omega
  | quoted ps =>
    simp only [step]
    split
    · simp only [textSize_emit, textSize_ofPieces, textSize_mk, Mode.textSize]
      omega
    split
    · exact Nat.le_add_right ..
    split
    · simp only [textSize_stop, textSize_ofPieces, textSize_mk, Mode.textSize]
      omega
    · simp only [piecesSize_cons, textSize_mk, Mode.textSize, Piece.textSize]
      omega
  | escape ps =>
    simp only [step]
    split
    · exact Nat.le_add_right ..
    split
    · simp only [piecesSize_cons, textSize_mk, Mode.textSize, Piece.textSize]
      omega
    · simp only [textSize_stop, textSize_ofPieces, textSize_mk, Mode.textSize]
      omega
  | hex ps seen =>
    simp only [step]
    split
    · simp only [textSize_mk, Mode.textSize, List.length_cons]
      omega
    split
    · -- the piece takes the place of the octets that have counted for it
      simp only [piecesSize_cons, textSize_mk, Mode.textSize, Piece.textSize]
      omega
    · simp only [textSize_stop, textSize_ofPieces, textSize_mk, Mode.textSize]
      omega

theorem textSize_run (s : Scan) (bytes : List UInt8) : (s.run bytes).textSize ≤ s.textSize + bytes.length := by
  induction bytes generalizing s with
  | nil => exact Nat.le_refl _
  | cons b bytes ih =>
    have hstep := s.textSize_step b
    have hrest := ih (s.step b)
    rw [run, List.foldl_cons, ← run, List.length_cons]
    omega

/-- The last token has no more text than what was being read. -/
private theorem textSizes_last_le {t : Token} {n : Nat} (h : t.textSize ≤ n) (ts : List Token) :
    textSizes (t :: ts).reverse ≤ textSizes ts + n := by
  rw [textSizes_reverse, textSizes_cons, Nat.add_comm]
  exact Nat.add_le_add_left h _

theorem textSizes_finish (s : Scan) : textSizes s.finish ≤ s.textSize := by
  obtain ⟨ts, mode⟩ := s
  cases mode with
  | between | stopped => exact Nat.le_of_eq (textSizes_reverse ts)
  | word rest t =>
    cases rest with
    | nil => exact textSizes_last_le (Nat.le_refl _) ts
    | cons c rest => exact textSizes_last_le (t := .cutWord true) (Nat.zero_le _) ts
  | numeral d =>
    refine textSizes_last_le ?_ ts
    split <;> exact Nat.le_refl 0
  | quoted ps | escape ps =>
    have hlast : (ofPieces ps .ended).textSize ≤ piecesSize ps := Nat.le_of_eq (textSize_ofPieces ps _)
    exact textSizes_last_le hlast ts
  | hex ps seen =>
    have hlast : (ofPieces ps .ended).textSize ≤ piecesSize ps + seen.length := by simp
    exact textSizes_last_le hlast ts

end Scan

end Token

/-- The tokens of a document have no more text than the document has octets. -/
theorem textSizes_tokens (bytes : List UInt8) : Token.textSizes (tokens bytes) ≤ bytes.length := by
  have hrun := Token.Scan.textSize_run ⟨[], .between⟩ bytes
  have hfresh : (⟨[], .between⟩ : Token.Scan).textSize = 0 := rfl
  rw [hfresh, Nat.zero_add] at hrun
  exact Nat.le_trans (Token.Scan.textSizes_finish _) hrun

/-! ### Trees -/

mutual

/-- The most octets that the texts of the values in a tree have. -/
def Node.textSize : Node → Nat
  | .string q => piecesSize q.pieces
  | .array items _ => itemsSize items
  | .object entries _ => entriesSize entries
  | .null | .bool _ | .number _ | .gap _ => 0

/-- The same for the items of an array. -/
def itemsSize : List Node → Nat
  | [] => 0
  | v :: rest => v.textSize + itemsSize rest

/-- The same for the entries of an object. -/
def entriesSize : List (Quoted × Node) → Nat
  | [] => 0
  | e :: rest => entrySize e + entriesSize rest

/-- The same for an entry of an object. -/
def entrySize : Quoted × Node → Nat
  | (_, v) => v.textSize

end

private theorem itemsSize_eq (vs : List Node) : itemsSize vs = (vs.map Node.textSize).sum := by
  induction vs with
  | nil => rfl
  | cons v vs ih => rw [itemsSize, ih, List.map_cons, List.sum_cons]

private theorem entriesSize_eq (es : List (Quoted × Node)) : entriesSize es = (es.map entrySize).sum := by
  induction es with
  | nil => rfl
  | cons e es ih => rw [entriesSize, ih, List.map_cons, List.sum_cons]

private theorem itemsSize_reverse (vs : List Node) : itemsSize vs.reverse = itemsSize vs := by
  rw [itemsSize_eq, itemsSize_eq, List.map_reverse, List.sum_reverse]

private theorem entriesSize_reverse (es : List (Quoted × Node)) : entriesSize es.reverse = entriesSize es := by
  rw [entriesSize_eq, entriesSize_eq, List.map_reverse, List.sum_reverse]

private theorem textSize_array_reverse (items : List Node) (stop : Stop) :
    (Node.array items.reverse stop).textSize = itemsSize items :=
  itemsSize_reverse items

private theorem textSize_object_reverse (entries : List (Quoted × Node)) (stop : Stop) :
    (Node.object entries.reverse stop).textSize = entriesSize entries :=
  entriesSize_reverse entries

namespace Document

/-- The text in a container that waits for a value. -/
def Frame.textSize : Frame → Nat
  | .array items => itemsSize items
  | .object entries _ => entriesSize entries

/-- The text in the containers around a place. -/
def outerSize (outer : List Frame) : Nat := (outer.map Frame.textSize).sum

/-- The text in the innermost open container. -/
def Place.textSize : Place → Nat
  | .root | .firstItem | .firstKey => 0
  | .nextItem items | .afterItem items => itemsSize items
  | .nextKey entries | .colon entries _ | .entry entries _ | .afterEntry entries => entriesSize entries

/-- The text in a document under construction. -/
def Build.textSize : Build → Nat
  | .within outer place => outerSize outer + place.textSize
  | .done d => d.root.textSize

@[simp] theorem outerSize_cons (f : Frame) (outer : List Frame) :
    outerSize (f :: outer) = f.textSize + outerSize outer :=
  List.sum_cons

@[simp] theorem textSize_within (outer : List Frame) (place : Place) :
    (Build.within outer place).textSize = outerSize outer + place.textSize := rfl

@[simp] private theorem textSize_deliver (v : Node) (outer : List Frame) :
    (deliver v outer).textSize = v.textSize + outerSize outer := by
  cases outer with
  | nil => rfl
  | cons f outer =>
    cases f with
    | array items =>
      simp only [deliver, textSize_within, Place.textSize, itemsSize, outerSize_cons, Frame.textSize]
      omega
    | object entries key =>
      simp only [deliver, textSize_within, Place.textSize, entriesSize, entrySize, outerSize_cons, Frame.textSize]
      omega

private theorem textSize_cutAt (v : Node) (outer : List Frame) :
    (cutAt v outer).root.textSize = v.textSize + outerSize outer := by
  induction outer generalizing v with
  | nil => rfl
  | cons f outer ih =>
    have hclose : (f.close v).textSize = v.textSize + f.textSize := by
      cases f with
      | array items => exact textSize_array_reverse ..
      | object entries key => exact textSize_object_reverse ..
    have hrest := ih (f.close v)
    rw [cutAt, List.foldl_cons, ← cutAt, hrest, hclose, outerSize_cons, Nat.add_assoc]

@[simp] private theorem textSize_halt (v : Node) (outer : List Frame) :
    (halt v outer).textSize = v.textSize + outerSize outer :=
  textSize_cutAt v outer

private theorem textSize_value (outer : List Frame) (t : Token) :
    (value outer t).textSize = outerSize outer + t.textSize := by
  cases t with
  | openArray | openObject => rfl
  | null | bool _ | number _ | string _ =>
    simp only [value, textSize_deliver, Node.textSize, Token.textSize]
    omega
  | comma | colon | closeArray | closeObject | junk | cutWord _ | cutNumeral _ =>
    simp only [value, textSize_halt, Token.node, Node.textSize, Token.textSize]
    omega

private theorem textSize_key (outer : List Frame) (entries : List (Quoted × Node)) (t : Token) :
    (key outer entries t).textSize = outerSize outer + entriesSize entries := by
  unfold key
  split
  · rfl
  · rw [textSize_halt, textSize_object_reverse, Nat.add_comm]

/-- A token adds at most its own text. -/
theorem textSize_step (b : Build) (t : Token) : (step b t).textSize ≤ b.textSize + t.textSize := by
  cases b with
  | done d => exact Nat.le_add_right ..
  | within outer place =>
    rw [textSize_within]
    cases place with
    | root => exact Nat.le_of_eq (textSize_value outer t)
    | firstItem =>
      simp only [step, Place.textSize]
      split
      · rw [textSize_deliver, Node.textSize, itemsSize]
        omega
      · rw [textSize_value, outerSize_cons, Frame.textSize, itemsSize]
        omega
    | nextItem items =>
      simp only [step, Place.textSize]
      split
      · rw [textSize_halt, textSize_array_reverse]
        omega
      · rw [textSize_value, outerSize_cons, Frame.textSize]
        omega
    | afterItem items =>
      simp only [step, Place.textSize]
      split
      · rw [textSize_deliver, textSize_array_reverse]
        omega
      split
      · exact Nat.le_add_right ..
      · rw [textSize_halt, textSize_array_reverse]
        omega
    | firstKey =>
      simp only [step, Place.textSize]
      split
      · rw [textSize_deliver, Node.textSize, entriesSize]
        omega
      · rw [textSize_key, entriesSize]
        omega
    | nextKey entries =>
      simp only [step, Place.textSize]
      split
      · rw [textSize_halt, textSize_object_reverse]
        omega
      · rw [textSize_key]
        omega
    | colon entries k =>
      simp only [step, Place.textSize]
      split
      · exact Nat.le_add_right ..
      · rw [textSize_halt, textSize_object_reverse, entriesSize, entrySize, Node.textSize]
        omega
    | entry entries k =>
      simp only [step, Place.textSize]
      rw [textSize_value, outerSize_cons, Frame.textSize]
      omega
    | afterEntry entries =>
      simp only [step, Place.textSize]
      split
      · rw [textSize_deliver, textSize_object_reverse]
        omega
      split
      · exact Nat.le_add_right ..
      · rw [textSize_halt, textSize_object_reverse]
        omega

private theorem textSize_foldl (b : Build) (ts : List Token) :
    (ts.foldl step b).textSize ≤ b.textSize + Token.textSizes ts := by
  induction ts generalizing b with
  | nil => exact Nat.le_refl _
  | cons t ts ih =>
    have hstep := textSize_step b t
    have hrest := ih (step b t)
    rw [List.foldl_cons, Token.textSizes_cons]
    omega

private theorem textSize_finish (b : Build) : (finish b).root.textSize = b.textSize := by
  cases b with
  | done d => rfl
  | within outer place =>
    rw [finish, textSize_cutAt, Build.textSize, Nat.add_comm]
    cases place <;> simp only [Place.close, Place.textSize, Node.textSize, itemsSize_reverse, entriesSize_reverse,
      itemsSize, entriesSize, entrySize, Nat.zero_add]

/-- The tree of a document has no more text than the document has octets. -/
theorem textSize_ofBytes (bytes : List UInt8) : (ofBytes bytes).root.textSize ≤ bytes.length := by
  have htokens := textSizes_tokens bytes
  have htree := textSize_foldl (.within [] .root) (tokens bytes)
  have hempty : (Build.within [] .root).textSize = 0 := rfl
  rw [ofBytes, ofTokens, textSize_finish]
  omega

end Document

end ChatRace.Json
