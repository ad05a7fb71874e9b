import ChatRace.Proofs.Json.TextSize

/-!
# Readers that take no more than there is

A reader is bounded by a tree if what it makes of the tree is no larger than the texts in it (`Reader.IsBounded`).  A
text has no more characters than its pieces make octets (`Quoted.length_text_le`).  The items of an array are read each
once and the fields of a record at most once, so lists and records of bounded parts are bounded
(`Reader.IsBounded.list`, `Record.IsBounded.reader`).
-/

namespace ChatRace.Json

/-! ### Texts -/

namespace Quoted

private theorem length_octetsBack_le (code : Nat) : (octetsBack code).length ≤ 4 := by
  have hsize := Char.utf8Size_le_four (Char.ofNat code)
  rw [octetsBack, List.length_reverse, Text.toUtf8_eq]
  simpa using hsize

private theorem length_octets_le {stop : QuoteEnd} {seen bytes : List UInt8} {ps : List Piece}
    (h : octets stop seen ps = .ok bytes) : bytes.length ≤ seen.length + piecesSize ps := by
  fun_induction octets stop seen ps with
  | case1 | case4 | case6 | case7 | case8 => cases h
  | case2 seen =>
    obtain rfl := Except.ok.inj h
    rw [List.length_reverse]
    exact Nat.le_add_right ..
  | case3 seen b rest ih =>
    have hrest := ih h
    rw [List.length_cons] at hrest
    rw [piecesSize_cons, Piece.textSize]
    omega
  | case5 seen u _ _ v rest _ ih =>
    -- a surrogate pair is one character
    have hpair := length_octetsBack_le (pair u v)
    have hrest := ih h
    rw [List.length_append] at hrest
    rw [piecesSize_cons, piecesSize_cons, Piece.textSize, Piece.textSize]
    omega
  | case9 seen u rest _ _ ih =>
    have hunit := length_octetsBack_le u
    have hrest := ih h
    rw [List.length_append] at hrest
    rw [piecesSize_cons, Piece.textSize]
    omega

/-- A text has no more characters than its pieces make octets. -/
theorem length_text_le {q : Quoted} {s : String} (h : q.text = .ok s) : s.length ≤ piecesSize q.pieces := by
  unfold text at h
  split at h
  · cases h
  · rename_i bytes hbytes
    split at h
    · rename_i t ht
      obtain rfl := Except.ok.inj h
      have hlength := length_octets_le hbytes
      rw [Text.ofUtf8?_eq_some.1 ht, List.length_nil, Nat.zero_add] at hlength
      exact Nat.le_trans (Text.length_le_toUtf8 t) hlength
    · cases h

end Quoted

/-! ### Readers -/

variable {α β δ : Type}

private theorem of_within_eq_ok {s : Segment} {r : Except Fault α} {a : α} (h : within s r = .ok a) : r = .ok a := by
  unfold within at h
  split at h
  · exact h
  · cases h

private theorem of_atRoot_eq_ok {r : Except Cause α} {a : α} (h : atRoot r = .ok a) : r = .ok a := by
  unfold atRoot at h
  split at h
  · rw [Except.ok.inj h]
  · cases h

namespace Reader

/-- What is read of a tree is no larger than the texts in it. -/
def IsBounded (size : α → Nat) (r : Reader α) : Prop := ∀ v a, r v = .ok a → size a ≤ v.textSize

theorem isBounded_text : IsBounded String.length text := by
  intro v s h
  cases v with
  | string q => exact Quoted.length_text_le (of_atRoot_eq_ok h)
  | null | bool _ | number _ | array _ _ | object _ _ | gap _ => cases h

variable {size : α → Nat} {r : Reader α}

private theorem sum_items_le (h : IsBounded size r) {stop : Stop} {i : Nat} {seen as : List α} {vs : List Node}
    (hread : items r stop i seen vs = .ok as) : (as.map size).sum ≤ (seen.map size).sum + itemsSize vs := by
  induction vs generalizing i seen with
  | nil =>
    unfold items at hread
    split at hread
    · cases hread
    · obtain rfl := Except.ok.inj hread
      rw [List.map_reverse, List.sum_reverse]
      exact Nat.le_add_right ..
  | cons v vs ih =>
    unfold items at hread
    split at hread
    · cases hread
    · rename_i a ha
      have hitem := h v a (of_within_eq_ok ha)
      have hrest := ih hread
      rw [List.map_cons, List.sum_cons] at hrest
      rw [itemsSize]
      omega

theorem IsBounded.list (h : IsBounded size r) : IsBounded (fun as => (as.map size).sum) (list r) := by
  intro v as hread
  cases v with
  | array vs stop =>
    have hsum := sum_items_le h hread
    rwa [List.map_nil, List.sum_nil, Nat.zero_add] at hsum
  | null | bool _ | number _ | string _ | object _ _ | gap _ => cases hread

end Reader

namespace Record

/-- What has been read of a record holds at most the texts that have been read, and makes a record of at most that
size. -/
structure IsBounded (held : δ → Nat) (size : α → Nat) (r : Record δ α) : Prop where
  empty : held r.empty = 0
  read : ∀ f ∈ r.fields, ∀ v d d', f.read v d = .ok d' → held d' ≤ held d + v.textSize
  finish : ∀ d a, r.finish d = .ok a → size a ≤ held d

variable {held : δ → Nat} {size : α → Nat} {r : Record δ α}

private theorem of_valueOf_eq_ok {key : String} {read : Node → Except Fault β} {v : Node} {b : β}
    (h : valueOf key read v = .ok b) : read v = .ok b := by
  unfold valueOf at h
  split at h
  · cases h
  · exact of_within_eq_ok h

private theorem IsBounded.held_entries_le (h : r.IsBounded held size) {stop : Stop} {d d' : δ}
    {es : List (Quoted × Node)} (hread : r.entries stop d es = .ok d') : held d' ≤ held d + entriesSize es := by
  induction es generalizing d with
  | nil =>
    unfold entries at hread
    split at hread
    · cases hread
    · obtain rfl := Except.ok.inj hread
      exact Nat.le_add_right ..
  | cons e es ih =>
    obtain ⟨k, v⟩ := e
    rw [entriesSize, entrySize]
    unfold entries at hread
    split at hread
    · cases hread
    split at hread
    · -- an unknown key
      split at hread
      · cases hread
      · have hrest := ih hread
        omega
    · rename_i f hf
      split at hread
      · cases hread
      split at hread
      · cases hread
      · rename_i d₁ hd₁
        have hfield := h.read f (List.mem_of_find?_eq_some hf) v d d₁ (of_valueOf_eq_ok hd₁)
        have hrest := ih hread
        omega

private theorem IsBounded.held_items_le (h : r.IsBounded held size) {stop : Stop} {d d' : δ} {i : Nat}
    {fs : List (Field δ)} (hfs : ∀ f ∈ fs, f ∈ r.fields) {vs : List Node}
    (hread : r.items stop d i fs vs = .ok d') : held d' ≤ held d + itemsSize vs := by
  induction fs generalizing d i vs with
  | nil =>
    have hlast := of_atRoot_eq_ok hread
    cases hs : surplus stop vs with
    | error c =>
      rw [hs] at hlast
      cases hlast
    | ok u =>
      rw [hs] at hlast
      obtain rfl : d = d' := Except.ok.inj hlast
      exact Nat.le_add_right ..
  | cons f fs ih =>
    obtain ⟨hf, hrest⟩ := List.forall_mem_cons.1 hfs
    cases vs with
    | nil =>
      unfold items at hread
      split at hread
      · cases hread
      split at hread
      · cases hread
      · exact ih hrest hread
    | cons v vs =>
      unfold items at hread
      split at hread
      · cases hread
      · rename_i d₁ hd₁
        have hfield := h.read f hf v d d₁ (of_within_eq_ok hd₁)
        have hitems := ih hrest hread
        rw [itemsSize]
        omega

/-- A record is bounded if what is read of its fields is. -/
theorem IsBounded.reader (h : r.IsBounded held size) : Reader.IsBounded size r.reader := by
  -- what has been read begins with nothing, and the record is no larger than what it ends with
  have hfinish {d : δ} {a : α} {n : Nat} (hd : held d ≤ held r.empty + n)
      (hread : atRoot (r.finish d) = .ok a) : size a ≤ n := by
    have hsize := h.finish d a (of_atRoot_eq_ok hread)
    rw [h.empty] at hd
    omega
  intro v a hread
  cases v with
  | object es stop =>
    simp only [Record.reader] at hread
    split at hread
    · cases hread
    · rename_i d hd
      exact hfinish (h.held_entries_le hd) hread
  | array vs stop =>
    simp only [Record.reader] at hread
    split at hread
    · cases hread
    · rename_i d hd
      exact hfinish (h.held_items_le (fun f hf => hf) hd) hread
  | null | bool _ | number _ | string _ | gap _ => cases hread

end Record

end ChatRace.Json
