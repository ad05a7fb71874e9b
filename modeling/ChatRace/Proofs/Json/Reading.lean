import ChatRace.Proofs.Json.Rendered
import ChatRace.Json.Decode

/-!
# Reading what has been written

A reader of a document gets the tree of the value that has been written (`decode_render`).  Nothing is wrong with
such a tree (`Value.skip_node`), so a record passes over the entries that it has no field for and reads the others
one by one (`Record.Fills`).  The text of a value is one line (`Value.isOneLine_render`).
-/

namespace ChatRace.Json

/-! ### Characters of a written value -/

/-- Whether no control character of ASCII below the blank occurs in a text. -/
def IsOneLine (s : String) : Prop := ∀ c ∈ s.toList, 0x20 ≤ c.toNat

instance (s : String) : Decidable (IsOneLine s) := List.decidableBAll (fun c : Char => 0x20 ≤ c.toNat) s.toList

theorem IsOneLine.append {s t : String} (hs : IsOneLine s) (ht : IsOneLine t) : IsOneLine (s ++ t) := by
  intro c hc
  rw [String.toList_append, List.mem_append] at hc
  exact hc.elim (hs c) (ht c)

theorem IsOneLine.intercalate {sep : String} (hsep : IsOneLine sep) {parts : List String}
    (h : ∀ s ∈ parts, IsOneLine s) : IsOneLine (sep.intercalate parts) := by
  induction parts with
  | nil => simp [IsOneLine]
  | cons s parts ih =>
    have hs := h s (List.mem_cons_self ..)
    cases parts with
    | nil => simpa using hs
    | cons s' parts =>
      rw [String.intercalate_cons_cons]
      exact (hs.append hsep).append (ih fun t ht => h t (List.mem_cons_of_mem s ht))

namespace Value

private theorem renderItems_eq (vs : List Value) : renderItems vs = vs.map render := by
  induction vs with
  | nil => rfl
  | cons v vs ih => rw [renderItems, ih, List.map_cons]

private theorem renderEntries_eq (es : List (String × Value)) : renderEntries es = es.map renderEntry := by
  induction es with
  | nil => rfl
  | cons e es ih => rw [renderEntries, ih, List.map_cons]

private theorem le_of_mem_escape {c d : Char} (h : d ∈ escape c) : 0x20 ≤ d.toNat := by
  unfold escape at h
  split at h
  iterate 7
    simp only [List.mem_cons, List.not_mem_nil, or_false] at h
    rcases h with rfl | rfl <;> decide
  split at h
  · rename_i hcontrol
    have hcodes : ∀ n < 0x20, (['\\', 'u', '0', '0'] ++ hexPair n).all (0x20 ≤ ·.toNat) = true := by decide
    exact of_decide_eq_true (List.all_eq_true.1 (hcodes _ hcontrol) d h)
  · rename_i hcontrol
    rw [List.mem_singleton] at h
    rw [h]
    exact Nat.not_lt.1 hcontrol

private theorem isOneLine_quote (s : String) : IsOneLine (quote s) := by
  have hinside : IsOneLine (String.ofList (s.toList.flatMap escape)) := by
    intro d hd
    rw [String.toList_ofList] at hd
    obtain ⟨c, -, hd⟩ := List.mem_flatMap.1 hd
    exact le_of_mem_escape hd
  have hmark : IsOneLine "\"" := by decide
  exact (hmark.append hinside).append hmark

private theorem isOneLine_int (n : Int) : IsOneLine (toString n) := by
  have hdigits (m : Nat) : IsOneLine (Nat.repr m) := by
    intro c hc
    rw [Nat.toList_repr] at hc
    have hdigit := Nat.isDigit_of_mem_toDigits (by decide) (by decide) hc
    simp only [Char.isDigit, Bool.and_eq_true, decide_eq_true_eq] at hdigit
    exact Nat.le_trans (by decide) (UInt32.le_iff_toNat_le.1 hdigit.1)
  cases n with
  | ofNat n => exact hdigits n
  | negSucc n =>
    have hsign : IsOneLine "-" := by decide
    exact hsign.append (hdigits (n + 1))

/-- The text of a value is one line. -/
theorem isOneLine_render {v : Value} (hv : v.IsExact) : IsOneLine v.render := by
  have hcomma : IsOneLine "," := by decide
  induction hv with
  | null =>
    have hnull : IsOneLine "null" := by decide
    exact hnull
  | bool p => cases p <;> decide
  | int n => exact isOneLine_int n
  | text s => exact isOneLine_quote s
  | @array items _ ih =>
    have hopen : IsOneLine "[" := by decide
    have hclose : IsOneLine "]" := by decide
    have hitems : ∀ s ∈ renderItems items, IsOneLine s := by
      rw [renderItems_eq, List.forall_mem_map]
      exact ih
    exact (hopen.append (hcomma.intercalate hitems)).append hclose
  | @object entries _ ih =>
    have hopen : IsOneLine "\x7b" := by decide
    have hclose : IsOneLine "\x7d" := by decide
    have hcolon : IsOneLine ":" := by decide
    have hentries : ∀ s ∈ renderEntries entries, IsOneLine s := by
      rw [renderEntries_eq, List.forall_mem_map]
      rintro ⟨k, v⟩ he
      exact ((isOneLine_quote k).append hcolon).append (ih (k, v) he)
    exact (hopen.append (hcomma.intercalate hentries)).append hclose

/-! ### Trees of written values -/

/-- A value stands where it has been written. -/
theorem node_ne_gap {v : Value} (hv : v.IsExact) (g : Gap) : v.node ≠ .gap g := by
  cases hv <;> simp [node]

private theorem skipItems_nodes {vs : List Value} (h : ∀ v ∈ vs, v.node.skip = .ok ()) :
    skipItems (nodes vs) = .ok () := by
  induction vs with
  | nil => rfl
  | cons v vs ih =>
    rw [nodes, skipItems, h v (List.mem_cons_self ..)]
    exact ih fun u hu => h u (List.mem_cons_of_mem v hu)

private theorem skipEntries_entryNodes {es : List (String × Value)} (h : ∀ e ∈ es, e.2.node.skip = .ok ()) :
    skipEntries (entryNodes es) = .ok () := by
  induction es with
  | nil => rfl
  | cons e es ih =>
    obtain ⟨k, v⟩ := e
    have he : skipEntry (entryNode (k, v)) = .ok () := h (k, v) (List.mem_cons_self ..)
    rw [entryNodes, skipEntries, he]
    exact ih fun u hu => h u (List.mem_cons_of_mem (k, v) hu)

/-- Nothing is wrong with a written value that is passed over. -/
theorem skip_node {v : Value} (hv : v.IsExact) : v.node.skip = .ok () := by
  induction hv with
  | null | bool | int | text => rfl
  | array _ ih => rw [node, Node.skip, skipItems_nodes ih]; rfl
  | object _ ih => rw [node, Node.skip, skipEntries_entryNodes ih]; rfl

end Value

/-! ### Reading what has been written -/

/-- Reading the text of a value is reading its tree. -/
theorem decode_render (r : Reader α) {v : Value} (hv : v.IsExact) :
    decode r (Text.toUtf8 v.render) = r v.node := by
  rw [decode, Document.ofBytes_render hv]
  cases r v.node <;> rfl

theorem Reader.text_node (s : String) : Reader.text (Value.text s).node = .ok s := by
  simp [Reader.text, Value.node, atRoot]

/-- A text where there may be `null`. -/
theorem Reader.optional_text_node (s : String) :
    Reader.optional Reader.text (Value.text s).node = .ok (some s) :=
  congrArg (Except.map some) (Reader.text_node s)

theorem Reader.word_node (n : UInt32) : Reader.word (Value.int n.toNat).node = .ok n := by
  have hvalue : (numeralOf n.toNat).value = .ok (.natural n.toNat) :=
    value_numeralOf (Nat.lt_trans n.toNat_lt (by decide))
  simp [Reader.word, Value.node, hvalue, n.toNat_lt]

/-- An array is read item by item. -/
theorem Reader.list_node {r : Reader α} {vs : List Value} {as : List α}
    (h : List.Forall₂ (fun v a => r v.node = .ok a) vs as) : Reader.list r (Value.array vs).node = .ok as := by
  have hitems (i : Nat) (seen : List α) :
      Reader.items r .closed i seen (Value.nodes vs) = .ok (seen.reverse ++ as) := by
    induction h generalizing i seen with
    | nil => simp [Value.nodes, Reader.items, Stop.arrayCause?]
    | cons hv _ ih => simp [Value.nodes, Reader.items, hv, within, ih]
  exact hitems 0 []

namespace Record

variable {δ α : Type} {r : Record δ α} {d d' d'' : δ} {k : String} {v : Value} {es : List (String × Value)}

/-- Whether the written entries of an object take what has been read of a record from one state to another. -/
def Fills (r : Record δ α) (d : δ) (es : List (String × Value)) (d' : δ) : Prop :=
  r.entries .closed d (Value.entryNodes es) = .ok d'

private theorem valueOf_node (read : Node → Except Fault β) (hv : v.IsExact) :
    valueOf k read v.node = within (.key k) (read v.node) := by
  unfold valueOf
  split
  · rename_i hgap
    exact absurd hgap (Value.node_ne_gap hv _)
  · rfl

theorem Fills.nil (r : Record δ α) (d : δ) : r.Fills d [] d := rfl

/-- An entry that the record has no field for is passed over. -/
theorem Fills.unknown (hk : r.fields.find? (·.key == k) = none) (hv : v.IsExact) (hes : r.Fills d es d') :
    r.Fills d ((k, v) :: es) d' := by
  rw [Fills, Value.entryNodes, Value.entryNode, entries, text_quotedOf]
  simp only [hk, valueOf_node _ hv, Value.skip_node hv, atRoot, within]
  exact hes

/-- The entry for a field that has not come is read. -/
theorem Fills.field {f : Field δ} (hk : r.fields.find? (·.key == k) = some f) (hset : f.isSet d = false)
    (hv : v.IsExact) (hread : f.read v.node d = .ok d') (hes : r.Fills d' es d'') :
    r.Fills d ((k, v) :: es) d'' := by
  rw [Fills, Value.entryNodes, Value.entryNode, entries, text_quotedOf]
  simp only [hk, hset, Bool.false_eq_true, if_false, valueOf_node _ hv, hread, within]
  exact hes

/-- A record is read from its written entries. -/
theorem reader_node (h : r.Fills r.empty es d) : r.reader (Value.object es).node = atRoot (r.finish d) := by
  have hentries : r.entries .closed r.empty (Value.entryNodes es) = .ok d := h
  rw [Value.node, reader]
  simp only [hentries]

/-! ### One field -/

/-- A record of which one field is wanted and nothing else. -/
def only (key : String) (read : Reader α) : Record (Option α) α where
  name := key
  fields := [{ key, required := true, isSet := Option.isSome, read := fun v _ => (read v).map some }]
  empty := none
  finish := require key

variable {key : String} {read : Reader α} {d d' : Option α} {a : α}

private theorem fills_only_of_ne (hes : (Value.object es).IsExact) (h : ∀ e ∈ es, e.1 ≠ key)
    {es' : List (String × Value)} (hes' : (only key read).Fills d es' d') : (only key read).Fills d (es ++ es') d' := by
  induction es with
  | nil => exact hes'
  | cons e es ih =>
    rw [Value.isExact_object, List.forall_mem_cons] at hes
    rw [List.forall_mem_cons] at h
    have hfind : (only key read).fields.find? (·.key == e.1) = none := by simp [only, h.1.symm]
    exact .unknown hfind hes.1 (ih (Value.isExact_object.2 hes.2) h.2)

/-- Of an object that has a field once, what it has there is read. -/
theorem reader_only (before after : List (String × Value))
    (hexact : (Value.object (before ++ (key, v) :: after)).IsExact) (hbefore : ∀ e ∈ before, e.1 ≠ key)
    (hread : read v.node = .ok a) (hafter : ∀ e ∈ after, e.1 ≠ key) :
    (only key read).reader (Value.object (before ++ (key, v) :: after)).node = .ok a := by
  rw [Value.isExact_object, List.forall_mem_append, List.forall_mem_cons] at hexact
  obtain ⟨hbeforeExact, hv, hafterExact⟩ := hexact
  have hrest : (only key read).Fills (some a) (after ++ []) (some a) :=
    fills_only_of_ne (Value.isExact_object.2 hafterExact) hafter (.nil _ _)
  rw [List.append_nil] at hrest
  have hfind : (only key read).fields.find? (·.key == key) = (only key read).fields.head? := by simp [only]
  have hfield : (only key read).Fills none ((key, v) :: after) (some a) :=
    .field hfind rfl hv (congrArg (Except.map some) hread) hrest
  exact reader_node (fills_only_of_ne (Value.isExact_object.2 hbeforeExact) hbefore hfield)

end Record

end ChatRace.Json
