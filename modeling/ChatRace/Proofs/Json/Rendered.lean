import ChatRace.Proofs.Json.Written

/-!
# Documents of written values

The text of a value makes a document that holds its tree and nothing else (`ofBytes_render`).  The tree is built
while the text is read: a piece of text leads from one document under construction to another (`Document.Leads`),
and the text of a value leads from where a value is due to where it has been delivered.  Single-precision numbers
are left out, whose texts are no integers.
-/

namespace ChatRace.Json

open Token

namespace Value

/-- Whether no single-precision number occurs in a value. -/
inductive IsExact : Value → Prop
  | null : IsExact .null
  | bool (b : Bool) : IsExact (.bool b)
  | int (n : Int) : IsExact (.int n)
  | text (s : String) : IsExact (.text s)
  | array {items : List Value} (h : ∀ v ∈ items, IsExact v) : IsExact (.array items)
  | object {entries : List (String × Value)} (h : ∀ e ∈ entries, IsExact e.2) : IsExact (.object entries)

attribute [simp] IsExact.null IsExact.bool IsExact.int IsExact.text

@[simp] theorem isExact_array {items : List Value} : (array items).IsExact ↔ ∀ v ∈ items, v.IsExact :=
  ⟨fun | .array h => h, .array⟩

@[simp] theorem isExact_object {entries : List (String × Value)} :
    (object entries).IsExact ↔ ∀ e ∈ entries, e.2.IsExact :=
  ⟨fun | .object h => h, .object⟩

mutual

/-- The tree in the text of a value. -/
def node : Value → Node
  | .null => .null
  | .bool b => .bool b
  | .int n => .number (numeralOf n)
  | .single x => (Document.ofBytes (Text.toUtf8 (numeral x))).root
  | .text s => .string (quotedOf s)
  | .array items => .array (nodes items) .closed
  | .object entries => .object (entryNodes entries) .closed

/-- The trees in the texts of the items of an array. -/
def nodes : List Value → List Node
  | [] => []
  | v :: rest => v.node :: nodes rest

/-- The trees in the texts of the entries of an object. -/
def entryNodes : List (String × Value) → List (Quoted × Node)
  | [] => []
  | e :: rest => entryNode e :: entryNodes rest

/-- The tree in the text of an entry of an object. -/
def entryNode : String × Value → Quoted × Node
  | (k, v) => (quotedOf k, v.node)

end

/-- The tree of an object has for a key the tree of what the object has for it. -/
theorem member?_node (key : String) (entries : List (String × Value)) :
    (object entries).node.member? key = ((object entries).member? key).map node := by
  rw [node, Node.member?, member?]
  induction entries with
  | nil => rfl
  | cons e entries ih =>
    obtain ⟨k, v⟩ := e
    have hkey : ((quotedOf k).text.toOption == some key) = (key == k) := by
      simp [Except.toOption, Bool.beq_comm]
    rw [entryNodes, entryNode, List.find?_cons, List.lookup_cons, hkey]
    cases key == k
    · exact ih
    · rfl

end Value

namespace Document

/-! ### Texts that lead from one place to another -/

/-- The document under construction after some tokens, last first. -/
def built (ts : List Token) : Build := ts.foldr (fun t b => step b t) (.within [] .root)

theorem built_cons (t : Token) (ts : List Token) : built (t :: ts) = step (built ts) t := rfl

/-- Whether a text that stands where a token begins turns one document under construction into another. -/
def Leads (text : String) (b b' : Build) : Prop :=
  ∀ ts, built ts = b → ∃ ts', Rests ts' ((⟨ts, .between⟩ : Scan).run (Text.toUtf8 text)) ∧ built ts' = b'

/-- Whether a text makes one token and no octet behind it belongs to the token. -/
def IsTextOf (text : String) (t : Token) : Prop :=
  ∀ ts, (⟨ts, .between⟩ : Scan).run (Text.toUtf8 text) = ⟨t :: ts, .between⟩

/-- Whether a text is a comma or a closing bracket, which end an integer in front of them. -/
structure IsMark (text : String) (t : Token) : Prop where
  isTextOf : IsTextOf text t
  octet : ∃ b, (b = 0x2C ∨ b = 0x5D ∨ b = 0x7D) ∧ Text.toUtf8 text = [b]

theorem isMark_comma : IsMark "," .comma := ⟨fun _ => rfl, 0x2C, .inl rfl, rfl⟩

theorem isMark_closeArray : IsMark "]" .closeArray := ⟨fun _ => rfl, 0x5D, .inr (.inl rfl), rfl⟩

theorem isMark_closeObject : IsMark "\x7d" .closeObject := ⟨fun _ => rfl, 0x7D, .inr (.inr rfl), rfl⟩

namespace Leads

variable {b b' b'' : Build} {x y z : String} {t : Token}

theorem empty (b : Build) : Leads "" b b := by
  intro ts hts
  exact ⟨ts, Rests.between ts, hts⟩

theorem token_append (h : IsTextOf x t) (hy : Leads y (step b t) b') : Leads (x ++ y) b b' := by
  intro ts hts
  rw [Text.toUtf8_append, Scan.run_append, h ts]
  exact hy (t :: ts) (by rw [built_cons, hts])

theorem of_isTextOf (h : IsTextOf x t) (b : Build) : Leads x b (step b t) := by
  simpa using token_append h (empty (step b t))

theorem append_mark_append (hx : Leads x b b') (hy : IsMark y t) (hz : Leads z (step b' t) b'') :
    Leads (x ++ y ++ z) b b'' := by
  intro ts hts
  obtain ⟨ts', hrests, hbuilt⟩ := hx ts hts
  obtain ⟨mark, hmark, hoctets⟩ := hy.octet
  have hstep : ((⟨ts, .between⟩ : Scan).run (Text.toUtf8 x)).run (Text.toUtf8 y) = ⟨t :: ts', .between⟩ := by
    have hfirst := hy.isTextOf ts'
    rw [hoctets] at hfirst ⊢
    exact (hrests.step_eq hmark).trans hfirst
  rw [Text.toUtf8_append, Text.toUtf8_append, Scan.run_append, Scan.run_append, hstep]
  exact hz (t :: ts') (by rw [built_cons, hbuilt])

theorem append_mark (hx : Leads x b b') (hy : IsMark y t) : Leads (x ++ y) b (step b' t) := by
  simpa using append_mark_append hx hy (empty (step b' t))

end Leads

/-! ### Values -/

/-- Whether a value is due that goes into the given containers. -/
def Awaits (b : Build) (outer : List Frame) : Prop := ∀ t ≠ .closeArray, step b t = value outer t

theorem awaits_root : Awaits (.within [] .root) [] := fun _ _ => rfl

private theorem awaits_firstItem (outer : List Frame) : Awaits (.within outer .firstItem) (.array [] :: outer) :=
  fun _ h => if_neg h

private theorem awaits_nextItem (outer : List Frame) (items : List Node) :
    Awaits (.within outer (.nextItem items)) (.array items :: outer) :=
  fun _ h => if_neg h

private theorem awaits_entry (outer : List Frame) (entries : List (Quoted × Node)) (key : Quoted) :
    Awaits (.within outer (.entry entries key)) (.object entries key :: outer) :=
  fun _ _ => rfl

/-- Whether the text of a value delivers its tree wherever a value is due. -/
def Delivers (v : Value) : Prop := ∀ b outer, Awaits b outer → Leads v.render b (deliver v.node outer)

/-- Items with commas between them are delivered to the array that waits for them. -/
theorem leads_items {vs : List Value} (hne : vs ≠ []) (h : ∀ v ∈ vs, Delivers v) {b : Build} {items : List Node}
    {outer : List Frame} (hb : Awaits b (.array items :: outer)) :
    Leads (",".intercalate (Value.renderItems vs)) b
      (.within outer (.afterItem ((Value.nodes vs).reverse ++ items))) := by
  induction vs generalizing b items with
  | nil => exact absurd rfl hne
  | cons v vs ih =>
    have hv : Leads v.render b (.within outer (.afterItem (v.node :: items))) :=
      h v (List.mem_cons_self ..) _ _ hb
    cases vs with
    | nil => simpa [Value.renderItems, Value.nodes] using hv
    | cons v' vs =>
      have hrest := ih (List.cons_ne_nil v' vs) (fun u hu => h u (List.mem_cons_of_mem v hu))
        (awaits_nextItem outer (v.node :: items))
      have hall := hv.append_mark_append isMark_comma hrest
      rw [Value.renderItems, Value.renderItems, String.intercalate_cons_cons, Value.nodes, List.reverse_cons,
        List.append_assoc]
      exact hall

/-- Entries with commas between them are delivered to the object that waits for them. -/
theorem leads_entries {es : List (String × Value)} (hne : es ≠ []) (h : ∀ e ∈ es, Delivers e.2) {b : Build}
    {entries : List (Quoted × Node)} {outer : List Frame}
    (hb : ∀ q, step b (.string q) = .within outer (.colon entries q)) :
    Leads (",".intercalate (Value.renderEntries es)) b
      (.within outer (.afterEntry ((Value.entryNodes es).reverse ++ entries))) := by
  induction es generalizing b entries with
  | nil => exact absurd rfl hne
  | cons e es ih =>
    obtain ⟨k, v⟩ := e
    have he : Leads (Value.renderEntry (k, v)) b
        (.within outer (.afterEntry ((quotedOf k, v.node) :: entries))) := by
      have hv := h (k, v) (List.mem_cons_self ..) _ _ (awaits_entry outer entries (quotedOf k))
      have hcolon : IsTextOf ":" .colon := fun _ => rfl
      have hkey : IsTextOf (Value.quote k) (.string (quotedOf k)) := Scan.run_quote k
      rw [Value.renderEntry, String.append_assoc]
      refine Leads.token_append hkey (Leads.token_append hcolon ?_)
      rw [hb]
      exact hv
    cases es with
    | nil => simpa [Value.renderEntries, Value.entryNodes, Value.entryNode] using he
    | cons e' es =>
      have hrest := ih (List.cons_ne_nil e' es) (fun u hu => h u (List.mem_cons_of_mem (k, v) hu))
        (b := .within outer (.nextKey ((quotedOf k, v.node) :: entries))) fun _ => rfl
      have hall := he.append_mark_append isMark_comma hrest
      rw [Value.renderEntries, Value.renderEntries, String.intercalate_cons_cons, Value.entryNodes,
        List.reverse_cons, List.append_assoc]
      exact hall

private theorem delivers_of_isTextOf {v : Value} {t : Token} (h : IsTextOf v.render t)
    (ht : ∀ outer, value outer t = deliver v.node outer) (hne : t ≠ .closeArray) : Delivers v := by
  intro b outer hb
  rw [← ht, ← hb t hne]
  exact Leads.of_isTextOf h b

/-- What stands between brackets leads from behind the opening one to where the closing one makes the value. -/
private theorem delivers_of_brackets {v : Value} {opening inside closing : String} {t t' : Token} {place : Place}
    (hrender : v.render = opening ++ inside ++ closing) (hopening : IsTextOf opening t) (hne : t ≠ .closeArray)
    (hplace : ∀ outer, value outer t = .within outer place) (hclosing : IsMark closing t')
    (hinside : ∀ outer, ∃ b, Leads inside (.within outer place) b ∧ step b t' = deliver v.node outer) :
    Delivers v := by
  intro b outer hb
  obtain ⟨b', hleads, hdelivered⟩ := hinside outer
  rw [hrender, String.append_assoc, ← hdelivered]
  refine Leads.token_append hopening ?_
  rw [hb t hne, hplace]
  exact hleads.append_mark hclosing

/-- The text of a value delivers its tree. -/
theorem delivers_of_isExact {v : Value} (h : v.IsExact) : Delivers v := by
  induction h with
  | null => exact delivers_of_isTextOf (t := .null) (fun _ => rfl) (fun _ => rfl) nofun
  | bool p =>
    cases p with
    | false => exact delivers_of_isTextOf (t := .bool false) (fun _ => rfl) (fun _ => rfl) nofun
    | true => exact delivers_of_isTextOf (t := .bool true) (fun _ => rfl) (fun _ => rfl) nofun
  | text s => exact delivers_of_isTextOf (t := .string (quotedOf s)) (Scan.run_quote s) (fun _ => rfl) nofun
  | int n =>
    intro b outer hb ts hts
    have hbuilt : built (.number (numeralOf n) :: ts) = deliver (Value.int n).node outer := by
      rw [built_cons, hts]
      exact hb (.number (numeralOf n)) nofun
    exact ⟨_, rests_int n ts, hbuilt⟩
  | @array items h ih =>
    refine delivers_of_brackets (t := .openArray) rfl (fun _ => rfl) nofun (fun _ => rfl) isMark_closeArray
      fun outer => ?_
    cases items with
    | nil => exact ⟨_, Leads.empty _, rfl⟩
    | cons v vs =>
      refine ⟨_, leads_items (List.cons_ne_nil v vs) ih (awaits_firstItem outer), ?_⟩
      simp [step, Value.node]
  | @object entries h ih =>
    refine delivers_of_brackets (t := .openObject) rfl (fun _ => rfl) nofun (fun _ => rfl) isMark_closeObject
      fun outer => ?_
    cases entries with
    | nil => exact ⟨_, Leads.empty _, rfl⟩
    | cons e es =>
      refine ⟨_, leads_entries (List.cons_ne_nil e es) ih fun _ => rfl, ?_⟩
      simp [step, Value.node]

theorem ofBytes_render {v : Value} (h : v.IsExact) : ofBytes (Text.toUtf8 v.render) = ⟨v.node, false⟩ := by
  obtain ⟨ts, hrests, hbuilt⟩ := delivers_of_isExact h _ _ awaits_root [] rfl
  rw [ofBytes, tokens, hrests.finish_eq, ofTokens, List.foldl_reverse]
  exact congrArg finish hbuilt

end Document

end ChatRace.Json
