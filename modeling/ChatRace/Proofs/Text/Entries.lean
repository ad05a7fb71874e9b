import ChatRace.Text.Blank
import Mathlib.Data.List.TakeWhile

/-!
# Trimmed texts and entries

Trimming takes blanks off a text at its two ends, and leaves nothing or a text that neither begins nor ends with one
(`exists_trimChars`, `isTrimmed_trimChars`, `trims_trim`).  There is one way to cut a text at its commas, so its entries
are told by any pieces without commas that it can be joined of (`exists_pieces`, `entries_intercalate`).
-/

namespace ChatRace.Text

/-! ### Trimming -/

variable {cs : List Char} {s : String}

/-- Only blanks are taken off. -/
theorem exists_trimChars (cs : List Char) : ∃ front back, cs = front ++ trimChars cs ++ back ∧
    (∀ c ∈ front, isBlank c = true) ∧ ∀ c ∈ back, isBlank c = true := by
  refine ⟨cs.takeWhile isBlank, ((cs.dropWhile isBlank).reverse.takeWhile isBlank).reverse, ?_, ?_, ?_⟩
  · rw [trimChars, List.append_assoc, ← List.reverse_append, List.takeWhile_append_dropWhile, List.reverse_reverse,
      List.takeWhile_append_dropWhile]
  · exact fun c hc => List.mem_takeWhile_imp hc
  · exact fun c hc => List.mem_takeWhile_imp (List.mem_reverse.1 hc)

theorem mem_of_mem_trimChars {c : Char} (h : c ∈ trimChars cs) : c ∈ cs := by
  obtain ⟨front, back, hcs, -, -⟩ := exists_trimChars cs
  rw [hcs]
  exact List.mem_append_left _ (List.mem_append_right _ h)

private theorem head?_dropWhile {ds : List Char} (h : ds.dropWhile isBlank ≠ []) :
    ∃ c, (ds.dropWhile isBlank).head? = some c ∧ isBlank c = false := by
  have hhead := List.head?_dropWhile_not isBlank ds
  cases hc : (ds.dropWhile isBlank).head? with
  | none => exact absurd (List.head?_eq_none_iff.1 hc) h
  | some c =>
    rw [hc] at hhead
    exact ⟨c, rfl, hhead⟩

/-- What trimming leaves neither begins nor ends with a blank. -/
theorem isTrimmed_trimChars (h : trimChars cs ≠ []) : IsTrimmed (trimChars cs) := by
  have hback : (cs.dropWhile isBlank).reverse.dropWhile isBlank ≠ [] := fun hnil => h (by rw [trimChars, hnil]; rfl)
  constructor
  · -- the first character is that of the text without the blanks in front, of which it is the beginning
    obtain ⟨front, hfront⟩ := List.dropWhile_suffix isBlank (l := (cs.dropWhile isBlank).reverse)
    have hprefix : trimChars cs ++ front.reverse = cs.dropWhile isBlank := by
      rw [trimChars, ← List.reverse_append, hfront, List.reverse_reverse]
    have hne : cs.dropWhile isBlank ≠ [] := by
      rw [← hprefix]
      simp [h]
    obtain ⟨c, hc, hblank⟩ := head?_dropWhile hne
    obtain ⟨d, ds, hds⟩ := List.exists_cons_of_ne_nil h
    rw [← hprefix, hds] at hc
    exact ⟨c, by rw [hds]; exact hc, hblank⟩
  · obtain ⟨c, hc, hblank⟩ := head?_dropWhile hback
    exact ⟨c, by rw [trimChars, List.getLast?_reverse, hc], hblank⟩

theorem IsTrimmed.ne_nil (h : IsTrimmed cs) : cs ≠ [] := by
  rintro rfl
  obtain ⟨c, hc, -⟩ := h.head
  cases hc

theorem IsTrimmed.trimChars_eq (h : IsTrimmed cs) : trimChars cs = cs := by
  simpa using @IsTrimmed.trimChars_append cs h [] [] (by simp) (by simp)

/-- Whatever stands between two trimmed texts, the whole is trimmed. -/
theorem IsTrimmed.append {ds : List Char} (hcs : IsTrimmed cs) (between : List Char) (hds : IsTrimmed ds) :
    IsTrimmed (cs ++ between ++ ds) := by
  obtain ⟨a, ha, hablank⟩ := hcs.head
  obtain ⟨z, hz, hzblank⟩ := hds.last
  exact ⟨⟨a, by simp [ha], hablank⟩, ⟨z, by simp [hz], hzblank⟩⟩

theorem trim_eq_empty : trim s = "" ↔ ∀ c ∈ s.toList, isBlank c = true := by
  have hnil : trim s = "" ↔ trimChars s.toList = [] := by
    rw [trim, ← String.toList_inj, String.toList_ofList]
    rfl
  rw [hnil]
  constructor
  · intro h
    obtain ⟨front, back, hcs, hfront, hback⟩ := exists_trimChars s.toList
    rw [h, List.append_nil] at hcs
    rw [hcs]
    exact List.forall_mem_append.2 ⟨hfront, hback⟩
  · intro h
    have hdrop : s.toList.dropWhile isBlank = [] := List.dropWhile_eq_nil_iff.2 h
    rw [trimChars, hdrop]
    rfl

/-- A text that trimming leaves is the whole of one without blanks around it. -/
theorem isTrimmed_trim (h : trim s ≠ "") : IsTrimmed (trim s).toList := by
  rw [trim, String.toList_ofList]
  refine isTrimmed_trimChars fun hnil => h ?_
  rw [trim, hnil]

theorem IsTrimmed.trim_eq (h : IsTrimmed s.toList) : trim s = s := by
  rw [trim, h.trimChars_eq, String.ofList_toList]

/-- A text is what is left of another one without the blanks at its two ends. -/
structure Trims (s e : String) : Prop where
  around : ∃ front back, s = front ++ e ++ back ∧ (∀ c ∈ front.toList, isBlank c = true) ∧
    ∀ c ∈ back.toList, isBlank c = true
  bare : e = "" ∨ IsTrimmed e.toList

theorem trims_trim (s : String) : Trims s (trim s) := by
  constructor
  · obtain ⟨front, back, hcs, hfront, hback⟩ := exists_trimChars s.toList
    refine ⟨String.ofList front, String.ofList back, ?_, by simpa using hfront, by simpa using hback⟩
    rw [← String.toList_inj, hcs, trim]
    simp
  · by_cases h : trim s = ""
    · exact .inl h
    · exact .inr (isTrimmed_trim h)

/-! ### Pieces -/

theorem split_eq_splitOn (x : Char) (cs : List Char) : split (· == x) cs = cs.splitOn x := by
  induction cs with
  | nil => rfl
  | cons c cs ih =>
    obtain ⟨w, ws, hw⟩ := List.exists_cons_of_ne_nil (List.splitOn_ne_nil x cs)
    rw [split_cons, List.splitOn_cons_eq_if_modifyHead, ih, hw]
    rfl

private theorem notMem_of_mem_splitOn {x : Char} {w : List Char} (h : w ∈ cs.splitOn x) : x ∉ w := by
  induction cs generalizing w with
  | nil =>
    rw [List.splitOn_nil, List.mem_singleton] at h
    rw [h]
    exact List.not_mem_nil
  | cons c cs ih =>
    obtain ⟨v, vs, hv⟩ := List.exists_cons_of_ne_nil (List.splitOn_ne_nil x cs)
    rw [List.splitOn_cons_eq_if_modifyHead] at h
    split at h
    · rcases List.mem_cons.1 h with rfl | h
      · exact List.not_mem_nil
      · exact ih h
    · rename_i hc
      rw [hv, List.modifyHead_cons] at h
      rcases List.mem_cons.1 h with rfl | h
      · have hxv : x ∉ v := ih (by rw [hv]; exact List.mem_cons_self ..)
        have hxc : x ≠ c := fun heq => hc (by simp [heq])
        simp [hxv, hxc]
      · exact ih (by rw [hv]; exact List.mem_cons_of_mem v h)

/-- Every text is joined of pieces without commas. -/
theorem exists_pieces (s : String) :
    ∃ pieces : List String, ",".intercalate pieces = s ∧ ∀ p ∈ pieces, ',' ∉ p.toList := by
  refine ⟨(s.toList.splitOn ',').map String.ofList, ?_, ?_⟩
  · have hlists : ((s.toList.splitOn ',').map String.ofList).map String.toList = s.toList.splitOn ',' := by
      simp [Function.comp_def]
    rw [← String.toList_inj, String.toList_intercalate, hlists]
    exact List.intercalate_splitOn ','
  · rw [List.forall_mem_map]
    intro w hw
    rw [String.toList_ofList]
    exact notMem_of_mem_splitOn hw

/-- The entries of a text are what trimming leaves of its pieces, where it leaves something. -/
theorem entries_intercalate {pieces : List String} (h : ∀ p ∈ pieces, ',' ∉ p.toList) :
    entries (",".intercalate pieces) = (pieces.map trim).filter (· ≠ "") := by
  cases pieces with
  | nil => rfl
  | cons p ps =>
    have hcut : (",".intercalate (p :: ps)).toList.splitOn ',' = (p :: ps).map String.toList := by
      rw [String.toList_intercalate]
      refine List.splitOn_intercalate ',' ?_ (List.cons_ne_nil _ _)
      rw [List.forall_mem_map]
      exact h
    have hkept : (fun e : String => decide (e ≠ "")) ∘ String.ofList = fun e => !e.isEmpty := by
      funext e
      cases e with
      | nil => rfl
      | cons c e => simp
    have hright : ((p :: ps).map trim).filter (· ≠ "") =
        (((p :: ps).map (trimChars ∘ String.toList)).filter fun e => !e.isEmpty).map String.ofList := by
      rw [← hkept, ← List.filter_map, List.map_map]
      rfl
    rw [entries, split_eq_splitOn, hcut, List.map_map, hright]

theorem entries_append (a b : String) : entries (a ++ "," ++ b) = entries a ++ entries b := by
  have hlist : (a ++ "," ++ b).toList = a.toList ++ ',' :: b.toList := by simp
  rw [entries, hlist, split_append (· == ',') rfl]
  simp [entries]

/-- An entry is a trimmed text without a comma. -/
theorem of_mem_entries {e : String} (h : e ∈ entries s) : IsTrimmed e.toList ∧ ',' ∉ e.toList := by
  obtain ⟨pieces, rfl, hpieces⟩ := exists_pieces s
  rw [entries_intercalate hpieces, List.mem_filter] at h
  obtain ⟨p, hp, rfl⟩ := List.mem_map.1 h.1
  refine ⟨isTrimmed_trim (by simpa using h.2), fun hcomma => hpieces p hp ?_⟩
  rw [trim, String.toList_ofList] at hcomma
  exact mem_of_mem_trimChars hcomma

/-- Trimmed texts without commas are the entries of what they make with commas between them. -/
theorem entries_intercalate_of_isTrimmed {es : List String} (h : ∀ e ∈ es, IsTrimmed e.toList ∧ ',' ∉ e.toList) :
    entries (",".intercalate es) = es := by
  have htrim : es.map trim = es := by
    rw [List.map_congr_left fun e he => (h e he).1.trim_eq, List.map_id']
  rw [entries_intercalate fun e he => (h e he).2, htrim, List.filter_eq_self]
  rintro e he
  rw [decide_eq_true_iff]
  rintro rfl
  exact (h "" he).1.ne_nil rfl

end ChatRace.Text
