import ChatRace.Chat.Candidates
import ChatRace.Proofs.Text.Entries
import Mathlib.Data.List.Forall2

/-!
# Selections of candidates

The candidates of a `model` are its entries without repetitions, each where it comes first (`candidates_eq`,
`candidates_firstOccurrences`).  A selection of names can be written in many ways, with blanks around the names and with
blank entries between them (`Writes`); whatever the way, the candidates are the names (`candidates_of_writes`).
-/

namespace ChatRace.Chat

/-! ### Repetitions -/

private theorem dedupAfter_eq (seen ss : List String) :
    dedupAfter seen ss = (ss.filter fun s => !seen.contains s).eraseDups := by
  induction ss generalizing seen with
  | nil => rfl
  | cons s rest ih =>
    rw [dedupAfter]
    split
    · rename_i hs
      rw [List.filter_cons_of_neg (by simpa using hs), ih]
    · rename_i hs
      have hlater : (fun t => !(s :: seen).contains t) = fun t => !t == s && !seen.contains t := by
        funext t
        rw [List.contains_cons, Bool.not_or]
      rw [List.filter_cons_of_pos (by simpa using hs), List.eraseDups_cons, ih, List.filter_filter, hlater]

/-- Of each entry there is the first occurrence. -/
theorem candidates_eq (model : String) : candidates model = (Text.entries model).eraseDups := by
  have hall : (Text.entries model).filter (fun s => !([] : List String).contains s) = Text.entries model :=
    List.filter_eq_self.2 fun _ _ => rfl
  rw [candidates, dedup, dedupAfter_eq, hall]

theorem mem_candidates {model id : String} : id ∈ candidates model ↔ id ∈ Text.entries model := by
  rw [candidates_eq, List.mem_eraseDups]

/-! ### First occurrences -/

/-- What is kept stands in the order in which it comes first. -/
private theorem pairwise_dedupAfter (seen ss : List String) :
    (dedupAfter seen ss).Pairwise fun s t => ss.idxOf s < ss.idxOf t := by
  induction ss generalizing seen with
  | nil => exact .nil
  | cons s rest ih =>
    -- once `s` has been seen, all that is kept of the rest comes first one place further on
    have hlater {seen : List String} (hs : s ∈ seen) :
        (dedupAfter seen rest).Pairwise fun t u => (s :: rest).idxOf t < (s :: rest).idxOf u := by
      refine (ih seen).imp_of_mem ?_
      intro t u ht hu hlt
      have hst : s ≠ t := fun heq => notMem_of_mem_dedupAfter t ht (heq ▸ hs)
      have hsu : s ≠ u := fun heq => notMem_of_mem_dedupAfter u hu (heq ▸ hs)
      rw [List.idxOf_cons_ne rest hst, List.idxOf_cons_ne rest hsu]
      omega
    rw [dedupAfter]
    split
    · rename_i hs
      exact hlater (by simpa using hs)
    · refine .cons ?_ (hlater (List.mem_cons_self ..))
      intro t ht
      have hst : s ≠ t := fun heq => notMem_of_mem_dedupAfter t ht (heq ▸ List.mem_cons_self ..)
      rw [List.idxOf_cons_self, List.idxOf_cons_ne rest hst]
      omega

/-- The candidates stand in the order in which the entries come first. -/
theorem pairwise_candidates (model : String) : (candidates model).Pairwise fun id id' =>
    (Text.entries model).idxOf id < (Text.entries model).idxOf id' :=
  pairwise_dedupAfter [] (Text.entries model)

/-! ### Lists of candidates -/

private theorem eraseDups_of_nodup {ss : List String} (h : ss.Nodup) : ss.eraseDups = ss := by
  induction ss with
  | nil => rfl
  | cons s rest ih =>
    rw [List.nodup_cons] at h
    have hrest : rest.filter (fun t => !t == s) = rest := by
      rw [List.filter_eq_self]
      intro t ht
      have hts : t ≠ s := fun heq => h.1 (heq ▸ ht)
      simpa using hts
    rw [List.eraseDups_cons, hrest, ih h.2]

/-- A list of candidates that is written with commas has these candidates. -/
theorem candidates_intercalate_candidates (model : String) :
    candidates (",".intercalate (candidates model)) = candidates model := by
  have hentries : ∀ id ∈ candidates model, Text.IsTrimmed id.toList ∧ ',' ∉ id.toList :=
    fun id hid => Text.of_mem_entries (mem_candidates.1 hid)
  rw [candidates_eq (",".intercalate _), Text.entries_intercalate_of_isTrimmed hentries,
    eraseDups_of_nodup (nodup_candidates model)]

/-- Repetitions are the same before a filter and behind it. -/
private theorem eraseDups_filter (p : String → Bool) (ss : List String) :
    (ss.filter p).eraseDups = ss.eraseDups.filter p := by
  -- the other occurrences of the first member go at once, so the induction is on the length
  induction h : ss.length using Nat.strong_induction_on generalizing ss with
  | _ n ih =>
    cases ss with
    | nil => rfl
    | cons s rest =>
      have hlt : (rest.filter fun t => !t == s).length < n := by
        have := List.length_filter_le (fun t => !t == s) rest
        rw [List.length_cons] at h
        omega
      have hrest := ih _ hlt _ rfl
      rw [List.filter_filter] at hrest
      rw [List.eraseDups_cons]
      by_cases hs : p s = true
      · have hswap : (fun t => p t && !t == s) = fun t => (!t == s) && p t := by
          funext t
          exact Bool.and_comm ..
        rw [List.filter_cons_of_pos hs, List.filter_cons_of_pos hs, List.eraseDups_cons, List.filter_filter, ← hrest,
          hswap]
      · have hskip : (fun t => p t && !t == s) = p := by
          funext t
          by_cases ht : t = s
          · subst ht
            simp [hs]
          · simp [ht]
        rw [List.filter_cons_of_neg hs, List.filter_cons_of_neg hs, ← hrest, hskip]

/-- A further list adds those of its candidates that are not there. -/
theorem candidates_append (a b : String) :
    candidates (a ++ "," ++ b) = candidates a ++ (candidates b).filter fun id => id ∉ candidates a := by
  have hnew : (fun id => decide (id ∉ candidates a)) = fun id => !(Text.entries a).elem id := by
    funext id
    simp [mem_candidates]
  rw [candidates_eq (a ++ "," ++ b), Text.entries_append, List.eraseDups_append, List.removeAll, eraseDups_filter,
    ← candidates_eq a, ← candidates_eq b, hnew]

/-- Cut any text at its commas and trim the pieces.  The candidates are what is left of the pieces that are not blank,
each once and where it comes first.  None has a comma or begins or ends with a blank, and with commas between them they
are read as the same candidates.  Behind a comma, another text adds those of its own candidates that the first one does
not have. -/
theorem candidates_firstOccurrences (model : String) :
    ∃ pieces trimmed : List String, ",".intercalate pieces = model ∧ (∀ p ∈ pieces, ',' ∉ p.toList) ∧
    List.Forall₂ Text.Trims pieces trimmed ∧
    let names := trimmed.filter (· ≠ "")
    (candidates model).Nodup ∧ (∀ id, id ∈ candidates model ↔ id ∈ names) ∧
    ((candidates model).Pairwise fun id id' => names.idxOf id < names.idxOf id') ∧
    (∀ id ∈ candidates model, ',' ∉ id.toList ∧ Text.IsTrimmed id.toList) ∧
    candidates (",".intercalate (candidates model)) = candidates model ∧
    ∀ other, candidates (model ++ "," ++ other) =
      candidates model ++ (candidates other).filter fun id => id ∉ candidates model := by
  obtain ⟨pieces, hmodel, hpieces⟩ := Text.exists_pieces model
  have hentries : Text.entries model = (pieces.map Text.trim).filter (· ≠ "") := by
    rw [← hmodel, Text.entries_intercalate hpieces]
  refine ⟨pieces, pieces.map Text.trim, hmodel, hpieces, ?_, ?_⟩
  · rw [List.forall₂_map_right_iff, List.forall₂_same]
    exact fun p _ => Text.trims_trim p
  · intro names
    refine ⟨nodup_candidates model, ?_, ?_, ?_, candidates_intercalate_candidates model, candidates_append model⟩
    · intro id
      rw [mem_candidates, hentries]
    · have hordered := pairwise_candidates model
      rwa [hentries] at hordered
    · intro id hid
      exact (Text.of_mem_entries (mem_candidates.1 hid)).symm

/-! ### Ways to write a selection -/

/-- The pieces between the commas write a list of names: each piece is a name with blanks around it, or blank. -/
inductive Writes : List String → List String → Prop
  | nil : Writes [] []
  | blank {gap : String} {pieces names : List String} : (∀ c ∈ gap.toList, Text.isBlank c = true) →
      Writes pieces names → Writes (gap :: pieces) names
  | name {front back : String} {pieces names : List String} (id : String) :
      (∀ c ∈ front.toList, Text.isBlank c = true) → (∀ c ∈ back.toList, Text.isBlank c = true) →
      Writes pieces names → Writes ((front ++ id ++ back) :: pieces) (id :: names)

variable {id : String} {pieces names : List String}

/-- The entries of what writes trimmed names without commas are these names. -/
theorem entries_of_writes (h : Writes pieces names)
    (hnames : ∀ id ∈ names, Text.IsTrimmed id.toList ∧ ',' ∉ id.toList) :
    Text.entries (",".intercalate pieces) = names := by
  have hcomma {gap : String} (hgap : ∀ c ∈ gap.toList, Text.isBlank c = true) : ',' ∉ gap.toList := by
    intro hmem
    exact absurd (hgap ',' hmem) (by decide)
  have hkept : (∀ p ∈ pieces, ',' ∉ p.toList) ∧ (pieces.map Text.trim).filter (· ≠ "") = names := by
    induction h with
    | nil => exact ⟨by simp, rfl⟩
    | blank hgap _ ih =>
      obtain ⟨hcommas, hkept⟩ := ih hnames
      refine ⟨List.forall_mem_cons.2 ⟨hcomma hgap, hcommas⟩, ?_⟩
      rw [List.map_cons, Text.trim_eq_empty.2 hgap]
      exact hkept
    | @name front back pieces names id hfront hback _ ih =>
      rw [List.forall_mem_cons] at hnames
      obtain ⟨hid, hnames⟩ := hnames
      obtain ⟨hcommas, hkept⟩ := ih hnames
      have htrim : Text.trim (front ++ id ++ back) = id := by
        rw [Text.trim, String.toList_append, String.toList_append, hid.1.trimChars_append hfront hback,
          String.ofList_toList]
      have hne : id ≠ "" := by
        rintro rfl
        exact hid.1.ne_nil rfl
      refine ⟨List.forall_mem_cons.2 ⟨?_, hcommas⟩, ?_⟩
      · simp [hcomma hfront, hcomma hback, hid.2]
      · rw [List.map_cons, htrim, List.filter_cons_of_pos (by simpa using hne), hkept]
  rw [Text.entries_intercalate hkept.1, hkept.2]

/-- The candidates of what writes trimmed names without commas are these names, each where it comes first. -/
theorem candidates_of_writes (h : Writes pieces names)
    (hnames : ∀ id ∈ names, Text.IsTrimmed id.toList ∧ ',' ∉ id.toList) :
    candidates (",".intercalate pieces) = names.eraseDups := by
  rw [candidates_eq, entries_of_writes h hnames]

/-- A trimmed name without a comma is the only candidate of itself. -/
theorem candidates_of_isTrimmed (h : Text.IsTrimmed id.toList) (hcomma : ',' ∉ id.toList) : candidates id = [id] := by
  have hwrites : Writes [id] [id] := by simpa using @Writes.name "" "" [] [] id (by simp) (by simp) .nil
  have hcandidates := candidates_of_writes hwrites (by simp [h, hcomma])
  rwa [String.intercalate_singleton] at hcandidates

end ChatRace.Chat
