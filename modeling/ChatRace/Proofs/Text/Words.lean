import ChatRace.Proofs.Text.Entries
import Mathlib.Algebra.BigOperators.Group.List.Basic
import Mathlib.Data.List.SplitBy

/-!
# Words and the gaps between them

A text consists of maximal runs of characters that are all blank or all not (`runs`), of the two kinds in turn
(`Alternates`).  Its words are the runs that are not blank (`words_eq`), so there are no more of them than characters
(`wordCount_le`).  With a space between them they make the text again exactly if the text is trimmed and each gap is a
single space (`intercalate_words_eq_iff`).
-/

namespace ChatRace.Text

/-- The maximal runs of characters that are all blank or all not. -/
def runs (s : String) : List String :=
  (s.toList.splitBy fun c d => isBlank c == isBlank d).map String.ofList

/-! ### Runs in turn -/

/-- Runs of characters that are blank and runs of characters that are not follow each other in turn; `blank` tells of
which kind the first one is. -/
inductive Alternates : Bool → List (List Char) → Prop
  | nil {blank : Bool} : Alternates blank []
  | cons {blank : Bool} {run : List Char} {rest : List (List Char)} : run ≠ [] → (∀ c ∈ run, isBlank c = blank) →
      Alternates (!blank) rest → Alternates blank (run :: rest)

variable {blank : Bool} {run : List Char} {rest rs : List (List Char)}

/-- Every text consists of runs in turn. -/
theorem exists_alternates (cs : List Char) : ∃ blank rs, Alternates blank rs ∧ rs.flatten = cs := by
  induction cs with
  | nil => exact ⟨false, [], .nil, rfl⟩
  | cons c cs ih =>
    have hone : ∀ d ∈ [c], isBlank d = isBlank c := by simp
    obtain ⟨blank, rs, h, rfl⟩ := ih
    cases h with
    | nil => exact ⟨isBlank c, [[c]], .cons (List.cons_ne_nil _ _) hone .nil, rfl⟩
    | @cons _ run rest hne hrun hrest =>
      by_cases hc : isBlank c = blank
      · exact ⟨blank, (c :: run) :: rest, .cons (List.cons_ne_nil _ _) (List.forall_mem_cons.2 ⟨hc, hrun⟩) hrest, rfl⟩
      · obtain rfl : blank = !isBlank c := Bool.eq_not_of_ne (Ne.symm hc)
        exact ⟨isBlank c, [c] :: run :: rest, .cons (List.cons_ne_nil _ _) hone (.cons hne hrun hrest), rfl⟩

/-- The text behind a run of the other kind begins with a character of its own kind. -/
private theorem Alternates.head? (h : Alternates blank rs) {c : Char} (hc : rs.flatten.head? = some c) :
    isBlank c = blank := by
  cases h with
  | nil => cases hc
  | @cons _ run rest hne hrun hrest =>
    obtain ⟨d, ds, rfl⟩ := List.exists_cons_of_ne_nil hne
    obtain rfl : d = c := Option.some.inj hc
    exact hrun d (List.mem_cons_self ..)

/-- Runs in turn are the maximal ones. -/
theorem Alternates.splitBy_eq (h : Alternates blank rs) :
    rs.flatten.splitBy (fun c d => isBlank c == isBlank d) = rs := by
  induction h with
  | nil => rfl
  | @cons blank run rest hne hrun hrest ih =>
    have hrun' : run.IsChain fun c d => (isBlank c == isBlank d) = true := by
      refine List.Pairwise.isChain (List.pairwise_of_forall_mem_list ?_)
      intro c hc d hd
      rw [hrun c hc, hrun d hd, beq_self_eq_true]
    rw [List.flatten_cons, List.splitBy_append, List.splitBy_of_isChain hne hrun', ih]
    · rfl
    · intro c hc d hd
      rw [hrun c (List.mem_of_getLast? hc), hrest.head? hd]
      cases blank <;> rfl

/-! ### Words -/

private theorem filter_split_blank (hrun : ∀ c ∈ run, isBlank c = true) (cs : List Char) :
    (split isBlank (run ++ cs)).filter (fun w => !w.isEmpty) = (split isBlank cs).filter fun w => !w.isEmpty := by
  induction run with
  | nil => rfl
  | cons c run ih =>
    rw [List.forall_mem_cons] at hrun
    rw [List.cons_append, split_cons, if_pos hrun.1, List.filter_cons_of_neg (by simp), ih hrun.2]

private theorem filter_split_word (hne : run ≠ []) (hrun : ∀ c ∈ run, isBlank c = false) {cs : List Char}
    (hcs : ∀ c, cs.head? = some c → isBlank c = true) :
    (split isBlank (run ++ cs)).filter (fun w => !w.isEmpty) =
      run :: (split isBlank cs).filter fun w => !w.isEmpty := by
  have hword : split isBlank run = [run] := split_eq_singleton hrun
  cases cs with
  | nil => simp [hword, hne]
  | cons c cs =>
    have hc : isBlank c = true := hcs c rfl
    rw [split_append isBlank hc, hword, split_cons, if_pos hc]
    simp [hne]

/-- The runs that are not blank. -/
private def wordRuns (rs : List (List Char)) : List (List Char) :=
  rs.filter fun run => !run.all isBlank

private theorem wordRuns_blank (hrun : ∀ c ∈ run, isBlank c = true) : wordRuns (run :: rest) = wordRuns rest :=
  List.filter_cons_of_neg (by simpa using hrun)

private theorem wordRuns_word (hne : run ≠ []) (hrun : ∀ c ∈ run, isBlank c = false) :
    wordRuns (run :: rest) = run :: wordRuns rest := by
  obtain ⟨c, cs, rfl⟩ := List.exists_cons_of_ne_nil hne
  exact List.filter_cons_of_pos (by simp [hrun c (List.mem_cons_self ..)])

private theorem Alternates.filter_split (h : Alternates blank rs) :
    (split isBlank rs.flatten).filter (fun w => !w.isEmpty) = wordRuns rs := by
  induction h with
  | nil => rfl
  | @cons blank run rest hne hrun hrest ih =>
    rw [List.flatten_cons]
    cases blank with
    | true => rw [filter_split_blank hrun, wordRuns_blank hrun, ih]
    | false => rw [filter_split_word hne hrun fun c hc => hrest.head? hc, wordRuns_word hne hrun, ih]

/-- The words of a text are its runs that are not blank. -/
theorem words_eq (s : String) : words s = (runs s).filter fun run => !run.toList.all isBlank := by
  obtain ⟨blank, rs, h, hs⟩ := exists_alternates s.toList
  have hkept : (fun run : String => !run.toList.all isBlank) ∘ String.ofList = fun run => !run.all isBlank := by
    funext run
    rw [Function.comp_apply, String.toList_ofList]
  rw [words, runs, ← hs, h.splitBy_eq, h.filter_split, List.filter_map, hkept, wordRuns]

theorem ne_empty_of_mem_words {s w : String} (h : w ∈ words s) : w ≠ "" := by
  obtain ⟨cs, hcs, rfl⟩ := List.mem_map.1 h
  simpa using (List.mem_filter.1 hcs).2

theorem words_of_trim_eq_empty {s : String} (h : trim s = "") : words s = [] := by
  have hgap := filter_split_blank (trim_eq_empty.1 h) []
  rw [List.append_nil] at hgap
  rw [words, hgap]
  rfl

/-! ### Counting words -/

/-- The number of runs that are not blank. -/
def wordCount (s : String) : Nat := (runs s).countP fun run => !run.toList.all isBlank

theorem length_words (s : String) : (words s).length = wordCount s := by
  rw [words_eq, wordCount, List.countP_eq_length_filter]

/-- A text has no more words than characters. -/
theorem wordCount_le (s : String) : wordCount s ≤ s.length := by
  let same (c d : Char) : Bool := isBlank c == isBlank d
  -- no run is empty, and all of them together are the text
  have hpos : ∀ n ∈ (s.toList.splitBy same).map List.length, 1 ≤ n := by
    rw [List.forall_mem_map]
    intro run hrun
    exact List.length_pos_of_ne_nil (List.ne_nil_of_mem_splitBy hrun)
  calc wordCount s ≤ (runs s).length := List.countP_le_length
    _ = ((s.toList.splitBy same).map List.length).length := by rw [runs, List.length_map, List.length_map]
    _ ≤ ((s.toList.splitBy same).map List.length).sum := List.length_le_sum_of_one_le _ hpos
    _ = s.length := by rw [← List.length_flatten, List.flatten_splitBy, String.length_toList]

/-! ### Words with spaces between them -/

private theorem wordRuns_ne_nil {c : Char} (hc : c ∈ rs.flatten) (hword : isBlank c = false) : wordRuns rs ≠ [] := by
  obtain ⟨run, hrun, hmem⟩ := List.mem_flatten.1 hc
  have hkept : run ∈ wordRuns rs := by
    refine List.mem_filter.2 ⟨hrun, ?_⟩
    simpa using ⟨c, hmem, hword⟩
  exact List.ne_nil_of_mem hkept

/-- What begins with a word begins with a character of it when spaces stand between the words. -/
private theorem Alternates.head?_intercalate (h : Alternates false rs) (hne : rs ≠ []) :
    ∃ c, ([' '].intercalate (wordRuns rs)).head? = some c ∧ isBlank c = false := by
  cases h with
  | nil => exact absurd rfl hne
  | @cons _ run rest hrunne hrun _ =>
    obtain ⟨c, cs, rfl⟩ := List.exists_cons_of_ne_nil hrunne
    refine ⟨c, ?_, hrun c (List.mem_cons_self ..)⟩
    rw [wordRuns_word hrunne hrun]
    cases wordRuns rest with
    | nil => rw [List.intercalate_singleton, List.head?_cons]
    | cons w ws => rw [List.intercalate_cons_cons, List.append_assoc, List.cons_append, List.head?_cons]

/-- In front of a word, a space is all of a gap exactly if the gap is that space. -/
private theorem space_append_eq_iff {words cs : List Char} (hne : run ≠ []) (hrun : ∀ c ∈ run, isBlank c = true)
    (hwords : ∃ c, words.head? = some c ∧ isBlank c = false) :
    [' '] ++ words = run ++ cs ↔ run = [' '] ∧ words = cs := by
  constructor
  · intro h
    obtain ⟨x, run, rfl⟩ := List.exists_cons_of_ne_nil hne
    obtain ⟨rfl, hrest⟩ : ' ' = x ∧ words = run ++ cs := by simpa using h
    cases run with
    | nil => exact ⟨rfl, hrest⟩
    | cons y run =>
      obtain ⟨c, hc, hblank⟩ := hwords
      rw [hrest] at hc
      obtain rfl : y = c := Option.some.inj hc
      rw [hrun y (by simp)] at hblank
      cases hblank
  · rintro ⟨rfl, rfl⟩
    rfl

/-- Runs in turn that end in a word are made of their words with a space between them exactly if each gap is a space; if
they begin with a gap, a space has to stand in front. -/
private theorem Alternates.intercalate_eq_iff (h : Alternates blank rs)
    (hlast : ∃ c, rs.flatten.getLast? = some c ∧ isBlank c = false) :
    (if blank then [' '] else []) ++ [' '].intercalate (wordRuns rs) = rs.flatten ↔
      ∀ run ∈ rs, (∀ c ∈ run, isBlank c = true) → run = [' '] := by
  induction h with
  | nil =>
    obtain ⟨c, hc, -⟩ := hlast
    cases hc
  | @cons blank run rest hne hrun hrest ih =>
    obtain ⟨c, hc, hword⟩ := hlast
    rw [List.flatten_cons] at hc ⊢
    by_cases hend : rest.flatten = []
    · -- the last run is a word
      obtain rfl : rest = [] := by
        cases hrest with
        | nil => rfl
        | cons hne' _ _ => exact absurd (List.append_eq_nil_iff.1 hend).1 hne'
      rw [hend, List.append_nil] at hc
      have hmem := List.mem_of_getLast? hc
      obtain rfl : blank = false := (hrun c hmem).symm.trans hword
      have hrun' : ¬∀ d ∈ run, isBlank d = true := by
        intro hblank
        rw [hblank c hmem] at hword
        cases hword
      rw [wordRuns_word hne hrun]
      simp [wordRuns, hrun']
    · have hlast : rest.flatten.getLast? = some c := by
        rw [← hc, List.getLast?_append_of_ne_nil _ hend]
      have ih := ih ⟨c, hlast, hword⟩
      rw [List.forall_mem_cons, ← ih]
      cases blank with
      | true =>
        have hhead := hrest.head?_intercalate fun hnil => hend (by rw [hnil]; rfl)
        rw [wordRuns_blank hrun, if_pos rfl, space_append_eq_iff hne hrun hhead, imp_iff_right hrun]
        exact Iff.rfl
      | false =>
        have hrun' : ¬∀ d ∈ run, isBlank d = true := by
          intro hblank
          obtain ⟨d, hd⟩ := List.exists_mem_of_ne_nil run hne
          exact absurd ((hrun d hd).symm.trans (hblank d hd)) (by decide)
        have hwords := wordRuns_ne_nil (List.mem_of_getLast? hlast) hword
        obtain ⟨w, ws, hws⟩ := List.exists_cons_of_ne_nil hwords
        rw [wordRuns_word hne hrun, hws, List.intercalate_cons_cons]
        simp [hrun']

theorem words_ne_nil {s : String} (h : IsTrimmed s.toList) : words s ≠ [] := by
  obtain ⟨blank, rs, hrs, hs⟩ := exists_alternates s.toList
  obtain ⟨c, hc, hword⟩ := h.head
  have hruns : wordRuns rs ≠ [] := wordRuns_ne_nil (hs ▸ List.mem_of_head? hc) hword
  rw [words, ← hs, hrs.filter_split]
  exact fun hnil => hruns (List.map_eq_nil_iff.1 hnil)

/-- The words of a trimmed text make it again with a space between them exactly if each of its gaps is a space. -/
theorem intercalate_words_eq_iff {s : String} (h : IsTrimmed s.toList) :
    " ".intercalate (words s) = s ↔ ∀ run ∈ runs s, (∀ c ∈ run.toList, isBlank c = true) → run = " " := by
  obtain ⟨blank, rs, hrs, hs⟩ := exists_alternates s.toList
  obtain ⟨c, hc, hword⟩ := h.head
  obtain rfl : false = blank := by
    rw [← hs] at hc
    exact hword.symm.trans (hrs.head? hc)
  have hwords : (words s).map String.toList = wordRuns rs := by
    rw [words, ← hs, hrs.filter_split, List.map_map]
    simp [Function.comp_def]
  have hruns : runs s = rs.map String.ofList := by rw [runs, ← hs, hrs.splitBy_eq]
  have hlast := h.last
  rw [← hs] at hlast
  rw [← String.toList_inj, String.toList_intercalate, hwords, ← hs, hruns, List.forall_mem_map]
  simpa [← String.toList_inj] using hrs.intercalate_eq_iff hlast

end ChatRace.Text
