import ChatRace.Text.Blank

/-!
# Candidate lists

The `model` of a request may list several candidates, separated by commas. A candidate that is listed again
is the same candidate: `dedup` keeps the first occurrence of each.
-/

namespace ChatRace.Chat

/-- The list without the later occurrences of its members and without the members of `seen`. -/
def dedupAfter (seen : List String) : List String → List String
  | [] => []
  | s :: rest => if seen.contains s then dedupAfter seen rest else s :: dedupAfter (s :: seen) rest

/-- The list without the later occurrences of its members. -/
def dedup (ss : List String) : List String :=
  dedupAfter [] ss

/-- The candidates that a `model` lists. -/
def candidates (model : String) : List String :=
  dedup (Text.entries model)

theorem notMem_of_mem_dedupAfter {seen ss : List String} : ∀ s ∈ dedupAfter seen ss, s ∉ seen := by
  induction ss generalizing seen with
  | nil => simp [dedupAfter]
  | cons s rest ih =>
    unfold dedupAfter
    split
    · exact ih
    · rename_i hs
      rw [List.forall_mem_cons]
      exact ⟨by simpa using hs, fun t ht hseen => ih t ht (List.mem_cons_of_mem s hseen)⟩

private theorem nodup_dedupAfter (seen ss : List String) : (dedupAfter seen ss).Nodup := by
  induction ss generalizing seen with
  | nil => exact List.nodup_nil
  | cons s rest ih =>
    unfold dedupAfter
    split
    · exact ih seen
    · rw [List.nodup_cons]
      exact ⟨fun hmem => notMem_of_mem_dedupAfter s hmem (List.mem_cons_self ..), ih (s :: seen)⟩

/-- No candidate is listed twice. -/
theorem nodup_candidates (model : String) : (candidates model).Nodup :=
  nodup_dedupAfter [] (Text.entries model)

example : candidates " slow, fast ,,slow,medium " = ["slow", "fast", "medium"] := by decide +kernel
example : candidates " , ," = [] := by decide +kernel

end ChatRace.Chat
