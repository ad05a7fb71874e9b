/-!
# Blanks, words and entries

The characters of the Unicode property White_Space, and what is cut at them: a text without the blanks at
its two ends (`trim`), its maximal runs without a blank (`words`), and the entries of a comma-separated text
(`entries`). Cutting is one fold over the characters; `split_cons` and `split_append` say what a further
character and a further text do to it.
-/

namespace ChatRace.Text

/-- The characters with the Unicode property White_Space. -/
def isBlank (c : Char) : Bool :=
  let n := c.toNat
  (0x09 ≤ n && n ≤ 0x0D) || n == 0x20 || n == 0x85 || n == 0xA0 || n == 0x1680 ||
    (0x2000 ≤ n && n ≤ 0x200A) || n == 0x2028 || n == 0x2029 || n == 0x202F || n == 0x205F || n == 0x3000

/-! ### Trimming -/

/-- The characters of a text without the blanks at its two ends. -/
def trimChars (cs : List Char) : List Char :=
  ((cs.dropWhile isBlank).reverse.dropWhile isBlank).reverse

/-- A text without the blanks at its two ends. -/
def trim (s : String) : String :=
  String.ofList (trimChars s.toList)

@[simp] theorem trimChars_nil : trimChars [] = [] := rfl

/-- Whether some characters begin and end with one that is not blank. -/
structure IsTrimmed (cs : List Char) : Prop where
  head : ∃ c, cs.head? = some c ∧ isBlank c = false
  last : ∃ c, cs.getLast? = some c ∧ isBlank c = false

/-- What is trimmed already is what is left of it between blanks. -/
theorem IsTrimmed.trimChars_append {cs : List Char} (h : IsTrimmed cs) {front back : List Char}
    (hfront : ∀ c ∈ front, isBlank c = true) (hback : ∀ c ∈ back, isBlank c = true) :
    trimChars (front ++ cs ++ back) = cs := by
  have hdrop {ds : List Char} {c : Char} (hhead : ds.head? = some c) (hc : isBlank c = false) :
      ds.dropWhile isBlank = ds := by
    cases ds with
    | nil => rfl
    | cons d ds =>
      obtain rfl : d = c := Option.some.inj hhead
      rw [List.dropWhile_cons_of_neg (by simp [hc])]
  obtain ⟨⟨a, hhead, ha⟩, ⟨z, hlast, hz⟩⟩ := h
  have hhead' : (cs ++ back).head? = some a := by simp [List.head?_append, hhead]
  have hlast' : cs.reverse.head? = some z := by rw [List.head?_reverse, hlast]
  have hback' : ∀ c ∈ back.reverse, isBlank c = true := fun c hc => hback c (List.mem_reverse.1 hc)
  rw [trimChars, List.append_assoc, List.dropWhile_append_of_pos hfront, hdrop hhead' ha, List.reverse_append,
    List.dropWhile_append_of_pos hback', hdrop hlast' hz, List.reverse_reverse]

/-! ### Splitting -/

/-- Puts a character in front of the first piece. -/
def attach (c : Char) : List (List Char) → List (List Char)
  | [] => [[c]]
  | w :: ws => (c :: w) :: ws

/-- The pieces between the characters that `cut` holds of; always one more than there are such characters. -/
def split (cut : Char → Bool) (cs : List Char) : List (List Char) :=
  cs.foldr (fun c ws => if cut c then [] :: ws else attach c ws) [[]]

@[simp] theorem split_nil (cut : Char → Bool) : split cut [] = [[]] := rfl

theorem split_cons (cut : Char → Bool) (c : Char) (cs : List Char) :
    split cut (c :: cs) = if cut c then [] :: split cut cs else attach c (split cut cs) := rfl

theorem split_ne_nil (cut : Char → Bool) (cs : List Char) : split cut cs ≠ [] := by
  cases cs with
  | nil => simp
  | cons c cs =>
    rw [split_cons]
    split
    · simp
    · cases split cut cs <;> simp [attach]

/-- A text before a cut contributes its own pieces. -/
theorem split_append (cut : Char → Bool) {x : Char} (hx : cut x = true) (a b : List Char) :
    split cut (a ++ x :: b) = split cut a ++ split cut b := by
  induction a with
  | nil => simp [split_cons, hx]
  | cons c a ih =>
    by_cases hc : cut c = true
    · simp [split_cons, hc, ih]
    · obtain ⟨w, ws, hw⟩ := List.exists_cons_of_ne_nil (split_ne_nil cut a)
      simp [split_cons, hc, ih, hw, attach]

/-- A text without a cut is one piece. -/
theorem split_eq_singleton {cut : Char → Bool} {cs : List Char} (h : ∀ c ∈ cs, cut c = false) :
    split cut cs = [cs] := by
  induction cs with
  | nil => rfl
  | cons c cs ih =>
    have hc := h c (List.mem_cons_self ..)
    rw [split_cons, ih fun d hd => h d (List.mem_cons_of_mem c hd)]
    simp [hc, attach]

/-- The maximal runs of characters that are not blank. -/
def words (s : String) : List String :=
  ((split isBlank s.toList).filter (fun w => !w.isEmpty)).map String.ofList

/-- The entries of a comma-separated text: trimmed, and without the blank ones. -/
def entries (s : String) : List String :=
  (((split (· == ',') s.toList).map trimChars).filter (fun e => !e.isEmpty)).map String.ofList

end ChatRace.Text
