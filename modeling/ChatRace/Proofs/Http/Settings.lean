import ChatRace.Proofs.Http.Fields
import Mathlib.Data.List.Induction

/-!
# Setting header fields

To set a field whose name or value is not permitted changes nothing; to set any other one leaves its new value alone
under the name, in capitals or not, and all other fields as they are (`Headers.apply_of_isPermitted`,
`Headers.apply_of_not_isPermitted`).  So a field has the value of the last call that has set it, or what it had before
(`Headers.values_applyAll`, `Headers.apply_frames`).
-/

namespace ChatRace.Http

/-- A name and a value of a field are permitted: the name is a token that is not too long, and all octets of the value
may stand in one. -/
structure IsPermitted (name value : String) : Prop where
  ne_empty : name ≠ ""
  length_le : name.length ≤ 65535
  isToken : ∀ c ∈ name.toList, isTokenChar c = true
  isField : ∀ b ∈ Text.toUtf8 value, IsFieldOctet b

theorem isPermitted_iff {name value : String} : (isName name && isValue value) = true ↔ IsPermitted name value := by
  rw [Bool.and_eq_true, isValue_iff]
  simp only [isName, Bool.and_eq_true, Bool.not_eq_true', String.isEmpty_eq_false_iff, decide_eq_true_eq,
    List.all_eq_true]
  constructor
  · rintro ⟨⟨⟨hne, hlength⟩, htoken⟩, hfield⟩
    exact ⟨hne, hlength, htoken, hfield⟩
  · rintro ⟨hne, hlength, htoken, hfield⟩
    exact ⟨⟨⟨hne, hlength⟩, htoken⟩, hfield⟩

namespace Headers

variable {name name' value : String}

theorem values_congr (h : Headers) (hsame : lowerCase name = lowerCase name') : h.values name = h.values name' := by
  rw [values, values, hsame]

/-! ### One call -/

theorem apply_of_isPermitted (h : Headers) (hp : IsPermitted name value) : h.apply name value = h.insert name value := by
  rw [apply, if_pos (isPermitted_iff.2 hp)]

theorem apply_of_not_isPermitted (h : Headers) (hp : ¬IsPermitted name value) : h.apply name value = h := by
  rw [apply, if_neg fun hboth => hp (isPermitted_iff.1 hboth)]

/-- A call sets a field if it is permitted and has the name of the field, in capitals or not. -/
structure SetsField (name : String) (call : String × String) : Prop where
  isPermitted : IsPermitted call.1 call.2
  sameName : lowerCase name = lowerCase call.1

variable {call : String × String}

theorem values_apply_of_setsField (h : Headers) (hset : SetsField name call) :
    (h.apply call.1 call.2).values name = [call.2] := by
  rw [apply_of_isPermitted h hset.isPermitted, values_congr _ hset.sameName]
  exact values_insert h call.1 call.2

theorem values_apply_of_not_setsField (h : Headers) (hset : ¬SetsField name call) :
    (h.apply call.1 call.2).values name = h.values name := by
  by_cases hp : IsPermitted call.1 call.2
  · rw [apply_of_isPermitted h hp]
    exact values_insert_of_ne h (fun hsame => hset ⟨hp, hsame⟩) call.2
  · rw [apply_of_not_isPermitted h hp]

/-! ### Many calls -/

/-- Sets fields one after another, as far as it is permitted. -/
def applyAll (calls : List (String × String)) (h : Headers) : Headers :=
  calls.foldl (fun h call => h.apply call.1 call.2) h

theorem applyAll_concat (calls : List (String × String)) (call : String × String) (h : Headers) :
    h.applyAll (calls ++ [call]) = (h.applyAll calls).apply call.1 call.2 := by
  rw [applyAll, List.foldl_append]
  rfl

/-- What a field has after some calls: the value of the last one that sets it, or what it had before if none does. -/
inductive LeftBy (calls : List (String × String)) (name : String) (original : List String) : List String → Prop
  | set {before after : List (String × String)} {call : String × String} : calls = before ++ call :: after →
      SetsField name call → (∀ c ∈ after, ¬SetsField name c) → LeftBy calls name original [call.2]
  | kept : (∀ c ∈ calls, ¬SetsField name c) → LeftBy calls name original original

theorem values_applyAll (calls : List (String × String)) (name : String) (h : Headers) :
    LeftBy calls name (h.values name) ((h.applyAll calls).values name) := by
  induction calls using List.reverseRecOn with
  | nil => exact .kept (by simp)
  | append_singleton calls call ih =>
    rw [applyAll_concat]
    by_cases hset : SetsField name call
    · rw [values_apply_of_setsField _ hset]
      exact .set rfl hset (by simp)
    · -- the call leaves the field as the calls before it do
      rw [values_apply_of_not_setsField _ hset]
      generalize (h.applyAll calls).values name = values at ih ⊢
      cases ih with
      | @set before after last hcalls hlast hafter =>
        have hcalls' : calls ++ [call] = before ++ last :: (after ++ [call]) := by rw [hcalls]; simp
        refine .set hcalls' hlast ?_
        rw [List.forall_mem_append]
        exact ⟨hafter, by simpa using hset⟩
      | kept hnone =>
        refine .kept ?_
        rw [List.forall_mem_append]
        exact ⟨hnone, by simpa using hset⟩

/-- To set a field with a permitted name and a permitted value leaves this value alone under the name, in capitals or
not, and all values of all other names in their order.  Any other call leaves everything as it is.  So after any calls a
field has the value of the last call that sets it, or its original values if there is none. -/
theorem apply_frames (h : Headers) :
    (∀ name value, IsPermitted name value →
      (∀ other, lowerCase other = lowerCase name → (h.apply name value).values other = [value]) ∧
      ∀ other, lowerCase other ≠ lowerCase name → (h.apply name value).values other = h.values other) ∧
    (∀ name value, ¬IsPermitted name value → h.apply name value = h) ∧
    ∀ calls name, LeftBy calls name (h.values name) ((h.applyAll calls).values name) := by
  refine ⟨?_, fun name value => h.apply_of_not_isPermitted, fun calls name => h.values_applyAll calls name⟩
  intro name value hp
  constructor
  · intro other hsame
    have hset : SetsField other (name, value) := ⟨hp, hsame⟩
    have hvalues := h.values_apply_of_setsField hset
    exact hvalues
  · intro other hne
    have hset : ¬SetsField other (name, value) := fun hset => hne hset.sameName
    have hvalues := h.values_apply_of_not_setsField hset
    exact hvalues

/-- Token characters are no name if there are too many of them. -/
private theorem apply_of_replicate {n : Nat} (hn : 65535 < n) (value : String) (h : Headers) :
    String.ofList (List.replicate n 'n') ≠ "" ∧
      (∀ c ∈ (String.ofList (List.replicate n 'n')).toList, isTokenChar c = true) ∧
      h.apply (String.ofList (List.replicate n 'n')) value = h := by
  have hlength : (String.ofList (List.replicate n 'n')).length = n := by
    rw [String.length_ofList, List.length_replicate]
  refine ⟨?_, ?_, ?_⟩
  · intro hempty
    rw [hempty, String.length_empty] at hlength
    omega
  · intro c hc
    rw [String.toList_ofList] at hc
    rw [List.eq_of_mem_replicate hc]
    decide
  · refine apply_of_not_isPermitted h fun hp => ?_
    have hle := hp.length_le
    rw [hlength] at hle
    exact absurd hle (Nat.not_le.2 hn)

/-- A value may have characters beyond visible ASCII, and token characters may be too many for a name. -/
theorem apply_accent_and_longName :
    ((∀ b ∈ Text.toUtf8 "é", ¬(b = 0x09 ∨ (0x20 ≤ b ∧ b < 0x7F))) ∧
      ((⟨[("a", "x")]⟩ : Headers).apply "a" "é").values "a" = ["é"]) ∧
    String.ofList (List.replicate 65536 'n') ≠ "" ∧
      (∀ c ∈ (String.ofList (List.replicate 65536 'n')).toList, isTokenChar c = true) ∧
      empty.apply (String.ofList (List.replicate 65536 'n')) "v" = empty :=
  ⟨⟨by decide +kernel, by decide +kernel⟩, apply_of_replicate (by decide) "v" empty⟩

end Headers

end ChatRace.Http
