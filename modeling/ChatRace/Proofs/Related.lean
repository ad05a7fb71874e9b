import Mathlib.Data.List.Forall2

/-!
# Related lists

If two lists are related member by member, then cutting one of them cuts the other (`split`), and each member of one
has a related member in the other (`exists_right`, `exists_left`).
-/

namespace ChatRace.Related

variable {α β : Type} {R : α → β → Prop} {as : List α} {bs : List β}

theorem split {before after : List α} {a : α} (h : List.Forall₂ R (before ++ a :: after) bs) :
    ∃ before' b after', bs = before' ++ b :: after' ∧ R a b ∧ List.Forall₂ R before before' ∧
      List.Forall₂ R after after' := by
  induction before generalizing bs with
  | nil =>
    rcases h with _ | ⟨hab, hrest⟩
    exact ⟨[], _, _, rfl, hab, .nil, hrest⟩
  | cons x before ih =>
    rcases h with _ | ⟨hxy, hrest⟩
    obtain ⟨before', b, after', rfl, hb, hbefore', hafter'⟩ := ih hrest
    exact ⟨_ :: before', b, after', rfl, hb, .cons hxy hbefore', hafter'⟩

theorem exists_right (h : List.Forall₂ R as bs) {a : α} (ha : a ∈ as) : ∃ b ∈ bs, R a b := by
  obtain ⟨before, after, rfl⟩ := List.append_of_mem ha
  obtain ⟨before', b, after', rfl, hb, -, -⟩ := split h
  exact ⟨b, by simp, hb⟩

theorem exists_left (h : List.Forall₂ R as bs) {b : β} (hb : b ∈ bs) : ∃ a ∈ as, R a b :=
  exists_right (R := flip R) h.flip hb

end ChatRace.Related
