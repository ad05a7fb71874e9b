import ChatRace.Proofs.Related
import ChatRace.Turn

/-!
# Turns in related lists

Whose turn it is, told by the list alone (`first?_eq_some`): nobody before is due as early, and nobody behind earlier.
So a turn is still the same turn if others are left out (`first?_filter`), if everything is due later by the same time
(`first?_map`), and in another list whose members are due at the same times (`first?_forall₂`).
-/

namespace ChatRace.Turn

variable {α β : Type} {due? : α → Option Nat} {due?' : β → Option Nat}

private theorem first?_append {before after : List α} {a : α} {due : Nat} (hdue : due? a = some due)
    (hbefore : ∀ b ∈ before, ∀ d, due? b = some d → due < d) (hafter : ∀ b ∈ after, ∀ d, due? b = some d → due ≤ d) :
    first? due? (before ++ a :: after) = some ⟨before, a, due, after⟩ := by
  induction before with
  | nil =>
    rw [List.nil_append, first?, hdue]
    cases hrest : first? due? after with
    | none => rfl
    | some u =>
      have hle : due ≤ u.due := hafter _ (chosen_mem hrest) _ (due?_chosen hrest)
      simp only [hle, if_true]
  | cons b before ih =>
    obtain ⟨hb, hbefore⟩ := List.forall_mem_cons.1 hbefore
    rw [List.cons_append, first?, ih hbefore]
    cases hd : due? b with
    | none => rfl
    | some d =>
      have hlt : ¬d ≤ due := Nat.not_le.2 (hb d hd)
      simp only [hlt, if_false]

private theorem due_lt {as : List α} {t : Turn α} (h : first? due? as = some t) :
    ∀ a ∈ t.before, ∀ d, due? a = some d → t.due < d := by
  induction as generalizing t with
  | nil => nomatch h
  | cons b as ih =>
    cases hr : first? due? as with
    | none =>
      cases hb : due? b with
      | none => simp [first?, hb, hr] at h
      | some d =>
        simp only [first?, hb, hr, Option.some.injEq] at h
        simp [← h]
    | some u =>
      cases hb : due? b with
      | none =>
        simp only [first?, hb, hr, Option.map_some, Option.some.injEq] at h
        rw [← h]
        refine List.forall_mem_cons.2 ⟨?_, ih hr⟩
        intro d hd
        rw [hb] at hd
        cases hd
      | some d =>
        simp only [first?, hb, hr] at h
        split at h
        · obtain rfl := Option.some.inj h
          simp
        · rename_i hlt
          obtain rfl := Option.some.inj h
          refine List.forall_mem_cons.2 ⟨?_, ih hr⟩
          intro d' hd'
          rw [hb, Option.some.injEq] at hd'
          subst hd'
          exact Nat.not_le.1 hlt

/-- It is the turn of the first that is due, and of several of the foremost. -/
theorem first?_eq_some {as : List α} {t : Turn α} :
    first? due? as = some t ↔ as = t.put t.chosen ∧ due? t.chosen = some t.due ∧
      (∀ a ∈ t.before, ∀ d, due? a = some d → t.due < d) ∧ ∀ a ∈ t.after, ∀ d, due? a = some d → t.due ≤ d := by
  constructor
  · intro h
    refine ⟨(put_chosen h).symm, due?_chosen h, due_lt h, ?_⟩
    intro a ha d hd
    refine due_le h ?_ hd
    rw [← put_chosen h, put]
    exact List.mem_append_right _ (List.mem_cons_of_mem _ ha)
  · rintro ⟨rfl, hdue, hbefore, hafter⟩
    exact first?_append hdue hbefore hafter

/-- Leaving out others does not change whose turn it is. -/
theorem first?_filter {as : List α} {t : Turn α} (h : first? due? as = some t) {p : α → Bool}
    (hp : p t.chosen = true) :
    first? due? (as.filter p) = some ⟨t.before.filter p, t.chosen, t.due, t.after.filter p⟩ := by
  obtain ⟨has, hdue, hbefore, hafter⟩ := first?_eq_some.1 h
  refine first?_eq_some.2 ⟨?_, hdue, ?_, ?_⟩
  · rw [has, put, List.filter_append, List.filter_cons_of_pos hp]
    rfl
  · intro a ha
    exact hbefore a (List.mem_filter.1 ha).1
  · intro a ha
    exact hafter a (List.mem_filter.1 ha).1

/-- The turn among the images of some things that are all due later by the same time. -/
def map (f : α → β) (later : Nat) (t : Turn α) : Turn β :=
  ⟨t.before.map f, f t.chosen, t.due + later, t.after.map f⟩

theorem first?_map {f : α → β} {later : Nat} {as : List α}
    (hf : ∀ a ∈ as, due?' (f a) = (due? a).map (· + later)) :
    first? due?' (as.map f) = (first? due? as).map (map f later) := by
  cases h : first? due? as with
  | none =>
    refine first?_eq_none.2 ?_
    intro b hb
    obtain ⟨a, ha, rfl⟩ := List.mem_map.1 hb
    rw [hf a ha, first?_eq_none.1 h a ha]
    rfl
  | some t =>
    obtain ⟨has, hdue, hbefore, hafter⟩ := first?_eq_some.1 h
    have hmem {a : α} (ha : a = t.chosen ∨ a ∈ t.before ∨ a ∈ t.after) : a ∈ as := by
      rw [has, put, List.mem_append, List.mem_cons]
      exact or_left_comm.1 ha
    refine first?_eq_some.2 ⟨?_, ?_, ?_, ?_⟩
    · rw [has, put, List.map_append, List.map_cons]
      rfl
    · show due?' (f t.chosen) = some (t.due + later)
      rw [hf _ (hmem (.inl rfl)), hdue]
      rfl
    · intro b hb d hd
      obtain ⟨a, ha, rfl⟩ := List.mem_map.1 hb
      rw [hf a (hmem (.inr (.inl ha)))] at hd
      obtain ⟨d', hd', rfl⟩ := Option.map_eq_some_iff.1 hd
      exact Nat.add_lt_add_right (hbefore a ha d' hd') later
    · intro b hb d hd
      obtain ⟨a, ha, rfl⟩ := List.mem_map.1 hb
      rw [hf a (hmem (.inr (.inr ha)))] at hd
      obtain ⟨d', hd', rfl⟩ := Option.map_eq_some_iff.1 hd
      exact Nat.add_le_add_right (hafter a ha d' hd') later

/-- The turn in a list whose members are due at the same times. -/
theorem first?_forall₂ {R : α → β → Prop} (hR : ∀ a b, R a b → due? a = due?' b) {as : List α} {bs : List β}
    (h : List.Forall₂ R as bs) {t : Turn α} (ht : first? due? as = some t) :
    ∃ u, first? due?' bs = some u ∧ u.due = t.due ∧ R t.chosen u.chosen ∧ List.Forall₂ R t.before u.before ∧
      List.Forall₂ R t.after u.after := by
  obtain ⟨has, hdue, hbefore, hafter⟩ := first?_eq_some.1 ht
  rw [has, put] at h
  obtain ⟨before', b, after', rfl, hb, hbefore', hafter'⟩ := Related.split h
  refine ⟨⟨before', b, t.due, after'⟩, first?_eq_some.2 ⟨rfl, ?_, ?_, ?_⟩, rfl, hb, hbefore', hafter'⟩
  · show due?' b = some t.due
    rw [← hR _ _ hb, hdue]
  · intro y hy d hd
    obtain ⟨x, hx, hxy⟩ := Related.exists_left hbefore' hy
    exact hbefore x hx d ((hR x y hxy).trans hd)
  · intro y hy d hd
    obtain ⟨x, hx, hxy⟩ := Related.exists_left hafter' hy
    exact hafter x hx d ((hR x y hxy).trans hd)

end ChatRace.Turn
