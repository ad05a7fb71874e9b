/-!
# Turns

Whose turn it is among some things that each become due at a time or not at all: the one that is due first,
and of several the foremost. `Turn.first?` takes it out of the list.
-/

namespace ChatRace

/-- What is due first, and what stands before and behind it. -/
structure Turn (α : Type) where
  before : List α
  chosen : α
  due : Nat
  after : List α

namespace Turn

/-- What is due first; nothing if nothing is due at all. -/
def first? (due? : α → Option Nat) : List α → Option (Turn α)
  | [] => none
  | a :: as =>
    match due? a, first? due? as with
    | none, t => t.map fun t => { t with before := a :: t.before }
    | some due, none => some ⟨[], a, due, as⟩
    | some due, some t =>
      if due ≤ t.due then some ⟨[], a, due, as⟩ else some { t with before := a :: t.before }

/-- The list with something else in the place of what was chosen. -/
def put (t : Turn α) (a : α) : List α := t.before ++ a :: t.after

theorem first?_eq_none {due? : α → Option Nat} {as : List α} :
    first? due? as = none ↔ ∀ a ∈ as, due? a = none := by
  induction as with
  | nil => simp [first?]
  | cons a as ih =>
    cases hd : due? a with
    | none => simp [first?, hd, ih]
    | some due =>
      cases hr : first? due? as with
      | none => simp [first?, hd, hr]
      | some u =>
        simp only [first?, hd, hr]
        split <;> simp [hd]

/-- Nothing is lost or added. -/
theorem put_chosen {due? : α → Option Nat} {as : List α} {t : Turn α} (h : first? due? as = some t) :
    t.put t.chosen = as := by
  induction as generalizing t with
  | nil => simp [first?] at h
  | cons a as ih =>
    cases hd : due? a with
    | none =>
      simp only [first?, hd, Option.map_eq_some_iff] at h
      obtain ⟨u, hu, rfl⟩ := h
      simpa [put] using ih hu
    | some due =>
      cases hr : first? due? as with
      | none =>
        simp only [first?, hd, hr, Option.some.injEq] at h
        simp [← h, put]
      | some u =>
        simp only [first?, hd, hr] at h
        split at h
        · simp only [Option.some.injEq] at h
          simp [← h, put]
        · simp only [Option.some.injEq] at h
          have := ih hr
          simp only [put] at this
          simp [← h, put, this]

theorem chosen_mem {due? : α → Option Nat} {as : List α} {t : Turn α} (h : first? due? as = some t) :
    t.chosen ∈ as := by
  rw [← put_chosen h]
  simp [put]

theorem due?_chosen {due? : α → Option Nat} {as : List α} {t : Turn α} (h : first? due? as = some t) :
    due? t.chosen = some t.due := by
  induction as generalizing t with
  | nil => simp [first?] at h
  | cons a as ih =>
    cases hd : due? a with
    | none =>
      simp only [first?, hd, Option.map_eq_some_iff] at h
      obtain ⟨u, hu, rfl⟩ := h
      exact ih (t := u) hu
    | some due =>
      cases hr : first? due? as with
      | none =>
        simp only [first?, hd, hr, Option.some.injEq] at h
        simp [← h, hd]
      | some u =>
        simp only [first?, hd, hr] at h
        split at h
        · simp only [Option.some.injEq] at h
          simp [← h, hd]
        · simp only [Option.some.injEq] at h
          simpa [← h] using ih hr

/-- Nobody is due before the one whose turn it is. -/
theorem due_le {due? : α → Option Nat} {as : List α} {t : Turn α} (h : first? due? as = some t) {a : α}
    {d : Nat} (ha : a ∈ as) (hd : due? a = some d) : t.due ≤ d := by
  induction as generalizing t with
  | nil => simp at ha
  | cons b as ih =>
    cases hb : due? b with
    | none =>
      simp only [first?, hb, Option.map_eq_some_iff] at h
      obtain ⟨u, hu, rfl⟩ := h
      rcases List.mem_cons.1 ha with rfl | ha
      · simp [hb] at hd
      · exact ih (t := u) hu ha
    | some due =>
      cases hr : first? due? as with
      | none =>
        simp only [first?, hb, hr, Option.some.injEq] at h
        rcases List.mem_cons.1 ha with rfl | ha
        · simp only [hb, Option.some.injEq] at hd
          simp [← h, hd]
        · simp [first?_eq_none.1 hr a ha] at hd
      | some u =>
        simp only [first?, hb, hr] at h
        rcases List.mem_cons.1 ha with rfl | ha
        · simp only [hb, Option.some.injEq] at hd
          split at h <;> simp only [Option.some.injEq] at h <;> simp only [← h] <;> omega
        · have hu := ih hr ha
          split at h <;> simp only [Option.some.injEq] at h <;> simp only [← h] <;> omega

end Turn

end ChatRace
