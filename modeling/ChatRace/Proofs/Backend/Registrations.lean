import ChatRace.Backend.Registry
import Mathlib.Data.List.Induction

/-!
# Registrations

A registry after any registrations has of each name the last backend that has been registered under it, in the order
of these last registrations (`KeepsLast`).  One registration more keeps this (`KeepsLast.register`), so it holds after
every history (`keepsLast_ofList`), and what the names and the look-up tell follows from it (`lastWins_ofList`).
-/

namespace ChatRace.Registry

/-! ### Last registrations -/

/-- The registration number `k` is of the backend `b`, and no later one is of a backend with its name. -/
structure IsLast (history : List Backend) (k : Nat) (b : Backend) : Prop where
  made : history[k]? = some b
  later : ∀ j c, k < j → history[j]? = some c → c.name ≠ b.name

variable {history : List Backend} {b c d : Backend} {j k : Nat}

private theorem getElem?_concat_eq_some :
    (history ++ [d])[k]? = some b ↔ history[k]? = some b ∨ (k = history.length ∧ b = d) := by
  rcases Nat.lt_trichotomy k history.length with hlt | rfl | hlt
  · rw [List.getElem?_append_left hlt]
    exact ⟨.inl, fun h => h.resolve_right fun hk => absurd hk.1 (Nat.ne_of_lt hlt)⟩
  · simp [eq_comm]
  · have hend : (history ++ [d])[k]? = none := by
      rw [List.getElem?_eq_none_iff, List.length_append, List.length_singleton]
      exact hlt
    have hhistory : history[k]? = none := List.getElem?_eq_none (Nat.le_of_lt hlt)
    simp [hend, hhistory, Nat.ne_of_gt hlt]

theorem IsLast.lt_length (h : IsLast history k b) : k < history.length := (List.getElem?_eq_some_iff.1 h.made).1

/-- Of each name there is one last registration. -/
theorem IsLast.unique (hb : IsLast history j b) (hc : IsLast history k c) (hname : b.name = c.name) : b = c := by
  rcases Nat.lt_trichotomy j k with hlt | rfl | hlt
  · exact absurd hname.symm (hb.later k c hlt hc.made)
  · exact Option.some.inj (hb.made.symm.trans hc.made)
  · exact absurd hname (hc.later j b hlt hb.made)

/-- A further registration is the last one of its name, and those of other names remain what they are. -/
theorem isLast_concat :
    IsLast (history ++ [d]) k b ↔ (IsLast history k b ∧ b.name ≠ d.name) ∨ (k = history.length ∧ b = d) := by
  constructor
  · intro h
    rcases getElem?_concat_eq_some.1 h.made with hmade | hnew
    · have hlt := (List.getElem?_eq_some_iff.1 hmade).1
      have hname : d.name ≠ b.name := h.later _ d hlt (getElem?_concat_eq_some.2 (.inr ⟨rfl, rfl⟩))
      exact .inl ⟨⟨hmade, fun j c hkj hc => h.later j c hkj (getElem?_concat_eq_some.2 (.inl hc))⟩, hname.symm⟩
    · exact .inr hnew
  · rintro (⟨h, hname⟩ | ⟨rfl, rfl⟩)
    · refine ⟨getElem?_concat_eq_some.2 (.inl h.made), ?_⟩
      intro j c hkj hc
      rcases getElem?_concat_eq_some.1 hc with hc | ⟨-, rfl⟩
      · exact h.later j c hkj hc
      · exact hname.symm
    · refine ⟨getElem?_concat_eq_some.2 (.inr ⟨rfl, rfl⟩), ?_⟩
      intro j c hkj hc
      have hlt := (List.getElem?_eq_some_iff.1 hc).1
      rw [List.length_append, List.length_singleton] at hlt
      omega

/-- A name that has been registered has a last registration. -/
theorem exists_isLast (h : b ∈ history) : ∃ k c, IsLast history k c ∧ c.name = b.name := by
  induction history using List.reverseRecOn with
  | nil => nomatch h
  | append_singleton history d ih =>
    by_cases hname : d.name = b.name
    · exact ⟨history.length, d, isLast_concat.2 (.inr ⟨rfl, rfl⟩), hname⟩
    · have hne : b ≠ d := fun heq => hname (congrArg Backend.name heq.symm)
      have hmem : b ∈ history := by simpa [hne] using h
      obtain ⟨k, c, hc, hcb⟩ := ih hmem
      exact ⟨k, c, isLast_concat.2 (.inl ⟨hc, fun heq => hname (heq ▸ hcb)⟩), hcb⟩

/-! ### What a registry keeps -/

/-- A registry has the last registrations of a history, in their order. -/
structure KeepsLast (history : List Backend) (r : Registry) : Prop where
  mem_iff : ∀ b, b ∈ r.backends ↔ ∃ k, IsLast history k b
  ordered : r.backends.Pairwise fun b c => ∃ j k, IsLast history j b ∧ IsLast history k c ∧ j < k

variable {r : Registry} {id : String}

/-- A registration puts its backend behind all others, in place of the one with its name. -/
theorem KeepsLast.register (h : KeepsLast history r) (d : Backend) : KeepsLast (history ++ [d]) (r.register d) := by
  have hkept {b : Backend} (hb : b ∈ r.backends.filter (·.name != d.name)) : b ∈ r.backends ∧ b.name ≠ d.name := by
    simpa using hb
  constructor
  · intro b
    have hmem : b ∈ (r.register d).backends ↔ (b ∈ r.backends ∧ b.name ≠ d.name) ∨ b = d := by
      simp [Registry.register]
    rw [hmem, h.mem_iff]
    constructor
    · rintro (⟨⟨k, hk⟩, hname⟩ | rfl)
      · exact ⟨k, isLast_concat.2 (.inl ⟨hk, hname⟩)⟩
      · exact ⟨history.length, isLast_concat.2 (.inr ⟨rfl, rfl⟩)⟩
    · rintro ⟨k, hk⟩
      rcases isLast_concat.1 hk with ⟨hk, hname⟩ | ⟨-, rfl⟩
      · exact .inl ⟨⟨k, hk⟩, hname⟩
      · exact .inr rfl
  · rw [Registry.register, List.pairwise_append]
    refine ⟨?_, List.pairwise_singleton _ _, ?_⟩
    · refine (h.ordered.sublist List.filter_sublist).imp_of_mem ?_
      rintro b c hb hc ⟨j, k, hj, hk, hjk⟩
      exact ⟨j, k, isLast_concat.2 (.inl ⟨hj, (hkept hb).2⟩), isLast_concat.2 (.inl ⟨hk, (hkept hc).2⟩), hjk⟩
    · intro b hb c hc
      obtain rfl := List.mem_singleton.1 hc
      obtain ⟨j, hj⟩ := (h.mem_iff b).1 (hkept hb).1
      exact ⟨j, history.length, isLast_concat.2 (.inl ⟨hj, (hkept hb).2⟩), isLast_concat.2 (.inr ⟨rfl, rfl⟩),
        hj.lt_length⟩

theorem ofList_concat (history : List Backend) (d : Backend) :
    ofList (history ++ [d]) = (ofList history).register d := by
  rw [ofList, List.foldl_append]
  rfl

theorem keepsLast_ofList (history : List Backend) : KeepsLast history (ofList history) := by
  induction history using List.reverseRecOn with
  | nil =>
    refine ⟨fun b => ⟨fun h => (nomatch h), ?_⟩, List.Pairwise.nil⟩
    rintro ⟨k, hk⟩
    exact absurd hk.lt_length (Nat.not_lt_zero k)
  | append_singleton history d ih =>
    rw [ofList_concat]
    exact ih.register d

/-! ### Names and look-ups -/

theorem KeepsLast.mem_ids (h : KeepsLast history r) : id ∈ r.ids ↔ ∃ b ∈ history, b.name = id := by
  rw [ids, List.mem_map]
  constructor
  · rintro ⟨b, hb, hid⟩
    obtain ⟨k, hk⟩ := (h.mem_iff b).1 hb
    exact ⟨b, List.mem_of_getElem? hk.made, hid⟩
  · rintro ⟨b, hb, hid⟩
    obtain ⟨k, c, hc, hcb⟩ := exists_isLast hb
    exact ⟨c, (h.mem_iff c).2 ⟨k, hc⟩, hcb.trans hid⟩

theorem KeepsLast.nodup_ids (h : KeepsLast history r) : r.ids.Nodup := by
  refine List.pairwise_map.2 (h.ordered.imp ?_)
  rintro b c ⟨j, k, hj, hk, hjk⟩ hname
  exact hj.later k c hjk hk.made hname.symm

/-- The look-up finds the last registration of a name. -/
theorem KeepsLast.get?_eq_some (h : KeepsLast history r) :
    r.get? id = some b ↔ b.name = id ∧ ∃ k, IsLast history k b := by
  have hfound {c : Backend} (hc : r.get? id = some c) : c.name = id ∧ ∃ k, IsLast history k c :=
    ⟨by simpa using List.find?_some hc, (h.mem_iff c).1 (List.mem_of_find?_eq_some hc)⟩
  refine ⟨hfound, ?_⟩
  rintro ⟨hid, k, hk⟩
  have hsome : (r.get? id).isSome := by
    rw [get?, List.find?_isSome]
    exact ⟨b, (h.mem_iff b).2 ⟨k, hk⟩, by simpa using hid⟩
  obtain ⟨c, hc⟩ := Option.isSome_iff_exists.1 hsome
  obtain ⟨hcid, j, hj⟩ := hfound hc
  rw [hc, hj.unique hk (hcid.trans hid.symm)]

theorem isSome_get?_iff (r : Registry) (id : String) : (r.get? id).isSome ↔ id ∈ r.ids := by
  rw [get?, List.find?_isSome, ids, List.mem_map]
  simp only [beq_iff_eq]

/-! ### Different names -/

/-- Backends of different names are all registered, in their order. -/
theorem backends_ofList (h : (history.map (·.name)).Nodup) : (ofList history).backends = history := by
  induction history using List.reverseRecOn with
  | nil => rfl
  | append_singleton history d ih =>
    rw [List.map_append, List.nodup_append] at h
    obtain ⟨hhistory, -, hnew⟩ := h
    have hkept : history.filter (·.name != d.name) = history := by
      rw [List.filter_eq_self]
      intro b hb
      rw [bne_iff_ne]
      exact hnew _ (List.mem_map.2 ⟨b, hb, rfl⟩) _ (List.mem_singleton.2 rfl)
    rw [ofList_concat, register, ih hhistory, hkept]

/-- A backend of different names is looked up by its own. -/
theorem get?_ofList (h : (history.map (·.name)).Nodup) (hb : b ∈ history) : (ofList history).get? b.name = some b := by
  have hkeeps := keepsLast_ofList history
  rw [hkeeps.get?_eq_some, ← hkeeps.mem_iff, backends_ofList h]
  exact ⟨rfl, hb⟩

/-! ### Other names -/

/-- A registration changes the look-up of no other name. -/
theorem get?_register_of_ne (r : Registry) (h : id ≠ d.name) : (r.register d).get? id = r.get? id := by
  have hnew : [d].find? (·.name == id) = none := by simpa using h.symm
  have hsame : (fun b : Backend => decide ((b.name != d.name) = true ∧ (b.name == id) = true)) =
      fun b => b.name == id := by
    funext b
    by_cases hb : b.name = id
    · simp [hb, h]
    · simp [hb]
  rw [get?, register, List.find?_append, hnew, Option.or_none, List.find?_filter, hsame]
  rfl

/-- A registration leaves the other names in their order. -/
theorem filter_ids_register (r : Registry) (d : Backend) :
    (r.register d).ids.filter (· ≠ d.name) = r.ids.filter (· ≠ d.name) := by
  have hsame : (fun b : Backend => !decide (b.name = d.name) && b.name != d.name) =
      fun b => !decide (b.name = d.name) := by
    funext b
    by_cases hb : b.name = d.name <;> simp [hb]
  simp [ids, register, List.filter_map, Function.comp_def, List.filter_filter, hsame]

/-- Take the registry after any registrations.  Its names differ from each other, are those that have been registered,
and stand in the order of their last registrations.  The look-up finds a backend for these names and no others, and it
is the one of the last registration of the name.  One more registration changes neither the look-up of another name
nor the order of the others. -/
theorem lastWins_ofList (history : List Backend) :
    (ofList history).ids.Nodup ∧
    (∀ id, id ∈ (ofList history).ids ↔ ∃ b ∈ history, b.name = id) ∧
    ((ofList history).ids.Pairwise fun id id' => ∃ j k b c, IsLast history j b ∧ b.name = id ∧
      IsLast history k c ∧ c.name = id' ∧ j < k) ∧
    (∀ id, ((ofList history).get? id).isSome ↔ ∃ b ∈ history, b.name = id) ∧
    (∀ id b, (ofList history).get? id = some b ↔ b.name = id ∧ ∃ k, IsLast history k b) ∧
    ∀ d, ofList (history ++ [d]) = (ofList history).register d ∧
      (∀ id, id ≠ d.name → ((ofList history).register d).get? id = (ofList history).get? id) ∧
      ((ofList history).register d).ids.filter (· ≠ d.name) = (ofList history).ids.filter (· ≠ d.name) := by
  have h := keepsLast_ofList history
  refine ⟨h.nodup_ids, fun id => h.mem_ids, ?_, ?_, fun id b => h.get?_eq_some, ?_⟩
  · refine List.pairwise_map.2 (h.ordered.imp ?_)
    rintro b c ⟨j, k, hj, hk, hjk⟩
    exact ⟨j, k, b, c, hj, rfl, hk, rfl, hjk⟩
  · intro id
    rw [isSome_get?_iff, h.mem_ids]
  · intro d
    exact ⟨ofList_concat history d, fun id hid => get?_register_of_ne _ hid, filter_ids_register _ d⟩

end ChatRace.Registry
