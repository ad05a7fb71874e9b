import ChatRace.Config.Basic
import ChatRace.Proofs.Related
import ChatRace.Proofs.Text.Entries

/-!
# Lists of backends

An entry has its id before the first equals sign and its URL behind it (`Parts`).  A list of backends is read exactly
if its entries are sound, and otherwise the fault is that of the first entry that is not (`exists_ofEntries_iff`,
`exists_complaint`).  What is read can be written, and is read from what is written (`Complete.isWritable`,
`ofText_written`), so that the lists that are read are the lists of writable specifications of different ids
(`exists_ofText_iff`).
-/

namespace ChatRace.BackendSpec

variable {e : String} {es seen before : List String} {spec : BackendSpec} {specs : List BackendSpec}
  {fault : ConfigFault} {message : String}

/-! ### One entry -/

/-- The entry has an equals sign, and around the first one stand an id and a URL with blanks around them; each of the
two may be empty. -/
inductive Parts : String → BackendSpec → Prop
  | around {front : String} (back : String) :
      '=' ∉ front.toList → Parts (front ++ "=" ++ back) ⟨Text.trim front, Text.trim back⟩

/-- The entry has an equals sign with an id before it and a URL behind it. -/
structure Complete (entry : String) (spec : BackendSpec) : Prop where
  parts : Parts entry spec
  id : spec.id ≠ ""
  baseUrl : spec.baseUrl ≠ ""

theorem notMem_or_exists_parts (e : String) : '=' ∉ e.toList ∨ ∃ spec, Parts e spec := by
  by_cases h : '=' ∈ e.toList
  · obtain ⟨front, back, hlist, hfront⟩ := List.eq_append_cons_of_mem h
    have he : String.ofList front ++ "=" ++ String.ofList back = e := by
      rw [← String.toList_inj, hlist]
      simp
    exact .inr ⟨_, he ▸ Parts.around (String.ofList back) (by simpa using hfront)⟩
  · exact .inl h

theorem ofEntry_of_notMem (h : '=' ∉ e.toList) : ofEntry e = .error (.noUrl e) := by
  have hdrop : e.toList.dropWhile (· != '=') = [] := by
    rw [List.dropWhile_eq_nil_iff]
    intro c hc
    rw [bne_iff_ne]
    rintro rfl
    exact h hc
  simp only [ofEntry, hdrop]

theorem Parts.ofEntry_eq (h : Parts e spec) :
    ofEntry e = if spec.id = "" ∨ spec.baseUrl = "" then .error (.emptyPart e) else .ok spec := by
  obtain ⟨back, hfront⟩ := h
  rename_i front
  have hpos : ∀ c ∈ front.toList, (c != '=') = true := by
    intro c hc
    rw [bne_iff_ne]
    rintro rfl
    exact hfront hc
  have hlist : (front ++ "=" ++ back).toList = front.toList ++ '=' :: back.toList := by simp
  have hdrop : (front ++ "=" ++ back).toList.dropWhile (· != '=') = '=' :: back.toList := by
    rw [hlist, List.dropWhile_append_of_pos hpos]
    rfl
  have htake : (front ++ "=" ++ back).toList.takeWhile (· != '=') = front.toList := by
    rw [hlist, List.takeWhile_append_of_pos hpos]
    simp
  simp only [ofEntry, hdrop, htake, Text.trim, Bool.or_eq_true, List.isEmpty_iff, String.ofList_eq_empty_iff]

theorem ofEntry_eq_ok : ofEntry e = .ok spec ↔ Complete e spec := by
  constructor
  · intro h
    rcases notMem_or_exists_parts e with hsign | ⟨s, hs⟩
    · rw [ofEntry_of_notMem hsign] at h
      cases h
    · rw [hs.ofEntry_eq] at h
      split at h
      · cases h
      · rename_i hfull
        cases h
        exact ⟨hs, fun hid => hfull (.inl hid), fun hurl => hfull (.inr hurl)⟩
  · rintro ⟨hparts, hid, hurl⟩
    rw [hparts.ofEntry_eq, if_neg (by simp [hid, hurl])]

/-- An entry is read in one way. -/
theorem Complete.unique {s t : BackendSpec} (hs : Complete e s) (ht : Complete e t) : s = t :=
  Except.ok.inj ((ofEntry_eq_ok.2 hs).symm.trans (ofEntry_eq_ok.2 ht))

/-! ### All entries -/

theorem ofEntries_cons_eq_ok : ofEntries seen (e :: es) = .ok specs ↔
    ∃ s rest, Complete e s ∧ s.id ∉ seen ∧ ofEntries (s.id :: seen) es = .ok rest ∧ specs = s :: rest := by
  rw [ofEntries]
  constructor
  · intro h
    split at h
    · cases h
    · rename_i s hs
      split at h
      · cases h
      · rename_i hseen
        split at h
        · cases h
        · rename_i rest hrest
          cases h
          exact ⟨s, rest, ofEntry_eq_ok.1 hs, by simpa using hseen, hrest, rfl⟩
  · rintro ⟨s, rest, hs, hseen, hrest, rfl⟩
    simp [ofEntry_eq_ok.2 hs, hseen, hrest]

theorem ofEntries_cons_eq_error : ofEntries seen (e :: es) = .error fault ↔
    ofEntry e = .error fault ∨ ∃ s, Complete e s ∧
      (s.id ∈ seen ∧ fault = .duplicate s.id ∨ s.id ∉ seen ∧ ofEntries (s.id :: seen) es = .error fault) := by
  rw [ofEntries]
  constructor
  · intro h
    split at h
    · cases h
      exact .inl ‹_›
    · rename_i s hs
      refine .inr ⟨s, ofEntry_eq_ok.1 hs, ?_⟩
      split at h
      · rename_i hseen
        cases h
        exact .inl ⟨by simpa using hseen, rfl⟩
      · rename_i hseen
        split at h
        · cases h
          exact .inr ⟨by simpa using hseen, ‹_›⟩
        · cases h
  · rintro (h | ⟨s, hs, ⟨hseen, rfl⟩ | ⟨hseen, h⟩⟩)
    · simp [h]
    · simp [ofEntry_eq_ok.2 hs, hseen]
    · simp [ofEntry_eq_ok.2 hs, hseen, h]

/-- Entries are read if each of them is complete and their ids differ from each other and from those before them. -/
theorem ofEntries_eq_ok : ofEntries seen es = .ok specs ↔
    List.Forall₂ Complete es specs ∧ (specs.map (·.id)).Nodup ∧ ∀ s ∈ specs, s.id ∉ seen := by
  induction es generalizing seen specs with
  | nil =>
    rw [ofEntries, List.forall₂_nil_left_iff]
    constructor
    · rintro ⟨⟩
      simp
    · rintro ⟨rfl, -⟩
      rfl
  | cons e es ih =>
    rw [ofEntries_cons_eq_ok, List.forall₂_cons_left_iff]
    constructor
    · rintro ⟨s, rest, hs, hseen, hrest, rfl⟩
      obtain ⟨hall, hnodup, hnew⟩ := ih.1 hrest
      refine ⟨⟨s, rest, hs, hall, rfl⟩, ?_, ?_⟩
      · rw [List.map_cons, List.nodup_cons, List.mem_map]
        refine ⟨?_, hnodup⟩
        rintro ⟨t, ht, hid⟩
        exact hnew t ht (by rw [hid]; exact List.mem_cons_self ..)
      · rw [List.forall_mem_cons]
        exact ⟨hseen, fun t ht hid => hnew t ht (List.mem_cons_of_mem _ hid)⟩
    · rintro ⟨⟨s, rest, hs, hall, rfl⟩, hnodup, hnew⟩
      rw [List.map_cons, List.nodup_cons, List.mem_map] at hnodup
      rw [List.forall_mem_cons] at hnew
      refine ⟨s, rest, hs, hnew.1, ih.2 ⟨hall, hnodup.2, ?_⟩, rfl⟩
      intro t ht hid
      rcases List.mem_cons.1 hid with hid | hid
      · exact hnodup.1 ⟨t, ht, hid⟩
      · exact hnew.2 t ht hid

/-- In front of the entry at fault, all entries are read. -/
theorem exists_of_ofEntries_eq_error (h : ofEntries seen es = .error fault) :
    ∃ before e after specs, es = before ++ e :: after ∧ ofEntries seen before = .ok specs ∧
      (ofEntry e = .error fault ∨
        ∃ s, Complete e s ∧ (s.id ∈ seen ∨ ∃ t ∈ specs, t.id = s.id) ∧ fault = .duplicate s.id) := by
  induction es generalizing seen with
  | nil =>
    rw [ofEntries] at h
    cases h
  | cons e es ih =>
    rcases ofEntries_cons_eq_error.1 h with h | ⟨s, hs, ⟨hseen, hdup⟩ | ⟨hseen, h⟩⟩
    · exact ⟨[], e, es, [], rfl, rfl, .inl h⟩
    · exact ⟨[], e, es, [], rfl, rfl, .inr ⟨s, hs, .inl hseen, hdup⟩⟩
    · obtain ⟨before, e', after, specs, rfl, hbefore, hfault⟩ := ih h
      refine ⟨e :: before, e', after, s :: specs, rfl, ofEntries_cons_eq_ok.2 ⟨s, specs, hs, hseen, hbefore, rfl⟩, ?_⟩
      refine hfault.imp_right ?_
      rintro ⟨t, ht, hdup, hft⟩
      refine ⟨t, ht, ?_, hft⟩
      rcases hdup with hdup | ⟨u, hu, hid⟩
      · rcases List.mem_cons.1 hdup with hid | hdup
        · exact .inr ⟨s, List.mem_cons_self .., hid.symm⟩
        · exact .inl hdup
      · exact .inr ⟨u, List.mem_cons_of_mem s hu, hid⟩

/-! ### Sound entries -/

/-- Whether all entries are complete, and no two have the same id. -/
structure Sound (entries : List String) : Prop where
  complete : ∀ e ∈ entries, ∃ spec, Complete e spec
  distinct : entries.Pairwise fun e e' => ∀ s t, Complete e s → Complete e' t → s.id ≠ t.id

/-- The entries that are read are the sound ones. -/
theorem exists_ofEntries_iff : (∃ specs, ofEntries [] es = .ok specs) ↔ Sound es := by
  simp only [ofEntries_eq_ok, List.not_mem_nil, not_false_eq_true, implies_true, and_true]
  constructor
  · rintro ⟨specs, hall, hnodup⟩
    refine ⟨fun e he => (Related.exists_right hall he).imp fun _ h => h.2, ?_⟩
    induction hall with
    | nil => exact .nil
    | cons hs hall ih =>
      rw [List.map_cons, List.nodup_cons] at hnodup
      refine .cons ?_ (ih hnodup.2)
      intro e he s t hs' ht hid
      obtain ⟨t', ht', hcomplete⟩ := Related.exists_right hall he
      refine hnodup.1 (List.mem_map.2 ⟨t', ht', ?_⟩)
      rw [hs.unique hs', hid, hcomplete.unique ht]
  · rintro ⟨hcomplete, hdistinct⟩
    induction es with
    | nil => exact ⟨[], .nil, List.nodup_nil⟩
    | cons e es ih =>
      rw [List.forall_mem_cons] at hcomplete
      rw [List.pairwise_cons] at hdistinct
      obtain ⟨s, hs⟩ := hcomplete.1
      obtain ⟨specs, hall, hnodup⟩ := ih hcomplete.2 hdistinct.2
      refine ⟨s :: specs, .cons hs hall, List.nodup_cons.2 ⟨?_, hnodup⟩⟩
      rw [List.mem_map]
      rintro ⟨t, ht, hid⟩
      obtain ⟨e', he', hte⟩ := Related.exists_left hall ht
      exact hdistinct.1 e' he' s t hs hte hid.symm

/-- A message tells what is wrong with an entry that comes behind some others. -/
inductive Complaint (before : List String) (entry : String) : String → Prop
  | noSign : '=' ∉ entry.toList → Complaint before entry ("backend entry `" ++ entry ++ "` must look like id=base_url")
  | emptyPart {spec : BackendSpec} : Parts entry spec → spec.id = "" ∨ spec.baseUrl = "" →
      Complaint before entry ("backend entry `" ++ entry ++ "` has an empty id or url")
  | duplicate {spec spec' : BackendSpec} {e : String} : Complete entry spec → e ∈ before → Complete e spec' →
      spec'.id = spec.id → Complaint before entry ("backend `" ++ spec.id ++ "` is configured twice")

theorem complaint_of_ofEntry_eq_error (h : ofEntry e = .error fault) : Complaint before e fault.message := by
  rcases notMem_or_exists_parts e with hsign | ⟨s, hs⟩
  · rw [ofEntry_of_notMem hsign] at h
    cases h
    exact .noSign hsign
  · rw [hs.ofEntry_eq] at h
    split at h
    · cases h
      exact .emptyPart hs ‹_›
    · cases h

/-- The fault of a list is that of its first entry which is not sound behind those before it. -/
theorem exists_complaint (h : ofEntries [] es = .error fault) :
    ∃ before e after, es = before ++ e :: after ∧ Sound before ∧ Complaint before e fault.message := by
  obtain ⟨before, e, after, specs, hes, hbefore, hfault⟩ := exists_of_ofEntries_eq_error h
  refine ⟨before, e, after, hes, exists_ofEntries_iff.1 ⟨specs, hbefore⟩, ?_⟩
  rcases hfault with hfault | ⟨s, hs, hdup, rfl⟩
  · exact complaint_of_ofEntry_eq_error hfault
  · obtain ⟨t, ht, hid⟩ := hdup.resolve_left List.not_mem_nil
    obtain ⟨e', he', hcomplete⟩ := Related.exists_left (ofEntries_eq_ok.1 hbefore).1 ht
    exact .duplicate hs he' hcomplete hid

/-! ### Writing -/

/-- Whether a specification can stand in a list of backends. -/
structure IsWritable (spec : BackendSpec) : Prop where
  id : Text.IsTrimmed spec.id.toList
  baseUrl : Text.IsTrimmed spec.baseUrl.toList
  comma_id : ',' ∉ spec.id.toList
  comma_baseUrl : ',' ∉ spec.baseUrl.toList
  sign_id : '=' ∉ spec.id.toList

/-- The entry of a specification. -/
def entry (spec : BackendSpec) : String := spec.id ++ "=" ++ spec.baseUrl

/-- The list of backends that some specifications make. -/
def written (specs : List BackendSpec) : String := ",".intercalate (specs.map entry)

theorem Complete.isWritable (h : Complete e spec) (he : ',' ∉ e.toList) : spec.IsWritable := by
  obtain ⟨⟨back, hfront⟩, hid, hurl⟩ := h
  rename_i front
  have hcommas : ',' ∉ front.toList ∧ ',' ∉ back.toList := by simpa using he
  have hpart {part : String} {c : Char} (hc : c ∈ (Text.trim part).toList) : c ∈ part.toList := by
    rw [Text.trim, String.toList_ofList] at hc
    exact Text.mem_of_mem_trimChars hc
  exact ⟨Text.isTrimmed_trim hid, Text.isTrimmed_trim hurl, fun h => hcommas.1 (hpart h), fun h => hcommas.2 (hpart h),
    fun h => hfront (hpart h)⟩

theorem IsWritable.complete (h : spec.IsWritable) : Complete spec.entry spec := by
  have hne {part : String} (hpart : Text.IsTrimmed part.toList) : part ≠ "" := by
    rintro rfl
    exact hpart.ne_nil rfl
  refine ⟨?_, hne h.id, hne h.baseUrl⟩
  have hparts := Parts.around spec.baseUrl h.sign_id
  rwa [h.id.trim_eq, h.baseUrl.trim_eq] at hparts

theorem entries_written (h : ∀ s ∈ specs, s.IsWritable) : Text.entries (written specs) = specs.map entry := by
  refine Text.entries_intercalate_of_isTrimmed (List.forall_mem_map.2 fun s hs => ?_)
  have hlist : s.entry.toList = s.id.toList ++ ['='] ++ s.baseUrl.toList := by simp [entry]
  rw [hlist]
  exact ⟨(h s hs).id.append ['='] (h s hs).baseUrl, by simp [(h s hs).comma_id, (h s hs).comma_baseUrl]⟩

/-- Writable specifications of different ids are read from what they make. -/
theorem ofText_written (h : ∀ s ∈ specs, s.IsWritable) (hnodup : (specs.map (·.id)).Nodup) :
    ofText (written specs) = .ok specs := by
  rw [ofText, entries_written h, ofEntries_eq_ok, List.forall₂_map_left_iff, List.forall₂_same]
  exact ⟨fun s hs => (h s hs).complete, hnodup, fun s _ => List.not_mem_nil⟩

/-- What is read from a list can be written, and its ids are different. -/
theorem isWritable_of_ofText {raw : String} (h : ofText raw = .ok specs) :
    (∀ s ∈ specs, s.IsWritable) ∧ (specs.map (·.id)).Nodup := by
  obtain ⟨hall, hnodup, -⟩ := ofEntries_eq_ok.1 h
  refine ⟨fun s hs => ?_, hnodup⟩
  obtain ⟨e, he, hcomplete⟩ := Related.exists_left hall hs
  exact hcomplete.isWritable (Text.of_mem_entries he).2

/-- The lists that texts are read as. -/
theorem exists_ofText_iff :
    (∃ raw, ofText raw = .ok specs) ↔ (∀ s ∈ specs, s.IsWritable) ∧ (specs.map (·.id)).Nodup :=
  ⟨fun ⟨_, h⟩ => isWritable_of_ofText h, fun ⟨h, hnodup⟩ => ⟨written specs, ofText_written h hnodup⟩⟩

/-- Cut any text at its commas, trim the pieces and leave out the blank ones.  The text is read exactly if the entries
that remain are sound, and then as one specification for each of them, in their order.  The ids differ from each
other, ids and URLs are trimmed and have neither commas nor, in the ids, equals signs, and the list that is written of
them is read as the same.  Otherwise the fault is that of the first entry which breaks a rule, and its message says
which one. -/
theorem ofText_reads_sound (raw : String) :
    ∃ pieces : List String, ",".intercalate pieces = raw ∧ (∀ p ∈ pieces, ',' ∉ p.toList) ∧
    let entries := (pieces.map Text.trim).filter (· ≠ "")
    ((∃ specs, ofText raw = .ok specs) ↔ Sound entries) ∧
    (∀ specs, ofText raw = .ok specs →
      List.Forall₂ Complete entries specs ∧ (specs.map (·.id)).Nodup ∧ (∀ s ∈ specs, s.IsWritable) ∧
      ofText (written specs) = .ok specs) ∧
    ∀ fault, ofText raw = .error fault →
      ∃ before e after, entries = before ++ e :: after ∧ Sound before ∧ Complaint before e fault.message := by
  obtain ⟨pieces, rfl, hpieces⟩ := Text.exists_pieces raw
  refine ⟨pieces, rfl, hpieces, ?_⟩
  intro entries
  have hread : ofText (",".intercalate pieces) = ofEntries [] entries := by
    rw [ofText, Text.entries_intercalate hpieces]
  refine ⟨?_, ?_, ?_⟩
  · rw [hread]
    exact exists_ofEntries_iff
  · intro specs h
    obtain ⟨hwritable, hnodup⟩ := isWritable_of_ofText h
    rw [hread] at h
    exact ⟨(ofEntries_eq_ok.1 h).1, hnodup, hwritable, ofText_written hwritable hnodup⟩
  · intro fault h
    rw [hread] at h
    exact exists_complaint h

/-- Equals signs behind the first one belong to the URL. -/
example : ofText " a = http://x?k=v ,, b=y" = .ok [⟨"a", "http://x?k=v"⟩, ⟨"b", "y"⟩] := by decide

end ChatRace.BackendSpec
