import ChatRace.Proofs.Race.Decision
import Mathlib.Data.Nat.Find

/-!
# The result of a race

A race between registered candidates comes to what its candidates come to on their own (`aloneOf`), whatever
the order in which they are listed: the one that has its unit first wins, at that time; if all fail in time the
race is lost with the last failure; and in all other cases the deadline ends it (`decide_of_noTies`).
-/

namespace ChatRace

open Chat

theorem Registry.name_of_get? {registry : Registry} {id : String} {b : Backend} (h : registry.get? id = some b) :
    b.name = id := by
  have := List.find?_some h
  simpa using this

namespace Race

/-! ### Candidates and entrants -/

theorem resolve_eq_ok_iff {registry : Registry} {ids : List String} {bs : List Backend} :
    resolve registry ids = .ok bs ↔ ids.map registry.get? = bs.map some := by
  induction ids generalizing bs with
  | nil => cases bs <;> simp [resolve]
  | cons id ids ih =>
    cases hg : registry.get? id with
    | none => cases bs <;> simp [resolve, hg]
    | some b =>
      cases hr : resolve registry ids with
      | error e =>
        have hno : ∀ bs : List Backend, ids.map registry.get? ≠ bs.map some := by
          intro bs hbs
          simp [ih.2 hbs] at hr
        cases bs with
        | nil => simp [resolve, hg, hr]
        | cons b' bs => simp [resolve, hg, hr, hno bs]
      | ok bs' =>
        cases bs with
        | nil => simp [resolve, hg, hr]
        | cons b' bs => simp [resolve, hg, hr, ← ih]

theorem exists_resolve {registry : Registry} {ids : List String} (h : ∀ id ∈ ids, (registry.get? id).isSome) :
    ∃ bs, resolve registry ids = .ok bs := by
  induction ids with
  | nil => exact ⟨[], rfl⟩
  | cons id ids ih =>
    obtain ⟨b, hb⟩ := Option.isSome_iff_exists.1 (h id (List.mem_cons_self ..))
    obtain ⟨bs, hbs⟩ := ih fun i hi => h i (List.mem_cons_of_mem _ hi)
    exact ⟨b :: bs, by simp [resolve, hb, hbs]⟩

theorem mem_resolve {registry : Registry} {ids : List String} {bs : List Backend}
    (h : resolve registry ids = .ok bs) {b : Backend} :
    b ∈ bs ↔ ∃ id ∈ ids, registry.get? id = some b := by
  have hmap := resolve_eq_ok_iff.1 h
  have : some b ∈ bs.map some ↔ b ∈ bs := by simp
  rw [← this, ← hmap, List.mem_map]

theorem names_resolve {registry : Registry} {ids : List String} {bs : List Backend}
    (h : resolve registry ids = .ok bs) : bs.map (·.name) = ids := by
  have hmap := resolve_eq_ok_iff.1 h
  clear h
  induction ids generalizing bs with
  | nil =>
    cases bs with
    | nil => rfl
    | cons b bs => simp at hmap
  | cons id ids ih =>
    cases bs with
    | nil => simp at hmap
    | cons b bs =>
      rw [List.map_cons, List.map_cons, List.cons.injEq] at hmap
      rw [List.map_cons, Registry.name_of_get? hmap.1, ih hmap.2]

theorem ne_nil_of_resolve {registry : Registry} {ids : List String} {bs : List Backend} (hsome : ids ≠ [])
    (h : resolve registry ids = .ok bs) : bs ≠ [] := by
  rintro rfl
  exact hsome (names_resolve h).symm

/-- The attempt that a race makes with a backend, when the call has been made at `now`. -/
def attempt (b : Backend) (now : Nat) (request : RaceRequest) : Attempt :=
  ((Attempt.create b (request.forBackend b.name)).launch now).1

theorem due?_attempt (b : Backend) (now : Nat) (request : RaceRequest) :
    ∃ d, (attempt b now request).due? = some d ∧ now ≤ d :=
  ⟨now + (Attempt.create b (request.forBackend b.name)).latency, rfl, Nat.le_add_right ..⟩

/-- What a candidate comes to on its own, and when, if it is called at `now`. -/
def aloneOf (registry : Registry) (now : Nat) (request : RaceRequest) (id : String) :
    Option (Nat × Except BackendError FirstUnit) :=
  (registry.get? id).bind fun b => (attempt b now request).alone now

/-- The race between some backends when all calls have been made. -/
def launched (bs : List Backend) (limit now : Nat) (request : RaceRequest) : Race :=
  (between bs limit now request).launch.1

theorem entrants_launched (bs : List Backend) (limit now : Nat) (request : RaceRequest) :
    (launched bs limit now request).entrants = bs.map fun b => ⟨attempt b now request, .pending⟩ := by
  simp [launched, launch, between, attempt]

theorem mem_launched {bs : List Backend} {limit now : Nat} {request : RaceRequest} {e : Entrant} :
    e ∈ (launched bs limit now request).entrants ↔ ∃ b ∈ bs, e = ⟨attempt b now request, .pending⟩ := by
  simp only [entrants_launched, List.mem_map, eq_comm]

theorem isUnderWay_launched {bs : List Backend} (h : bs ≠ []) (limit now : Nat) (request : RaceRequest) :
    (launched bs limit now request).IsUnderWay := by
  refine ⟨?_, ?_, ?_⟩
  · intro e he _
    obtain ⟨b, -, rfl⟩ := mem_launched.1 he
    exact due?_attempt b now request
  · obtain ⟨b, hb⟩ := List.exists_mem_of_ne_nil _ h
    exact ⟨_, mem_launched.2 ⟨b, hb, rfl⟩, rfl⟩
  · intro e he hp
    obtain ⟨b, -, rfl⟩ := mem_launched.1 he
    simp [Entrant.isPending] at hp

theorem enter_eq_ok {registry : Registry} {limit now : Nat} {request : RaceRequest} {bs : List Backend}
    (hsome : request.candidates ≠ []) (hbs : resolve registry request.candidates = .ok bs) (hlimit : limit ≠ 0) :
    enter registry limit now request = .ok (between bs limit now request) := by
  simp [enter, hsome, hbs, hlimit]

theorem of_enter_eq_ok {registry : Registry} {limit now : Nat} {request : RaceRequest} {r : Race}
    (h : enter registry limit now request = .ok r) :
    ∃ bs, bs ≠ [] ∧ resolve registry request.candidates = .ok bs ∧ r = between bs limit now request := by
  unfold enter at h
  split at h
  · simp at h
  · rename_i hsome
    split at h
    · simp at h
    · rename_i bs hbs
      refine ⟨bs, ?_, hbs, by split at h <;> simp_all⟩
      rintro rfl
      simp [← names_resolve hbs] at hsome

/-- There is no race without candidates, with unknown ones, or without time. -/
theorem enter_eq_error {registry : Registry} {limit now : Nat} {request : RaceRequest} {e : RaceError}
    (h : enter registry limit now request = .error e) :
    e = .noCandidates ∨ (∃ id, e = .unknownBackend id) ∨ (e = .timeout 0 ∧ limit = 0) := by
  have hresolve (ids : List String) (h : resolve registry ids = .error e) : ∃ id, e = .unknownBackend id := by
    induction ids with
    | nil => nomatch h
    | cons id ids ih =>
      simp only [resolve] at h
      split at h
      · exact ⟨id, (Except.error.inj h).symm⟩
      · split at h
        · nomatch h
        · rename_i e' he'
          rw [Except.error.inj h] at he'
          exact ih he'
  unfold enter at h
  split at h
  · exact .inl (Except.error.inj h).symm
  · split at h
    · rename_i e' he'
      rw [Except.error.inj h] at he'
      exact .inr (.inl (hresolve _ he'))
    · split at h
      · rename_i hlimit
        exact .inr (.inr ⟨(Except.error.inj h).symm, hlimit⟩)
      · nomatch h

theorem limit_ne_zero {registry : Registry} {limit now : Nat} {request : RaceRequest} {r : Race}
    (h : enter registry limit now request = .ok r) : limit ≠ 0 := by
  rintro rfl
  unfold enter at h
  split at h
  · nomatch h
  · split at h <;> nomatch h

theorem length_resolve {registry : Registry} {ids : List String} {bs : List Backend}
    (h : resolve registry ids = .ok bs) : bs.length = ids.length := by
  simpa using congrArg List.length (names_resolve h)

theorem decide_eq_run {registry : Registry} {limit now : Nat} {request : RaceRequest} {bs : List Backend}
    (hsome : request.candidates ≠ []) (hbs : resolve registry request.candidates = .ok bs) (hlimit : limit ≠ 0) :
    (decide registry limit now request).1 = (launched bs limit now request).run.1 := by
  simp [decide, enter_eq_ok hsome hbs hlimit, launched]

private theorem tally_launched {registry : Registry} {limit now : Nat} {request : RaceRequest} {bs : List Backend}
    (hbs : resolve registry request.candidates = .ok bs) :
    (launched bs limit now request).tally = request.candidates := by
  have hall : (launched bs limit now request).entrants.filter (·.isPending) =
      (launched bs limit now request).entrants := by
    apply List.filter_eq_self.2
    intro e he
    obtain ⟨b, -, rfl⟩ := mem_launched.1 he
    rfl
  rw [tally, hall, entrants_launched, List.map_map, ← names_resolve hbs]
  rfl

/-- A race between registered candidates is won before its deadline, or lost before it by each candidate, or it is
lost at its deadline. -/
theorem decide_cases {registry : Registry} {request : RaceRequest} (limit now : Nat)
    (hsome : request.candidates ≠ []) (hknown : ∀ id ∈ request.candidates, (registry.get? id).isSome) :
    (∃ t w, (decide registry limit now request).1 = ⟨t, .ok w⟩ ∧ t < now + limit) ∨
    (∃ t fs, (decide registry limit now request).1 = ⟨t, .error (.allFailed fs)⟩ ∧ t < now + limit ∧
      (fs.map (·.backend)).Perm request.candidates) ∨
    (decide registry limit now request).1 = ⟨now + limit, .error (.timeout (limit * 1000))⟩ := by
  obtain ⟨bs, hbs⟩ := exists_resolve hknown
  by_cases hlimit : limit = 0
  · subst hlimit
    simp [decide, enter, hsome, hbs]
  · have hway := isUnderWay_launched (ne_nil_of_resolve hsome hbs) limit now request
    obtain ⟨hverdict, -⟩ := hway.isVerdict_run
    rw [decide_eq_run hsome hbs hlimit]
    cases hv : (launched bs limit now request).run.1 with
    | mk t result =>
      rw [hv] at hverdict
      cases hverdict with
      | won w hlt => exact .inl ⟨t, w, rfl, hlt⟩
      | lost fs hlt =>
        have hperm := hway.perm_of_allFailed (congrArg Verdict.result hv)
        rw [tally_launched hbs] at hperm
        exact .inr (.inl ⟨t, fs, rfl, hlt, hperm⟩)
      | expired => exact .inr (.inr rfl)

/-! ### The result -/

/-- No two candidates are ready at the same time, and none at the deadline. -/
structure NoTies (registry : Registry) (limit now : Nat) (request : RaceRequest) : Prop where
  candidates : ∀ a ∈ request.candidates, ∀ b ∈ request.candidates, a ≠ b → ∀ s x t y,
    aloneOf registry now request a = some (s, x) → aloneOf registry now request b = some (t, y) → s ≠ t
  deadline : ∀ a ∈ request.candidates, ∀ t x, aloneOf registry now request a = some (t, x) → t ≠ now + limit

/-- A candidate has a unit in time, and what it is. -/
def Answers (registry : Registry) (limit now : Nat) (request : RaceRequest) (id : String) (t : Nat)
    (u : FirstUnit) : Prop :=
  id ∈ request.candidates ∧ aloneOf registry now request id = some (t, .ok u) ∧ t < now + limit

/-- A candidate fails in time. -/
def Fails (registry : Registry) (limit now : Nat) (request : RaceRequest) (id : String) (t : Nat) : Prop :=
  id ∈ request.candidates ∧ (∃ err, aloneOf registry now request id = some (t, .error err)) ∧ t < now + limit

section

variable {registry : Registry} {limit now : Nat} {request : RaceRequest} {bs : List Backend}

theorem aloneOf_eq {id : String} {b : Backend} (h : registry.get? id = some b) :
    aloneOf registry now request id = (attempt b now request).alone now := by
  simp [aloneOf, h]

theorem aloneOf_eq_some {id : String} {b : Backend} (h : registry.get? id = some b) (now : Nat)
    (request : RaceRequest) : ∃ t x, aloneOf registry now request id = some (t, x) ∧ now ≤ t := by
  obtain ⟨d, hd, hle⟩ := due?_attempt b now request
  obtain ⟨t, x, ha, ht⟩ := Attempt.alone_of_due hd now
  exact ⟨t, x, (aloneOf_eq h).trans ha, by omega⟩

private theorem mem_entrants (hbs : resolve registry request.candidates = .ok bs) {e : Entrant} :
    e ∈ (launched bs limit now request).entrants ↔ ∃ id ∈ request.candidates, ∃ b,
      registry.get? id = some b ∧ e = ⟨attempt b now request, .pending⟩ := by
  simp only [mem_launched, mem_resolve hbs]
  constructor
  · rintro ⟨b, ⟨id, hid, hb⟩, rfl⟩
    exact ⟨id, hid, b, hb, rfl⟩
  · rintro ⟨id, hid, b, hb, rfl⟩
    exact ⟨b, ⟨id, hid, hb⟩, rfl⟩

/-- The candidate with the first unit leads the race, whatever the failures of the others. -/
theorem ledBy_launched (hbs : resolve registry request.candidates = .ok bs) (hnodup : request.candidates.Nodup)
    {id : String} {b : Backend} {w : Nat} {u : FirstUnit} (hb : registry.get? id = some b)
    (h : Answers registry limit now request id w u)
    (hothers : ∀ a ∈ request.candidates, a ≠ id → ∀ t x, aloneOf registry now request a = some (t, x) →
      t ≠ w ∧ ∀ u', x = .ok u' → w < t) :
    (launched bs limit now request).LedBy b w u := by
  obtain ⟨hid, ha, hlt⟩ := h
  have hne : bs ≠ [] := List.ne_nil_of_mem ((mem_resolve hbs).2 ⟨id, hid, hb⟩)
  refine ⟨isUnderWay_launched hne limit now request, ?_, ?_, ?_, hlt⟩
  · rw [entrants_launched, List.map_map]
    exact (names_resolve hbs).symm ▸ hnodup
  · exact ⟨_, (mem_entrants hbs).2 ⟨id, hid, b, hb, rfl⟩, rfl, rfl, (aloneOf_eq hb).symm.trans ha⟩
  · intro e he _ t x hx
    obtain ⟨a, ha', b', hb', rfl⟩ := (mem_entrants hbs).1 he
    have hx' : aloneOf registry now request a = some (t, x) := (aloneOf_eq hb').trans hx
    by_cases haid : a = id
    · subst haid
      rw [ha, Option.some.injEq, Prod.mk.injEq] at hx'
      rw [hb, Option.some.injEq] at hb'
      exact .inl ⟨hb'.symm, hx'.1.symm, hx'.2.symm⟩
    · exact .inr (hothers a ha' haid t x hx')

/-- Of the candidates that answer in time, there is one that nobody else answers before. -/
theorem exists_first_answer (h : ∃ id t u, Answers registry limit now request id t u) :
    ∃ id w u, Answers registry limit now request id w u ∧
      ∀ id' t u', Answers registry limit now request id' t u' → w ≤ t := by
  classical
  have hex : ∃ t id u, Answers registry limit now request id t u := by
    obtain ⟨id, t, u, h⟩ := h
    exact ⟨t, id, u, h⟩
  obtain ⟨id, u, h⟩ := Nat.find_spec hex
  exact ⟨id, _, u, h, fun id' t u' h' => Nat.find_min' hex ⟨id', u', h'⟩⟩

/-- Nobody is ready before the call. -/
theorem now_le_of_aloneOf {id : String} {t : Nat} {x : Except BackendError FirstUnit}
    (h : aloneOf registry now request id = some (t, x)) : now ≤ t := by
  obtain ⟨b, hb, -⟩ := Option.bind_eq_some_iff.1 h
  obtain ⟨t', y, hy, hle⟩ := aloneOf_eq_some hb now request
  rw [h, Option.some.injEq, Prod.mk.injEq] at hy
  omega

private theorem decide_of_answer (hnodup : request.candidates.Nodup)
    (hknown : ∀ id ∈ request.candidates, (registry.get? id).isSome) (hties : NoTies registry limit now request)
    {id : String} {w : Nat} {u : FirstUnit} (h : Answers registry limit now request id w u)
    (hfirst : ∀ id' t u', Answers registry limit now request id' t u' → w ≤ t) :
    ∃ v, (decide registry limit now request).1 = ⟨w, .ok v⟩ ∧ v.winner = id ∧ v.unit = u ∧
      now + v.latency = w := by
  obtain ⟨bs, hbs⟩ := exists_resolve hknown
  obtain ⟨b, hb⟩ := Option.isSome_iff_exists.1 (hknown id h.1)
  have hnow := now_le_of_aloneOf h.2.1
  have hlt := h.2.2
  have hled := ledBy_launched hbs hnodup hb h (fun a ha hne t x hx => by
    have htw : t ≠ w := hties.candidates a ha id h.1 hne t x w _ hx h.2.1
    refine ⟨htw, ?_⟩
    rintro u' rfl
    by_cases hin : t < now + limit
    · have := hfirst a t u' ⟨ha, hx, hin⟩
      omega
    · omega)
  rw [decide_eq_run (List.ne_nil_of_mem h.1) hbs (by omega), hled.run_eq]
  refine ⟨_, rfl, Registry.name_of_get? hb, rfl, ?_⟩
  show now + (w - now) = w
  omega

/-- If every candidate fails in time, the race is one that all lose. -/
theorem doomed_launched (hbs : resolve registry request.candidates = .ok bs) (hne : bs ≠ [])
    (h : ∀ id ∈ request.candidates, ∃ t, Fails registry limit now request id t) :
    (launched bs limit now request).Doomed := by
  refine ⟨isUnderWay_launched hne limit now request, ?_⟩
  intro e he _
  obtain ⟨id, hid, b, hb, rfl⟩ := (mem_entrants hbs).1 he
  obtain ⟨t, -, ⟨err, herr⟩, hlt⟩ := h id hid
  exact ⟨t, err, (aloneOf_eq hb).symm.trans herr, hlt⟩

/-- The failures that will come are those of the candidates on their own. -/
private theorem mem_failuresAhead_launched (hbs : resolve registry request.candidates = .ok bs) {t : Nat}
    {f : Failure} :
    (t, f) ∈ (launched bs limit now request).failuresAhead ↔ ∃ id ∈ request.candidates, ∃ b err,
      registry.get? id = some b ∧ aloneOf registry now request id = some (t, .error err) ∧
        f = ⟨b.name, err.message⟩ := by
  have ahead : ∀ b : Backend, Entrant.failureAhead now ⟨attempt b now request, .pending⟩ = some (t, f) ↔
      ∃ err, (attempt b now request).alone now = some (t, .error err) ∧ f = ⟨b.name, err.message⟩ := by
    intro b
    have hp : Entrant.isPending ⟨attempt b now request, .pending⟩ = true := rfl
    have hname : (attempt b now request).backend.name = b.name := rfl
    simp only [Entrant.failureAhead, hp, hname, if_true]
    split
    · rename_i s err ha
      simp only [ha, Option.some.injEq, Prod.mk.injEq, Except.error.injEq]
      constructor
      · rintro ⟨rfl, rfl⟩
        exact ⟨err, ⟨rfl, rfl⟩, rfl⟩
      · rintro ⟨err', ⟨rfl, rfl⟩, rfl⟩
        exact ⟨rfl, rfl⟩
    · rename_i hno
      constructor
      · intro h
        simp at h
      · rintro ⟨err, ha, -⟩
        exact absurd ha (hno t err)
  refine List.mem_filterMap.trans ⟨?_, ?_⟩
  · rintro ⟨e, he, hef⟩
    obtain ⟨id, hid, b, hb, rfl⟩ := (mem_entrants hbs).1 he
    obtain ⟨err, ha, hf⟩ := (ahead b).1 hef
    exact ⟨id, hid, b, err, hb, (aloneOf_eq hb).trans ha, hf⟩
  · rintro ⟨id, hid, b, err, hb, ha, hf⟩
    exact ⟨_, (mem_entrants hbs).2 ⟨id, hid, b, hb, rfl⟩, (ahead b).2 ⟨err, (aloneOf_eq hb).symm.trans ha, hf⟩⟩

theorem decide_of_failures (hsome : request.candidates ≠ [])
    (hknown : ∀ id ∈ request.candidates, (registry.get? id).isSome)
    (h : ∀ id ∈ request.candidates, ∃ t, Fails registry limit now request id t) :
    ∃ id t, Fails registry limit now request id t ∧
      (∀ id' t', Fails registry limit now request id' t' → t' ≤ t) ∧
      ∃ fs, (decide registry limit now request).1 = ⟨t, .error (.allFailed fs)⟩ := by
  obtain ⟨bs, hbs⟩ := exists_resolve hknown
  obtain ⟨order, t, f, hperm, hsorted, hrun⟩ := (doomed_launched hbs (ne_nil_of_resolve hsome hbs) h).run_eq
  -- the last of the failures ahead is one of a candidate, which comes in time as they all do
  obtain ⟨id, hid, b, err, hb, ha, -⟩ := (mem_failuresAhead_launched hbs).1 (hperm.mem_iff.1
    (List.mem_append_right order (List.mem_singleton_self (t, f))))
  obtain ⟨s, -, ⟨err', ha'⟩, hlt⟩ := h id hid
  obtain ⟨rfl, -⟩ : s = t ∧ _ := by simpa [ha] using ha'.symm
  have hnow := now_le_of_aloneOf ha
  refine ⟨id, s, ⟨hid, ⟨err, ha⟩, hlt⟩, ?_, _, by rw [decide_eq_run hsome hbs (by omega), hrun]⟩
  rintro id' t' ⟨hid', ⟨e, he⟩, -⟩
  obtain ⟨b', hb'⟩ := Option.isSome_iff_exists.1 (hknown id' hid')
  have hmem := hperm.mem_iff.2 ((mem_failuresAhead_launched hbs).2 ⟨id', hid', b', e, hb', he, rfl⟩)
  rcases List.mem_append.1 hmem with ho | ho
  · exact (List.pairwise_append.1 hsorted).2.2 _ ho _ (List.mem_singleton_self _)
  · simp only [List.mem_singleton, Prod.mk.injEq] at ho
    omega

/-- If no candidate has a unit in time, and not all fail in time, time runs out on the race. -/
theorem stalled_launched (hbs : resolve registry request.candidates = .ok bs) (hne : bs ≠ [])
    (hknown : ∀ id ∈ request.candidates, (registry.get? id).isSome)
    (hnone : ¬∃ id t u, Answers registry limit now request id t u)
    (hlate : ¬∀ id ∈ request.candidates, ∃ t, Fails registry limit now request id t) :
    (launched bs limit now request).Stalled := by
  refine ⟨isUnderWay_launched hne limit now request, ?_, ?_⟩
  · simp only [not_forall] at hlate
    obtain ⟨id, hid, hno⟩ := hlate
    obtain ⟨b, hb⟩ := Option.isSome_iff_exists.1 (hknown id hid)
    obtain ⟨t, x, hx, -⟩ := aloneOf_eq_some hb now request
    refine ⟨_, (mem_entrants hbs).2 ⟨id, hid, b, hb, rfl⟩, rfl, t, x, (aloneOf_eq hb).symm.trans hx, ?_⟩
    apply Nat.le_of_not_lt
    intro hlt
    cases x with
    | ok u => exact hnone ⟨id, t, u, hid, hx, hlt⟩
    | error err => exact hno ⟨t, hid, ⟨err, hx⟩, hlt⟩
  · intro e he _ t u hu
    obtain ⟨id, hid, b, hb, rfl⟩ := (mem_entrants hbs).1 he
    apply Nat.le_of_not_lt
    intro hlt
    exact hnone ⟨id, t, u, hid, (aloneOf_eq hb).trans hu, hlt⟩

theorem decide_of_silence (hsome : request.candidates ≠ [])
    (hknown : ∀ id ∈ request.candidates, (registry.get? id).isSome)
    (hnone : ¬∃ id t u, Answers registry limit now request id t u)
    (hlate : ¬∀ id ∈ request.candidates, ∃ t, Fails registry limit now request id t) :
    (decide registry limit now request).1 = ⟨now + limit, .error (.timeout (limit * 1000))⟩ := by
  obtain ⟨bs, hbs⟩ := exists_resolve hknown
  by_cases hlimit : limit = 0
  · -- without any time there is no race, and the verdict is the same
    subst hlimit
    simp [decide, enter, hsome, hbs]
  · rw [decide_eq_run hsome hbs hlimit,
      (stalled_launched hbs (ne_nil_of_resolve hsome hbs) hknown hnone hlate).run_eq]
    rfl

end

/-- The race between registered candidates without ties.  If somebody answers in time, the first to do so wins
with exactly its unit, at that time; if all fail in time, the race is lost at the last failure; in every other
case it is lost at its deadline. -/
theorem decide_of_noTies {registry : Registry} {limit now : Nat} {request : RaceRequest}
    (hsome : request.candidates ≠ []) (hnodup : request.candidates.Nodup)
    (hknown : ∀ id ∈ request.candidates, (registry.get? id).isSome)
    (hties : NoTies registry limit now request) :
    (∀ id ∈ request.candidates, ∃ t x, aloneOf registry now request id = some (t, x)) ∧
    ((∃ id t u, Answers registry limit now request id t u) →
      ∃ id w u, Answers registry limit now request id w u ∧
        (∀ id' t u', Answers registry limit now request id' t u' → w ≤ t) ∧
        ∃ v, (decide registry limit now request).1 = ⟨w, .ok v⟩ ∧ v.winner = id ∧ v.unit = u ∧
          now + v.latency = w) ∧
    ((∀ id ∈ request.candidates, ∃ t, Fails registry limit now request id t) →
      ∃ id t, Fails registry limit now request id t ∧
        (∀ id' t', Fails registry limit now request id' t' → t' ≤ t) ∧
        ∃ fs, (decide registry limit now request).1 = ⟨t, .error (.allFailed fs)⟩) ∧
    ((¬∃ id t u, Answers registry limit now request id t u) →
      (¬∀ id ∈ request.candidates, ∃ t, Fails registry limit now request id t) →
      (decide registry limit now request).1 = ⟨now + limit, .error (.timeout (limit * 1000))⟩) := by
  refine ⟨?_, ?_, decide_of_failures hsome hknown, decide_of_silence hsome hknown⟩
  · intro id hid
    obtain ⟨b, hb⟩ := Option.isSome_iff_exists.1 (hknown id hid)
    obtain ⟨t, x, hx, -⟩ := aloneOf_eq_some hb now request
    exact ⟨t, x, hx⟩
  · intro h
    obtain ⟨id, w, u, hid, hfirst⟩ := exists_first_answer h
    exact ⟨id, w, u, hid, hfirst, decide_of_answer hnodup hknown hties hid hfirst⟩

/-- A backend that crashes at 10, one that answers at 80, and one that streams a word at 35, after an empty
chunk. -/
private def trio : Registry := .ofList [
  .scripted "down" 0 10 .crash .crash,
  .scripted "slow" 1 80 .crash (.value [⟨0, .value (.content "late")⟩]),
  .scripted "fast" 2 30 .crash (.value [⟨0, .value (.content "")⟩, ⟨5, .value (.content "hi")⟩, ⟨5, .crash⟩])]

private def trioRequest : RaceRequest := ⟨"req", ["down", "slow", "fast"], [], .free, true⟩

private theorem aloneOf_trio (id : String) (h : id ∈ trioRequest.candidates) :
    aloneOf trio 0 trioRequest id = if id = "down" then
        some (10, .error (.unavailable "attempt against down ended without a result"))
      else if id = "slow" then some (80, .ok (.streamed (.content "late") []))
      else some (35, .ok (.streamed (.content "hi") [⟨5, .crash⟩])) := by
  simp only [trioRequest, List.mem_cons, List.not_mem_nil, or_false] at h
  rcases h with rfl | rfl | rfl <;> rfl

/-- The streaming backend wins, though it is listed last and another one fails before. -/
theorem decide_trio : ∃ v, (decide trio 100 0 trioRequest).1 = ⟨35, .ok v⟩ ∧ v.winner = "fast" := by
  have hknown : ∀ id ∈ trioRequest.candidates, (trio.get? id).isSome := by decide +kernel
  have hties : NoTies trio 100 0 trioRequest := by
    refine ⟨?_, ?_⟩
    · intro a ha b hb hne s x t y hx hy
      rw [aloneOf_trio a ha] at hx
      rw [aloneOf_trio b hb] at hy
      simp only [trioRequest, List.mem_cons, List.not_mem_nil, or_false] at ha hb
      rcases ha with rfl | rfl | rfl <;> rcases hb with rfl | rfl | rfl <;> simp at hne hx hy <;> omega
    · intro a ha t x hx
      rw [aloneOf_trio a ha] at hx
      split at hx
      · simp at hx; omega
      · split at hx <;> simp at hx <;> omega
  have hfast : Answers trio 100 0 trioRequest "fast" 35 (.streamed (.content "hi") [⟨5, .crash⟩]) :=
    ⟨by decide, aloneOf_trio "fast" (by decide), by decide⟩
  obtain ⟨id, w, u, ⟨hid, ha, -⟩, hfirst, v, hv, hwin, -⟩ :=
    (decide_of_noTies (by decide) (by decide) hknown hties).2.1 ⟨_, _, _, hfast⟩
  have hle := hfirst _ _ _ hfast
  rw [aloneOf_trio id hid] at ha
  simp only [trioRequest, List.mem_cons, List.not_mem_nil, or_false] at hid
  rcases hid with rfl | rfl | rfl
  · simp at ha
  · simp at ha; omega
  · obtain ⟨rfl, -⟩ : 35 = w ∧ _ := by simpa using ha
    exact ⟨v, hv, hwin⟩

end Race

end ChatRace
