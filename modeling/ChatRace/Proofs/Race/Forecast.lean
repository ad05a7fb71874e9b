import ChatRace.Proofs.Attempt.FirstUnit
import ChatRace.Proofs.Race.Result
import ChatRace.Proofs.Turn

/-!
# Forecasts

The verdict on a race, foretold by what its entrants come to on their own.  A forecast knows of no calls and of no
items of streams: it goes from one end of an attempt to the next, of several at the same time to the foremost one's
(`Prospect.foretell`).  A race that is run comes to the verdict that is foretold (`IsUnderWay.seen_run`), since the
steps between two ends do not change the forecast (`IsUnderWay.forecast_step`).  So nothing else about the backends
makes a difference (`seen_decide_congr`), and whoever wins has come to its first unit by then (`firstUnit_of_won`).
-/

namespace ChatRace

open Chat

/-- A won race, with some view of the winner's unit, and without what the request says. -/
structure Win (υ : Type) where
  winner : String
  line : Nat
  latency : Nat
  attempts : List Report
  unit : υ
  deriving DecidableEq, Repr

/-- The time and the result of a race, with some view of the winner's unit. -/
def Verdict.seen (view : FirstUnit → υ) (v : Verdict) : Nat × Except RaceError (Win υ) :=
  (v.time, v.result.map fun w => ⟨w.winner, w.line, w.latency, w.attempts, view w.unit⟩)

/-- What is ahead of an entrant. -/
structure Prospect (υ : Type) where
  backend : String
  line : Nat
  /-- When the attempt will be over and what it comes to; nothing if it has failed. -/
  ending : Option (Nat × Except BackendError υ)

namespace Prospect

variable {υ : Type}

/-- When the attempt will be over. -/
def due? (p : Prospect υ) : Option Nat := p.ending.map (·.1)

/-- The same when the attempt has failed. -/
def out (p : Prospect υ) : Prospect υ := { p with ending := none }

/-- What is reported of the attempt when somebody else wins. -/
def report (p : Prospect υ) : Report := ⟨p.backend, if p.ending.isSome then .cancelled else .failed⟩

private theorem countP_put_out_lt {ps : List (Prospect υ)} {t : Turn (Prospect υ)}
    (h : Turn.first? (·.due?) ps = some t) :
    (t.put t.chosen.out).countP (·.ending.isSome) < ps.countP (·.ending.isSome) := by
  obtain ⟨hps, hdue, -⟩ := Turn.first?_eq_some.1 h
  have hchosen : t.chosen.ending.isSome = true := by
    rw [due?, Option.map_eq_some_iff] at hdue
    obtain ⟨x, hx, -⟩ := hdue
    rw [hx]
    rfl
  rw [hps]
  simp [Turn.put, out, hchosen]

/-- The verdict that some prospects promise after the failures `fs`. -/
def foretell (start limit : Nat) (fs : List Failure) (ps : List (Prospect υ)) : Nat × Except RaceError (Win υ) :=
  let expired := (start + limit, .error (.timeout (limit * 1000)))
  match _h : Turn.first? (·.due?) ps with
  | none => expired
  | some t =>
    if t.due < start + limit then
      match t.chosen.ending with
      | none => expired
      | some (_, .ok u) =>
        let attempts := t.before.map report ++ ⟨t.chosen.backend, .won⟩ :: t.after.map report
        (t.due, .ok ⟨t.chosen.backend, t.chosen.line, t.due - start, attempts, u⟩)
      | some (_, .error e) =>
        let fs := fs ++ [⟨t.chosen.backend, e.message⟩]
        if (t.before ++ t.after).any (·.ending.isSome) then foretell start limit fs (t.put t.chosen.out)
        else (t.due, .error (.allFailed fs))
    else expired
termination_by ps.countP (·.ending.isSome)
decreasing_by exact countP_put_out_lt _h

section

variable {start limit : Nat} {fs : List Failure} {ps : List (Prospect υ)} {t : Turn (Prospect υ)}

private theorem foretell_of_expired (h : Turn.first? (·.due?) ps = some t) (hlate : start + limit ≤ t.due) :
    foretell start limit fs ps = (start + limit, .error (.timeout (limit * 1000))) := by
  rw [foretell]
  split
  · rfl
  · rename_i u hu
    obtain rfl := Option.some.inj (hu.symm.trans h)
    rw [if_neg (Nat.not_lt.2 hlate)]

private theorem foretell_of_won (h : Turn.first? (·.due?) ps = some t) (hin : t.due < start + limit) {d : Nat}
    {u : υ} (hu : t.chosen.ending = some (d, .ok u)) :
    foretell start limit fs ps = (t.due, .ok ⟨t.chosen.backend, t.chosen.line, t.due - start,
      t.before.map report ++ ⟨t.chosen.backend, .won⟩ :: t.after.map report, u⟩) := by
  rw [foretell]
  split
  · rename_i hnone
    cases hnone.symm.trans h
  · rename_i t' ht'
    obtain rfl := Option.some.inj (ht'.symm.trans h)
    simp only [if_pos hin, hu]

private theorem foretell_of_failed (h : Turn.first? (·.due?) ps = some t) (hin : t.due < start + limit) {d : Nat}
    {e : BackendError} (he : t.chosen.ending = some (d, .error e)) :
    foretell start limit fs ps =
      if (t.before ++ t.after).any (·.ending.isSome) then
        foretell start limit (fs ++ [⟨t.chosen.backend, e.message⟩]) (t.put t.chosen.out)
      else (t.due, .error (.allFailed (fs ++ [⟨t.chosen.backend, e.message⟩]))) := by
  rw [foretell]
  split
  · rename_i hnone
    cases hnone.symm.trans h
  · rename_i t' ht'
    obtain rfl := Option.some.inj (ht'.symm.trans h)
    simp only [if_pos hin, he]

/-- Whoever is foretold to win has its unit ahead, at the time of the verdict. -/
theorem exists_of_foretell {w : Nat} {x : Win υ} (h : foretell start limit fs ps = (w, .ok x)) :
    ∃ p ∈ ps, p.backend = x.winner ∧ p.ending = some (w, .ok x.unit) := by
  fun_induction foretell start limit fs ps with
  | case1 | case2 | case6 =>
    have hresult := congrArg Prod.snd h
    cases hresult
  | case5 => cases h
  | case3 fs ps t hturn hin d u hu attempts =>
    have hdue := Turn.due?_chosen hturn
    rw [due?, hu, Option.map_some, Option.some.injEq] at hdue
    obtain rfl : d = t.due := hdue
    cases h
    exact ⟨t.chosen, Turn.chosen_mem hturn, rfl, hu⟩
  | case4 fs ps t hturn hin d e he fs' hany ih =>
    -- whoever has failed has nothing ahead, so it is one of the others
    obtain ⟨p, hp, hname, hending⟩ := ih h
    have hout : p ≠ t.chosen.out := by
      rintro rfl
      cases hending
    refine ⟨p, ?_, hname, hending⟩
    rw [(Turn.first?_eq_some.1 hturn).1]
    simpa [Turn.put, hout, or_left_comm] using Or.inr hp

end

end Prospect

/-- What is ahead of an entrant of a race that began at `start`, with some view of its unit. -/
def Entrant.prospect (view : FirstUnit → υ) (start : Nat) (e : Entrant) : Prospect υ where
  backend := e.attempt.backend.name
  line := e.attempt.backend.line
  ending := if e.isPending then (e.attempt.alone start).map fun x => (x.1, x.2.map view) else none

namespace Race

variable {υ : Type} {r : Race}

/-- The verdict that a race promises. -/
def forecast (view : FirstUnit → υ) (r : Race) : Nat × Except RaceError (Win υ) :=
  Prospect.foretell r.start r.limit r.failures.reverse (r.entrants.map (Entrant.prospect view r.start))

/-! ### One step -/

/-- Whoever is still in the race has an end ahead, and not before the next step is due. -/
private theorem IsUnderWay.ending_of_pending (h : r.IsUnderWay) (view : FirstUnit → υ) {e : Entrant}
    (he : e ∈ r.entrants) (hp : e.isPending = true) :
    ∃ d t x, e.due? = some d ∧ d ≤ t ∧ (e.prospect view r.start).ending = some (t, x) := by
  obtain ⟨d, hd, -⟩ := h.due e he hp
  obtain ⟨t, x, hx, hle⟩ := Attempt.alone_of_due hd r.start
  exact ⟨d, t, x.map view, by simp [Entrant.due?, hp, hd], hle, by simp [Entrant.prospect, hp, hx]⟩

private theorem ending_of_not_pending {view : FirstUnit → υ} {start : Nat} {e : Entrant}
    (hp : e.isPending = false) : (e.prospect view start).ending = none := by
  simp [Entrant.prospect, hp]

private theorem IsUnderWay.isSome_ending (h : r.IsUnderWay) (view : FirstUnit → υ) {e : Entrant}
    (he : e ∈ r.entrants) : (e.prospect view r.start).ending.isSome = e.isPending := by
  cases hp : e.isPending with
  | false => rw [ending_of_not_pending hp, Option.isSome_none]
  | true =>
    obtain ⟨d, t, x, -, -, hending⟩ := h.ending_of_pending view he hp
    rw [hending, Option.isSome_some]

private theorem IsUnderWay.due_le_prospect (h : r.IsUnderWay) {view : FirstUnit → υ} {e : Entrant}
    (he : e ∈ r.entrants) {t : Nat} (ht : (e.prospect view r.start).due? = some t) :
    ∃ d, e.due? = some d ∧ d ≤ t := by
  cases hp : e.isPending with
  | false =>
    rw [Prospect.due?, ending_of_not_pending hp] at ht
    cases ht
  | true =>
    obtain ⟨d, t', x, hd, hle, hending⟩ := h.ending_of_pending view he hp
    rw [Prospect.due?, hending, Option.map_some, Option.some.injEq] at ht
    exact ⟨d, hd, ht ▸ hle⟩

/-- If the attempt whose turn it is comes to its end, its end is the next. -/
private theorem IsTurn.first?_prospects {t : Turn Entrant} (ht : r.IsTurn t) (h : r.IsUnderWay)
    (view : FirstUnit → υ) {x : Except BackendError FirstUnit}
    (hx : t.chosen.attempt.alone r.start = some (t.due, x)) :
    Turn.first? (·.due?) (r.entrants.map (Entrant.prospect view r.start)) =
      some (t.map (Entrant.prospect view r.start) 0) := by
  obtain ⟨-, -, hbefore, hafter⟩ := Turn.first?_eq_some.1 ht.turn
  refine Turn.first?_eq_some.2 ⟨?_, ?_, ?_, ?_⟩
  · rw [ht.entrants_eq, Turn.put, List.map_append, List.map_cons]
    rfl
  · simp [Turn.map, Prospect.due?, Entrant.prospect, ht.pending, hx]
  · intro p hp d hd
    obtain ⟨e, he, rfl⟩ := List.mem_map.1 hp
    obtain ⟨d', hd', hle⟩ := h.due_le_prospect (ht.mem_iff.2 (.inr (.inl he))) hd
    exact Nat.lt_of_lt_of_le (hbefore e he d' hd') hle
  · intro p hp d hd
    obtain ⟨e, he, rfl⟩ := List.mem_map.1 hp
    obtain ⟨d', hd', hle⟩ := h.due_le_prospect (ht.mem_iff.2 (.inr (.inr he))) hd
    exact Nat.le_trans (hafter e he d' hd') hle

/-- A race that is over at its deadline was bound to be. -/
private theorem IsTurn.forecast_of_late {t : Turn Entrant} (ht : r.IsTurn t) (h : r.IsUnderWay)
    (view : FirstUnit → υ) (hlate : r.deadline ≤ t.due) :
    r.forecast view = (r.deadline, .error (.timeout (r.limit * 1000))) := by
  obtain ⟨d, t', x, -, -, hending⟩ := h.ending_of_pending view ht.chosen_mem ht.pending
  cases hfirst : Turn.first? (·.due?) (r.entrants.map (Entrant.prospect view r.start)) with
  | none =>
    have hnone := Turn.first?_eq_none.1 hfirst _ (List.mem_map_of_mem ht.chosen_mem)
    rw [Prospect.due?, hending] at hnone
    cases hnone
  | some u =>
    obtain ⟨e, he, hchosen⟩ := List.mem_map.1 (Turn.chosen_mem hfirst)
    have hdue := Turn.due?_chosen hfirst
    rw [← hchosen] at hdue
    obtain ⟨d', hd', hle⟩ := h.due_le_prospect he hdue
    exact Prospect.foretell_of_expired hfirst
      (Nat.le_trans hlate (Nat.le_trans (Turn.due_le ht.turn he hd') hle))

private theorem IsUnderWay.report_cancel (h : r.IsUnderWay) (view : FirstUnit → υ) {e : Entrant}
    (he : e ∈ r.entrants) :
    e.cancel.1.report = (e.prospect view r.start).report := by
  rw [Prospect.report, h.isSome_ending view he]
  cases hp : e.isPending with
  | false =>
    obtain ⟨hstate, -⟩ := h.failed e he hp
    simp [Entrant.cancel, Entrant.report, Entrant.prospect, hp, hstate]
  | true =>
    have hbackend : e.attempt.drop.1.backend = e.attempt.backend := by
      unfold Attempt.drop
      split <;> rfl
    simp [Entrant.cancel, Entrant.report, Entrant.prospect, hp, hbackend]

private theorem IsTurn.seen_win {t : Turn Entrant} (ht : r.IsTurn t) (h : r.IsUnderWay) (view : FirstUnit → υ)
    (u : FirstUnit) : ∃ v, (r.win t t.chosen.attempt.step.1 u).1 = .decided v ∧
      v.seen view = (t.due, .ok ⟨t.chosen.attempt.backend.name, t.chosen.attempt.backend.line, t.due - r.start,
        t.before.map (fun e => (e.prospect view r.start).report) ++
          ⟨t.chosen.attempt.backend.name, .won⟩ :: t.after.map fun e => (e.prospect view r.start).report,
        view u⟩) := by
  have hreport (e : Entrant) (he : e ∈ t.before ∨ e ∈ t.after) :
      e.cancel.1.report = (e.prospect view r.start).report :=
    h.report_cancel view (ht.mem_iff.2 (.inr he))
  have hwon : (Entrant.cancel ⟨t.chosen.attempt.step.1.take, .won⟩).1.report =
      ⟨t.chosen.attempt.backend.name, .won⟩ := by
    simp [Entrant.cancel, Entrant.isPending, Entrant.report, Attempt.take, Attempt.step_backend]
  refine ⟨_, rfl, ?_⟩
  simp only [Verdict.seen, Except.map, Turn.put, List.map_append, List.map_cons, List.map_map,
    Function.comp_def, hwon, Attempt.step_backend]
  rw [List.map_congr_left fun e he => hreport e (.inl he), List.map_congr_left fun e he => hreport e (.inr he)]

/-- A failure that is next is foretold, and the others' ends behind it. -/
private theorem IsTurn.forecast_of_failed {t : Turn Entrant} (ht : r.IsTurn t) (h : r.IsUnderWay)
    (view : FirstUnit → υ) (hin : t.due < r.deadline) {e : BackendError}
    (he : t.chosen.attempt.alone r.start = some (t.due, .error e)) (a : Attempt)
    (ha : a.backend = t.chosen.attempt.backend) :
    r.forecast view =
      if (t.before ++ t.after).any (·.isPending) then
        forecast view { r with
          entrants := t.put ⟨a, .failed⟩
          failures := ⟨t.chosen.attempt.backend.name, e.message⟩ :: r.failures }
      else (t.due, .error (.allFailed (r.failures.reverse ++ [⟨t.chosen.attempt.backend.name, e.message⟩]))) := by
  have hending : (t.chosen.prospect view r.start).ending = some (t.due, .error e) := by
    simp [Entrant.prospect, ht.pending, he, Except.map]
  have hout : Entrant.prospect view r.start ⟨a, .failed⟩ = (t.chosen.prospect view r.start).out := by
    simp [Entrant.prospect, Prospect.out, Entrant.isPending, ha]
  have hothers : ((t.before.map (Entrant.prospect view r.start)) ++
      t.after.map (Entrant.prospect view r.start)).any (·.ending.isSome) =
        (t.before ++ t.after).any (·.isPending) := by
    rw [← List.map_append, List.any_map, Bool.eq_iff_iff, List.any_eq_true, List.any_eq_true]
    refine exists_congr fun x => and_congr_right fun hx => ?_
    rw [Function.comp_apply, h.isSome_ending view (ht.mem_iff.2 (.inr (List.mem_append.1 hx)))]
  rw [forecast, Prospect.foretell_of_failed (ht.first?_prospects h view he) hin hending]
  simp only [Turn.map, hothers, forecast, List.reverse_cons, Turn.put, List.map_append, List.map_cons, hout]
  rfl

/-- A step keeps the forecast or comes to it. -/
theorem IsUnderWay.forecast_step (h : r.IsUnderWay) (view : FirstUnit → υ) :
    (∃ r' log, r.step = (.running r', log) ∧ r'.IsUnderWay ∧ r'.forecast view = r.forecast view) ∨
      ∃ v log, r.step = (.decided v, log) ∧ v.seen view = r.forecast view := by
  obtain ⟨t, ht, ⟨hlate, hexp⟩ | ⟨hin, ⟨d, hd, -, hgo⟩ | ⟨u, hu, -, hwin⟩ | ⟨e, he, -, hfail⟩⟩⟩ := h.step_cases
  · exact .inr ⟨_, _, hexp, (ht.forecast_of_late h view hlate).symm⟩
  · -- the attempt goes on to the end that it had ahead
    have hsame : Entrant.prospect view r.start ⟨t.chosen.attempt.step.1, .pending⟩ =
        t.chosen.prospect view r.start := by
      have hp : Entrant.isPending ⟨t.chosen.attempt.step.1, .pending⟩ = true := rfl
      simp only [Entrant.prospect, hp, ht.pending, Attempt.step_backend,
        Attempt.alone_step_of_due ht.due hd r.start]
    refine .inl ⟨_, _, hgo, h.of_step hgo, ?_⟩
    simp only [forecast, ht.map_put hsame]
  · obtain ⟨v, hv, hseen⟩ := ht.seen_win h view u
    have hending : (t.chosen.prospect view r.start).ending = some (t.due, .ok (view u)) := by
      simp [Entrant.prospect, ht.pending, hu, Except.map]
    refine .inr ⟨v, _, hwin.trans (by rw [hv]), ?_⟩
    rw [hseen, forecast, Prospect.foretell_of_won (ht.first?_prospects h view hu) hin hending]
    simp [Turn.map, Entrant.prospect, Function.comp_def]
  · have hforecast := ht.forecast_of_failed h view hin he t.chosen.attempt.step.1.take
      (Attempt.step_backend t.chosen.attempt)
    rcases fail_cases r t t.chosen.attempt.step.1 e with ⟨⟨x, hx, hxp⟩, hf⟩ | ⟨hnone, hf⟩
    · have hany : (t.before ++ t.after).any (·.isPending) = true :=
        List.any_eq_true.2 ⟨x, List.mem_append.2 hx, hxp⟩
      rw [hf, Attempt.step_backend] at hfail
      rw [if_pos hany] at hforecast
      exact .inl ⟨_, _, hfail, h.of_step hfail, hforecast.symm⟩
    · have hany : ¬(t.before ++ t.after).any (·.isPending) = true := by
        rw [List.any_eq_true]
        rintro ⟨x, hx, hxp⟩
        rw [hnone x (List.mem_append.1 hx)] at hxp
        cases hxp
      rw [hf, Attempt.step_backend] at hfail
      rw [if_neg hany] at hforecast
      exact .inr ⟨_, _, hfail, hforecast.symm⟩

/-- A race comes to the verdict that is foretold. -/
theorem IsUnderWay.seen_run (h : r.IsUnderWay) (view : FirstUnit → υ) : r.run.1.seen view = r.forecast view := by
  refine run_induction (P := fun r' => r'.IsUnderWay ∧ r'.forecast view = r.forecast view)
    (Q := fun v => v.seen view = r.forecast view) ?_ ⟨h, rfl⟩
  rintro r' ⟨h', hforecast⟩
  rcases h'.forecast_step view with ⟨r'', log, hs, h'', hkept⟩ | ⟨v, log, hs, hseen⟩
  · exact .inl ⟨r'', log, hs, h'', hkept.trans hforecast⟩
  · exact .inr ⟨v, log, hs, hseen.trans hforecast⟩

/-! ### Whole races -/

end Race

/-- What is ahead of a backend that gets a request at `now`. -/
def Backend.prospect (view : FirstUnit → υ) (now : Nat) (request : RaceRequest) (b : Backend) : Prospect υ :=
  let course := b.firstUnit (request.forBackend b.name)
  ⟨b.name, b.line, some (now + course.latency, (course.outcome.result b.name).map view)⟩

namespace Race

variable {υ : Type} {registry registry' : Registry} {limit now : Nat} {request request' : RaceRequest}

private theorem prospect_attempt (view : FirstUnit → υ) (b : Backend) :
    Entrant.prospect view now ⟨attempt b now request, .pending⟩ = b.prospect view now request := by
  have halone : (attempt b now request).alone now = _ := Attempt.alone_launch b (request.forBackend b.name) now
  have hp : Entrant.isPending ⟨attempt b now request, .pending⟩ = true := rfl
  simp only [Entrant.prospect, Backend.prospect, hp, halone, Option.map_some, if_true]
  rfl

/-- The verdict on a race between registered candidates is foretold by their first units. -/
theorem seen_decide (view : FirstUnit → υ) {bs : List Backend} (hsome : request.candidates ≠ [])
    (hbs : resolve registry request.candidates = .ok bs) (hlimit : limit ≠ 0) :
    (decide registry limit now request).1.seen view =
      Prospect.foretell now limit [] (bs.map (Backend.prospect view now request)) := by
  have hway := isUnderWay_launched (ne_nil_of_resolve hsome hbs) limit now request
  have hprospects : (launched bs limit now request).entrants.map (Entrant.prospect view now) =
      bs.map (Backend.prospect view now request) := by
    rw [entrants_launched, List.map_map]
    exact List.map_congr_left fun b _ => prospect_attempt view b
  rw [decide_eq_run hsome hbs hlimit, hway.seen_run view, ← hprospects]
  rfl

/-- The winner of a race has come to its first unit, and at the time of the verdict. -/
theorem firstUnit_of_won {w : Nat} {v : Victory} (h : (decide registry limit now request).1 = ⟨w, .ok v⟩) :
    ∃ b, registry.get? v.winner = some b ∧ w = now + (b.firstUnit (request.forBackend b.name)).latency ∧
      (b.firstUnit (request.forBackend b.name)).outcome = .value v.unit := by
  cases he : enter registry limit now request with
  | error e => simp [decide, he] at h
  | ok r =>
    obtain ⟨bs, hne, hbs, -⟩ := of_enter_eq_ok he
    have hsome : request.candidates ≠ [] := by
      rw [← names_resolve hbs]
      simpa using hne
    have hseen : (decide registry limit now request).1.seen (fun u => u) = _ :=
      seen_decide (fun u => u) hsome hbs (limit_ne_zero he)
    rw [h] at hseen
    obtain ⟨p, hp, hname, hending⟩ := Prospect.exists_of_foretell hseen.symm
    obtain ⟨b, hb, rfl⟩ := List.mem_map.1 hp
    obtain ⟨id, -, hid⟩ := (mem_resolve hbs).1 hb
    have hwinner : id = v.winner := (Registry.name_of_get? hid).symm.trans hname
    simp only [Backend.prospect, Option.some.injEq, Prod.mk.injEq] at hending
    obtain ⟨htime, hunit⟩ := hending
    exact ⟨b, hwinner ▸ hid, htime.symm, Outcome.result_eq_ok.1 ((congrFun Except.map_id _).symm.trans hunit)⟩

private theorem resolve_congr {f g : Backend → Prospect υ} {ids : List String}
    (h : ∀ id ∈ ids, (registry.get? id).map f = (registry'.get? id).map g) :
    (resolve registry ids).map (·.map f) = (resolve registry' ids).map (·.map g) := by
  induction ids with
  | nil => rfl
  | cons id ids ih =>
    have hid := h id (List.mem_cons_self ..)
    have hids := ih fun i hi => h i (List.mem_cons_of_mem _ hi)
    rw [resolve, resolve]
    cases hb : registry.get? id <;> cases hb' : registry'.get? id <;> simp only [hb, hb', Option.map_none,
      Option.map_some, reduceCtorEq, Option.some.injEq] at hid
    · rfl
    · cases hbs : resolve registry ids <;> cases hbs' : resolve registry' ids <;>
        simp_all [Except.map]

/-- Races of as many candidates with the same ahead of them end alike. -/
theorem seen_decide_congr (view : FirstUnit → υ) (hcandidates : request'.candidates = request.candidates)
    (h : ∀ id ∈ request.candidates, (registry.get? id).map (Backend.prospect view now request) =
      (registry'.get? id).map (Backend.prospect view now request')) :
    (decide registry limit now request).1.seen view = (decide registry' limit now request').1.seen view := by
  have hresolve : (resolve registry request.candidates).map (·.map (Backend.prospect view now request)) =
      (resolve registry' request'.candidates).map (·.map (Backend.prospect view now request')) := by
    rw [hcandidates]
    exact resolve_congr h
  by_cases hsome : request.candidates = []
  · simp [decide, enter, hcandidates, hsome, Verdict.seen, Except.map]
  have hsome' : request'.candidates ≠ [] := hcandidates ▸ hsome
  cases hbs : resolve registry request.candidates with
  | error e =>
    cases hbs' : resolve registry' request'.candidates with
    | ok bs' => simp [hbs, hbs', Except.map] at hresolve
    | error e' =>
      rw [hbs, hbs'] at hresolve
      obtain rfl : e = e' := Except.error.inj hresolve
      simp [decide, enter, hsome, hsome', hbs, hbs', Verdict.seen, Except.map]
  | ok bs =>
    cases hbs' : resolve registry' request'.candidates with
    | error e' => simp [hbs, hbs', Except.map] at hresolve
    | ok bs' =>
      rw [hbs, hbs'] at hresolve
      have hprospects : bs.map (Backend.prospect view now request) = bs'.map (Backend.prospect view now request') :=
        Except.ok.inj hresolve
      by_cases hlimit : limit = 0
      · simp [decide, enter, hsome, hsome', hbs, hbs', hlimit, Verdict.seen, Except.map]
      · rw [seen_decide view hsome hbs hlimit, seen_decide view hsome' hbs' hlimit, hprospects]

end Race

end ChatRace
