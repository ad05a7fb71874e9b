import ChatRace.Proofs.Attempt.FirstUnit
import ChatRace.Proofs.Race.Result
import Mathlib.Data.List.Nodup

/-!
# What is reported of a race

What a race reports of its attempts, told by what each candidate comes to on its own (`course?`).  If no two
candidates are ready at the same time, a race that is won reports one winner, as failed those who had failed before
the decision, and all others as cancelled; a race that all have lost lists each candidate once, in the order of the
failures, with its own error, and does so in whatever order the candidates are listed (`decide_reports`).
-/

namespace ChatRace

open Chat

namespace Race

/-! ### Courses -/

/-- The course of a candidate to its first unit, if it is registered. -/
def course? (registry : Registry) (request : RaceRequest) (id : String) : Option (Course FirstUnit) :=
  (registry.get? id).map (·.firstUnit (request.forBackend id))

/-- How long after the call a candidate is ready. -/
def readyAfter? (registry : Registry) (request : RaceRequest) (id : String) : Option Nat :=
  (course? registry request id).map (·.latency)

/-- No two candidates are ready at the same time. -/
def Untied (registry : Registry) (request : RaceRequest) : Prop :=
  (request.candidates.map (readyAfter? registry request)).Nodup

instance (registry : Registry) (request : RaceRequest) : Decidable (Untied registry request) :=
  List.nodupDecidable _

/-- When a candidate fails, and how, if it does. -/
def failure? (registry : Registry) (now : Nat) (request : RaceRequest) (id : String) : Option (Nat × Failure) :=
  (course? registry request id).bind fun c =>
    match c.outcome.result id with
    | .error e => some (now + c.latency, ⟨id, e.message⟩)
    | .ok _ => none

/-- A candidate has failed before an instant. -/
def HasFailed (registry : Registry) (now : Nat) (request : RaceRequest) (id : String) (time : Nat) : Prop :=
  ∃ c e, course? registry request id = some c ∧ c.outcome.result id = .error e ∧ now + c.latency < time

section

variable {registry : Registry} {limit now : Nat} {request : RaceRequest} {bs : List Backend}

theorem aloneOf_eq_course (registry : Registry) (now : Nat) (request : RaceRequest) (id : String) :
    aloneOf registry now request id =
      (course? registry request id).map fun c => (now + c.latency, c.outcome.result id) := by
  cases hb : registry.get? id with
  | none => simp [aloneOf, course?, hb]
  | some b =>
    have hname := Registry.name_of_get? hb
    have halone := Attempt.alone_launch b (request.forBackend b.name) now
    rw [hname] at halone
    simp only [aloneOf, course?, hb, attempt, Option.bind_some, Option.map_some, hname, halone]

theorem aloneOf_of_course (now : Nat) {id : String} {c : Course FirstUnit}
    (hc : course? registry request id = some c) :
    aloneOf registry now request id = some (now + c.latency, c.outcome.result id) := by
  rw [aloneOf_eq_course, hc, Option.map_some]

/-! ### Races that have been run -/

private theorem exists_course (hbs : resolve registry request.candidates = .ok bs) {id : String}
    (hid : id ∈ request.candidates) : ∃ c, course? registry request id = some c := by
  have hmem : registry.get? id ∈ bs.map some := by
    rw [← resolve_eq_ok_iff.1 hbs]
    exact List.mem_map_of_mem hid
  obtain ⟨b, -, hb⟩ := List.mem_map.1 hmem
  exact ⟨_, by rw [course?, ← hb, Option.map_some]⟩

private theorem isSome_of_resolve (hbs : resolve registry request.candidates = .ok bs) :
    ∀ id ∈ request.candidates, (registry.get? id).isSome := by
  intro id hid
  obtain ⟨c, hc⟩ := exists_course hbs hid
  obtain ⟨b, hb, -⟩ := Option.map_eq_some_iff.1 hc
  rw [hb, Option.isSome_some]

/-- A race that is won or lost by all has been run between registered candidates. -/
private theorem exists_launched {t : Nat} {result : Except RaceError Victory}
    (h : (decide registry limit now request).1 = ⟨t, result⟩)
    (hresult : ∀ e, result = .error e → ∃ fs, e = .allFailed fs) :
    ∃ bs, request.candidates ≠ [] ∧ resolve registry request.candidates = .ok bs ∧ limit ≠ 0 ∧
      (launched bs limit now request).run.1 = ⟨t, result⟩ := by
  cases he : enter registry limit now request with
  | error e =>
    rw [decide, he, Verdict.mk.injEq] at h
    obtain ⟨fs, rfl⟩ := hresult e h.2.symm
    rcases enter_eq_error he with hnone | ⟨id, hunknown⟩ | ⟨htime, -⟩
    · cases hnone
    · cases hunknown
    · cases htime
  | ok r =>
    obtain ⟨bs, hne, hbs, rfl⟩ := of_enter_eq_ok he
    have hsome : request.candidates ≠ [] := by
      intro hnil
      rw [hnil, resolve, Except.ok.injEq] at hbs
      exact hne hbs.symm
    exact ⟨bs, hsome, hbs, limit_ne_zero he, (decide_eq_run hsome hbs (limit_ne_zero he)).symm.trans h⟩

/-! ### Won races -/

/-- Whether there are ties or not, a race that is won reports every candidate, one of them as the winner and none as
still in the race. -/
theorem states_of_won {t : Nat} {v : Victory} (h : (decide registry limit now request).1 = ⟨t, .ok v⟩) :
    v.attempts.length = request.candidates.length ∧ (v.attempts.map (·.state)).count .won = 1 ∧
      .pending ∉ v.attempts.map (·.state) := by
  obtain ⟨bs, hsome, hbs, -, hrun⟩ := exists_launched h (by simp)
  have hway := isUnderWay_launched (ne_nil_of_resolve hsome hbs) limit now request
  have hlength : (launched bs limit now request).entrants.length = request.candidates.length := by
    rw [entrants_launched, List.length_map, length_resolve hbs]
  refine run_induction (P := fun r => r.IsUnderWay ∧ r.entrants.length = request.candidates.length)
    (Q := fun verdict => ∀ v, verdict.result = .ok v → v.attempts.length = request.candidates.length ∧
      (v.attempts.map (·.state)).count .won = 1 ∧ .pending ∉ v.attempts.map (·.state)) ?_ ⟨hway, hlength⟩ v
    (congrArg Verdict.result hrun)
  rintro r ⟨hr, hcount⟩
  cases hs : r.step with
  | mk p log =>
    cases p with
    | running r' => exact .inl ⟨r', log, rfl, hr.of_step hs, (of_step_running hs).2.trans hcount⟩
    | decided verdict =>
      refine .inr ⟨verdict, log, rfl, ?_⟩
      rintro v hv
      obtain ⟨time, result⟩ := verdict
      obtain rfl : result = .ok v := hv
      obtain ⟨-, hreported, hwon⟩ := hr.of_won hs
      exact ⟨hreported.trans hcount, hwon, hr.pending_notMem_of_won hs⟩

/-- What is reported of a candidate with some course if the race is decided at `time`. -/
private def stateAt (now time : Nat) (c : Course FirstUnit) : AttemptState :=
  match c.outcome with
  | .value _ => if now + c.latency = time then .won else .cancelled
  | .failure _ | .crash => if now + c.latency < time then .failed else .cancelled

private theorem stateAt_ne_pending (now time : Nat) (c : Course FirstUnit) : stateAt now time c ≠ .pending := by
  unfold stateAt
  split <;> split <;> simp

private theorem stateAt_eq_won {now time : Nat} {c : Course FirstUnit} :
    stateAt now time c = .won ↔ (∃ u, c.outcome = .value u) ∧ now + c.latency = time := by
  unfold stateAt
  cases c.outcome with
  | value u => simp
  | failure | crash => by_cases hlt : now + c.latency < time <;> simp [hlt]

private theorem stateAt_eq_failed {now time : Nat} {c : Course FirstUnit} (id : String) :
    stateAt now time c = .failed ↔ (∃ e, c.outcome.result id = .error e) ∧ now + c.latency < time := by
  unfold stateAt
  cases c.outcome with
  | value u => by_cases hready : now + c.latency = time <;> simp [hready, Outcome.result]
  | failure | crash => simp [Outcome.result]

private theorem reportAt_attempt {id : String} {b : Backend} (hb : registry.get? id = some b) {c : Course FirstUnit}
    (hc : course? registry request id = some c) (time : Nat) :
    Entrant.reportAt now time ⟨attempt b now request, .pending⟩ = ⟨id, stateAt now time c⟩ := by
  have halone : (attempt b now request).alone now = some (now + c.latency, c.outcome.result id) :=
    (aloneOf_eq hb).symm.trans (aloneOf_of_course now hc)
  have hname : (attempt b now request).backend.name = id := Registry.name_of_get? hb
  have hpending : Entrant.isPending ⟨attempt b now request, .pending⟩ = true := rfl
  simp only [Entrant.reportAt, hpending, if_true, hname, halone, stateAt]
  cases c.outcome <;> rfl

/-- The reports of a race that is decided at `time` tell what has become of each candidate, in order. -/
private theorem attempts_victory (limit now : Nat) (hbs : resolve registry request.candidates = .ok bs)
    (b : Backend) (time : Nat) (u : FirstUnit) : ((launched bs limit now request).victory b time u).attempts =
      request.candidates.map fun id => ⟨id, (course? registry request id).elim .pending (stateAt now time)⟩ := by
  have hnames := names_resolve hbs
  have hreports : ((launched bs limit now request).victory b time u).attempts =
      bs.map fun b => Entrant.reportAt now time ⟨attempt b now request, .pending⟩ := by
    rw [victory, entrants_launched, List.map_map]
    rfl
  rw [hreports, ← hnames, List.map_map]
  refine List.map_congr_left fun b' hb' => ?_
  obtain ⟨id, hid, hb⟩ := (mem_resolve hbs).1 hb'
  obtain ⟨c, hc⟩ := exists_course hbs hid
  have hname := Registry.name_of_get? hb
  rw [reportAt_attempt hb hc, Function.comp_apply, hname, hc, Option.elim_some]

private theorem Untied.eq_of_latency_eq (h : Untied registry request) {a b : String} (ha : a ∈ request.candidates)
    (hb : b ∈ request.candidates) {c d : Course FirstUnit} (hc : course? registry request a = some c)
    (hd : course? registry request b = some d) (hlatency : c.latency = d.latency) : a = b := by
  refine List.inj_on_of_nodup_map h ha hb ?_
  rw [readyAfter?, readyAfter?, hc, hd, Option.map_some, Option.map_some, hlatency]

private theorem exists_answer (hsome : request.candidates ≠ []) (hknown : ∀ id ∈ request.candidates,
    (registry.get? id).isSome) {t : Nat} {v : Victory} (hwon : (decide registry limit now request).1 = ⟨t, .ok v⟩) :
    ∃ id t u, Answers registry limit now request id t u := by
  -- otherwise the race would be lost by all or at its deadline
  by_contra hnone
  by_cases hfail : ∀ id ∈ request.candidates, ∃ t, Fails registry limit now request id t
  · obtain ⟨_, _, -, -, fs, hlost⟩ := decide_of_failures hsome hknown hfail
    cases hwon.symm.trans hlost
  · cases hwon.symm.trans (decide_of_silence hsome hknown hnone hfail)

/-- A race without ties that is won is won by a candidate that has its unit when the race is decided. -/
private theorem exists_leader (hties : Untied registry request) (hsome : request.candidates ≠ [])
    (hbs : resolve registry request.candidates = .ok bs) (hlimit : limit ≠ 0) {t : Nat} {v : Victory}
    (hrun : (launched bs limit now request).run.1 = ⟨t, .ok v⟩) :
    ∃ id ∈ request.candidates, ∃ b c u, registry.get? id = some b ∧ course? registry request id = some c ∧
      c.outcome = .value u ∧ now + c.latency = t ∧ v = (launched bs limit now request).victory b t u := by
  have hknown := isSome_of_resolve hbs
  have hanswer := exists_answer hsome hknown ((decide_eq_run hsome hbs hlimit).trans hrun)
  obtain ⟨id, w, u, hid, hfirst⟩ := exists_first_answer hanswer
  obtain ⟨c, hc⟩ := exists_course hbs hid.1
  obtain ⟨b, hb⟩ := Option.isSome_iff_exists.1 (hknown id hid.1)
  have halone := (aloneOf_of_course now hc).symm.trans hid.2.1
  obtain ⟨hw, hu⟩ : now + c.latency = w ∧ c.outcome.result id = .ok u := by simpa using halone
  have hled := ledBy_launched hbs (List.Nodup.of_map _ hties) hb hid fun a ha hne t' x hx => by
    obtain ⟨d, hd⟩ := exists_course hbs ha
    obtain ⟨ht', -⟩ : now + d.latency = t' ∧ d.outcome.result a = x := by
      simpa using (aloneOf_of_course now hd).symm.trans hx
    refine ⟨?_, ?_⟩
    · intro hsame
      exact hne (hties.eq_of_latency_eq ha hid.1 hd hc (by omega))
    · rintro u' rfl
      have hin := hid.2.2
      by_cases hlt : t' < now + limit
      · have hle := hfirst a t' u' ⟨ha, hx, hlt⟩
        have hne' : d.latency ≠ c.latency := fun hsame => hne (hties.eq_of_latency_eq ha hid.1 hd hc hsame)
        omega
      · omega
  have hwon := hled.run_eq.symm.trans hrun
  rw [Verdict.mk.injEq, Except.ok.injEq] at hwon
  obtain ⟨rfl, rfl⟩ := hwon
  exact ⟨id, hid.1, b, c, u, hb, hc, Outcome.result_eq_ok.1 hu, hw, rfl⟩

theorem reports_of_won (hties : Untied registry request) {t : Nat} {v : Victory}
    (h : (decide registry limit now request).1 = ⟨t, .ok v⟩) :
    v.attempts.map (·.backend) = request.candidates ∧
    v.attempts.filter (·.state = .won) = [⟨v.winner, .won⟩] ∧
    ∀ report ∈ v.attempts, report.state ≠ .pending ∧
      (report.state = .failed ↔ HasFailed registry now request report.backend t) := by
  obtain ⟨bs, hsome, hbs, hlimit, hrun⟩ := exists_launched h (by simp)
  obtain ⟨id, hid, b, c, u, hb, hc, hu, ht, rfl⟩ := exists_leader hties hsome hbs hlimit hrun
  have hattempts := attempts_victory limit now hbs b t u
  rw [hattempts]
  refine ⟨?_, ?_, ?_⟩
  · rw [List.map_map]
    exact List.map_id _
  · have hwon (a : String) (ha : a ∈ request.candidates) :
        (course? registry request a).elim .pending (stateAt now t) = .won ↔ a = id := by
      obtain ⟨d, hd⟩ := exists_course hbs ha
      rw [hd, Option.elim_some, stateAt_eq_won]
      constructor
      · rintro ⟨-, ht'⟩
        exact hties.eq_of_latency_eq ha hid hd hc (by omega)
      · rintro rfl
        obtain rfl : c = d := Option.some.inj (hc.symm.trans hd)
        exact ⟨⟨u, hu⟩, ht⟩
    have hwinner : request.candidates.filter (fun a =>
        (course? registry request a).elim .pending (stateAt now t) = .won) = [id] := by
      have hone := List.count_eq_one_of_mem (List.Nodup.of_map _ hties) hid
      rw [List.filter_congr fun a ha => decide_eq_decide.2 (hwon a ha), List.filter_eq, hone]
      rfl
    have hname : b.name = id := Registry.name_of_get? hb
    have hwinner' := (hwon id hid).2 rfl
    rw [List.filter_map, Function.comp_def, hwinner, List.map_singleton, hwinner', victory, hname]
  · rw [List.forall_mem_map]
    intro a ha
    obtain ⟨d, hd⟩ := exists_course hbs ha
    rw [hd, Option.elim_some]
    refine ⟨stateAt_ne_pending now t d, (stateAt_eq_failed a).trans ?_⟩
    constructor
    · rintro ⟨⟨e, he⟩, hlt⟩
      exact ⟨d, e, hd, he, hlt⟩
    · rintro ⟨d', e, hd', he, hlt⟩
      obtain rfl : d = d' := Option.some.inj (hd.symm.trans hd')
      exact ⟨⟨e, he⟩, hlt⟩

/-! ### Lost races -/

theorem failure?_eq_some {id : String} {t : Nat} {f : Failure} : failure? registry now request id = some (t, f) ↔
    ∃ c e, course? registry request id = some c ∧ c.outcome.result id = .error e ∧ t = now + c.latency ∧
      f = ⟨id, e.message⟩ := by
  rw [failure?, Option.bind_eq_some_iff]
  constructor
  · rintro ⟨c, hc, hf⟩
    cases he : c.outcome.result id with
    | ok u => simp [he] at hf
    | error e =>
      obtain ⟨rfl, rfl⟩ : now + c.latency = t ∧ ⟨id, e.message⟩ = f := by simpa [he] using hf
      exact ⟨c, e, hc, he, rfl, rfl⟩
  · rintro ⟨c, e, hc, he, rfl, rfl⟩
    exact ⟨c, hc, by simp [he]⟩

private theorem failuresAhead_launched (hbs : resolve registry request.candidates = .ok bs) :
    (launched bs limit now request).failuresAhead = request.candidates.filterMap (failure? registry now request) := by
  have hnames := names_resolve hbs
  rw [failuresAhead, entrants_launched, ← hnames, List.filterMap_map, List.filterMap_map]
  refine List.filterMap_congr fun b hb => ?_
  obtain ⟨id, hid, hb⟩ := (mem_resolve hbs).1 hb
  obtain ⟨c, hc⟩ := exists_course hbs hid
  have halone : (attempt b now request).alone now = some (now + c.latency, c.outcome.result id) :=
    (aloneOf_eq hb).symm.trans (aloneOf_of_course now hc)
  have hname : b.name = id := Registry.name_of_get? hb
  have hbackend : (attempt b now request).backend.name = id := hname
  have hpending : Entrant.isPending ⟨attempt b now request, .pending⟩ = true := rfl
  have hstart : (launched bs limit now request).start = now := rfl
  simp only [Function.comp_apply, Entrant.failureAhead, hpending, if_true, hstart, halone, hbackend, hname, failure?,
    hc, Option.bind_some]
  cases c.outcome.result id <;> rfl

/-- The failures of the candidates in the order in which they come. -/
structure InOrder (registry : Registry) (now : Nat) (request : RaceRequest) (xs : List (Nat × Failure)) : Prop where
  perm : xs.Perm (request.candidates.filterMap (failure? registry now request))
  sorted : xs.Pairwise (·.1 ≤ ·.1)

private theorem InOrder.of_mem {xs : List (Nat × Failure)} (h : InOrder registry now request xs) {x : Nat × Failure}
    (hx : x ∈ xs) : x.2.backend ∈ request.candidates ∧ failure? registry now request x.2.backend = some x := by
  obtain ⟨id, hid, hfail⟩ := List.mem_filterMap.1 (h.perm.mem_iff.1 hx)
  obtain ⟨c, e, -, -, -, hf⟩ := failure?_eq_some.1 hfail
  have hname : x.2.backend = id := by rw [hf]
  exact ⟨hname ▸ hid, hname ▸ hfail⟩

private theorem InOrder.le_last {xs : List (Nat × Failure)} {t : Nat} {f : Failure}
    (h : InOrder registry now request (xs ++ [(t, f)])) {x : Nat × Failure} (hx : x ∈ xs ++ [(t, f)]) : x.1 ≤ t := by
  rcases List.mem_append.1 hx with hx | hx
  · exact (List.pairwise_append.1 h.sorted).2.2 x hx _ (List.mem_singleton_self _)
  · rw [List.mem_singleton.1 hx]

/-- In whatever order, the last failure comes at the same time. -/
private theorem InOrder.last_eq {xs ys : List (Nat × Failure)} {t t' : Nat} {f f' : Failure}
    (hxs : InOrder registry now request (xs ++ [(t, f)])) (hys : InOrder registry now request (ys ++ [(t', f')])) :
    t = t' := by
  have hsame := hxs.perm.trans hys.perm.symm
  have hle : t ≤ t' := hys.le_last (hsame.mem_iff.1 (List.mem_append_right xs (List.mem_singleton_self (t, f))))
  have hge : t' ≤ t := hxs.le_last (hsame.mem_iff.2 (List.mem_append_right ys (List.mem_singleton_self (t', f'))))
  exact Nat.le_antisymm hle hge

/-- Without ties there is only one order. -/
private theorem Untied.order_unique (hties : Untied registry request) {xs ys : List (Nat × Failure)}
    (hxs : InOrder registry now request xs) (hys : InOrder registry now request ys) : xs = ys := by
  refine List.Perm.eq_of_pairwise ?_ hxs.sorted hys.sorted (hxs.perm.trans hys.perm.symm)
  intro x y hx hy hle hge
  obtain ⟨hxc, hxf⟩ := hxs.of_mem hx
  obtain ⟨hyc, hyf⟩ := hys.of_mem hy
  obtain ⟨c, -, hc, -, hxt, -⟩ := failure?_eq_some.1 hxf
  obtain ⟨d, -, hd, -, hyt, -⟩ := failure?_eq_some.1 hyf
  -- failures at the same time are those of one candidate
  have hname : x.2.backend = y.2.backend := hties.eq_of_latency_eq hxc hyc hc hd (by omega)
  rw [hname, hyf] at hxf
  exact (Option.some.inj hxf).symm

private theorem decide_of_doomed (hsome : request.candidates ≠ [])
    (hbs : resolve registry request.candidates = .ok bs) (hlimit : limit ≠ 0)
    (hdoomed : (launched bs limit now request).Doomed) :
    ∃ past t f, InOrder registry now request (past ++ [(t, f)]) ∧
      (decide registry limit now request).1 = ⟨t, .error (.allFailed ((past ++ [(t, f)]).map (·.2)))⟩ := by
  obtain ⟨past, t, f, hperm, hsorted, hrun⟩ := hdoomed.run_eq
  rw [failuresAhead_launched hbs] at hperm
  refine ⟨past, t, f, ⟨hperm, hsorted⟩, ?_⟩
  rw [decide_eq_run hsome hbs hlimit, hrun]
  rfl

private theorem fails_of_doomed (hbs : resolve registry request.candidates = .ok bs)
    (hdoomed : (launched bs limit now request).Doomed) :
    ∀ id ∈ request.candidates, ∃ t, Fails registry limit now request id t := by
  intro id hid
  obtain ⟨b, hb⟩ := Option.isSome_iff_exists.1 (isSome_of_resolve hbs id hid)
  obtain ⟨t, e, halone, hlt⟩ := hdoomed.fails _ (mem_launched.2 ⟨b, (mem_resolve hbs).2 ⟨id, hid, hb⟩, rfl⟩) rfl
  exact ⟨t, hid, ⟨e, (aloneOf_eq hb).trans halone⟩, hlt⟩

/-- If all candidates are to fail in time, the race is lost with their failures in order, however the candidates are
listed. -/
private theorem decide_of_order (hsome : request.candidates ≠ [])
    (hbs : resolve registry request.candidates = .ok bs) (hlimit : limit ≠ 0)
    (hfails : ∀ id ∈ request.candidates, ∃ t, Fails registry limit now request id t)
    {order : List String} (horder : order.Perm request.candidates) :
    ∃ past t f, InOrder registry now request (past ++ [(t, f)]) ∧
      (decide registry limit now { request with candidates := order }).1 =
        ⟨t, .error (.allFailed ((past ++ [(t, f)]).map (·.2)))⟩ := by
  obtain ⟨other, hother⟩ : ∃ other : RaceRequest, other = { request with candidates := order } := ⟨_, rfl⟩
  have hcandidates : other.candidates = order := congrArg _ hother
  have hsome' : other.candidates ≠ [] := by
    intro hnil
    rw [← hcandidates, hnil] at horder
    exact hsome horder.nil_eq.symm
  have hlisted (id : String) (hid : id ∈ other.candidates) : id ∈ request.candidates :=
    horder.mem_iff.1 (hcandidates ▸ hid)
  obtain ⟨bs', hbs'⟩ := exists_resolve fun id hid => isSome_of_resolve hbs id (hlisted id hid)
  have hfails' (id : String) (hid : id ∈ other.candidates) : ∃ t, Fails registry limit now other id t := by
    obtain ⟨t, -, herror, hlt⟩ := hfails id (hlisted id hid)
    exact ⟨t, hid, hother ▸ herror, hlt⟩
  have hdoomed := doomed_launched hbs' (ne_nil_of_resolve hsome' hbs') hfails'
  obtain ⟨past, t, f, hinOrder, hlost⟩ := decide_of_doomed hsome' hbs' hlimit hdoomed
  rw [hother] at hinOrder hlost
  -- the failures of the candidates do not depend on how these are listed
  exact ⟨past, t, f, ⟨hinOrder.perm.trans (horder.filterMap _), hinOrder.sorted⟩, hlost⟩

theorem failures_of_lost {t : Nat} {fs : List Failure}
    (h : (decide registry limit now request).1 = ⟨t, .error (.allFailed fs)⟩) :
    (fs.map (·.backend)).Perm request.candidates ∧
    (∀ f ∈ fs, ∃ c e, course? registry request f.backend = some c ∧ c.outcome.result f.backend = .error e ∧
      f.message = e.message) ∧
    fs.Pairwise (fun f g => ∀ c d, course? registry request f.backend = some c →
      course? registry request g.backend = some d → c.latency ≤ d.latency) ∧
    ∀ order, order.Perm request.candidates → ∃ fs',
      (decide registry limit now { request with candidates := order }).1 = ⟨t, .error (.allFailed fs')⟩ ∧
      fs'.Perm fs ∧ (Untied registry request → fs' = fs) := by
  obtain ⟨bs, hsome, hbs, hlimit, hrun⟩ := exists_launched h fun e he => ⟨fs, (Except.error.inj he).symm⟩
  have hway := isUnderWay_launched (ne_nil_of_resolve hsome hbs) limit now request
  have hdoomed := hway.doomed_of_allFailed (congrArg Verdict.result hrun)
  obtain ⟨past, t', f, hinOrder, hdecide⟩ := decide_of_doomed hsome hbs hlimit hdoomed
  obtain ⟨rfl, rfl⟩ : t' = t ∧ (past ++ [(t', f)]).map (·.2) = fs := by
    simpa using hdecide.symm.trans h
  refine ⟨?_, ?_, ?_, ?_⟩
  · rcases decide_cases limit now hsome (isSome_of_resolve hbs) with ⟨_, w, hw, -⟩ | ⟨_, _, hlost, -, hnames⟩ | hexp
    · cases hw.symm.trans h
    · rw [h, Verdict.mk.injEq, Except.error.injEq, RaceError.allFailed.injEq] at hlost
      rw [hlost.2]
      exact hnames
    · cases hexp.symm.trans h
  · rw [List.forall_mem_map]
    intro x hx
    obtain ⟨c, e, hc, he, -, hf⟩ := failure?_eq_some.1 (hinOrder.of_mem hx).2
    exact ⟨c, e, hc, he, congrArg Failure.message hf⟩
  · rw [List.pairwise_map]
    refine hinOrder.sorted.imp_of_mem fun {x y} hx hy hle c d hc hd => ?_
    obtain ⟨c', -, hc', -, hx', -⟩ := failure?_eq_some.1 (hinOrder.of_mem hx).2
    obtain ⟨d', -, hd', -, hy', -⟩ := failure?_eq_some.1 (hinOrder.of_mem hy).2
    obtain rfl : c = c' := Option.some.inj (hc.symm.trans hc')
    obtain rfl : d = d' := Option.some.inj (hd.symm.trans hd')
    omega
  · intro order horder
    obtain ⟨past', s, f', hinOrder', hdecide'⟩ :=
      decide_of_order hsome hbs hlimit (fails_of_doomed hbs hdoomed) horder
    obtain rfl : s = t' := hinOrder'.last_eq hinOrder
    have hsame := hinOrder'.perm.trans hinOrder.perm.symm
    exact ⟨_, hdecide', hsame.map _, fun hties => by rw [hties.order_unique hinOrder' hinOrder]⟩

end

/-- Backends that answer at 80, crash at 10, stream a word at 35, and stream nothing until 20. -/
private def quartet : Registry := .ofList [
  .scripted "slow" 0 80 .crash (.value [⟨0, .value (.content "late")⟩]),
  .scripted "down" 1 10 .crash .crash,
  .scripted "fast" 2 30 .crash (.value [⟨5, .value (.content "hi")⟩]),
  .scripted "mute" 3 15 .crash (.value [⟨5, .value (.content "")⟩])]

private def quartetOf (ids : List String) : RaceRequest := ⟨"req", ids, [], .free, true⟩

end Race

end ChatRace
