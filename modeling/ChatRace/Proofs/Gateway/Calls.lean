import ChatRace.Proofs.Gateway.Ending
import ChatRace.Proofs.Race.Connections
import ChatRace.Proofs.Race.Forecast

/-!
# Calls

Which calls are made for a request, when, and to whom (`calls_timeline`).  A timeline is a log with the time of each
entry.  All calls of a race are made when it begins, one to each candidate under its own name, and no step of the race
makes any (`IsUnderWay.calls_timelineFor`).  A backend is called in the mode that the request asks for: what the
candidates do in the other mode makes no difference to the race.
-/

namespace ChatRace

open Chat

/-- What happens on the lines, with the time of each event. -/
abbrev Timeline := List (Nat × Traffic)

namespace Timeline

/-- The events of a log that all happen at one time. -/
def dated (time : Nat) (log : List Traffic) : Timeline := log.map (Prod.mk time)

/-- The calls in a timeline: when each is made, on which line, and what for. -/
def calls (events : Timeline) : List (Nat × Nat × BackendRequest) :=
  events.filterMap fun
    | (time, .called line r) => some (time, line, r)
    | _ => none

theorem map_dated (time : Nat) (log : List Traffic) : (dated time log).map (·.2) = log := by
  rw [dated, List.map_map]
  exact List.map_id log

theorem calls_append (a b : Timeline) : calls (a ++ b) = calls a ++ calls b :=
  List.filterMap_append

private theorem calls_dated_of_noCalls {log : List Traffic} (h : ∀ line, Traffic.calls line log = []) (time : Nat) :
    calls (dated time log) = [] := by
  rw [calls, List.filterMap_eq_nil_iff]
  intro x hx
  obtain ⟨event, hevent, rfl⟩ := List.mem_map.1 hx
  cases event with
  | pulled line | released line => rfl
  | called line r =>
    have hmem : r ∈ Traffic.calls line log := List.mem_filterMap.2 ⟨_, hevent, by simp⟩
    rw [h line] at hmem
    cases hmem

end Timeline

namespace Race

open Timeline

/-! ### Races with their times -/

/-- What happens on the lines while a race takes at most `steps` steps, and when. -/
def timelineFor : Nat → Race → Timeline
  | 0, r => dated r.deadline r.abandon
  | steps + 1, r =>
    match r.step with
    | (.decided _, log) => dated r.due log
    | (.running r', log) => dated r.due log ++ timelineFor steps r'

/-- What happens on the lines in the race that a request asks for, and when. -/
def timeline (registry : Registry) (limit now : Nat) (request : RaceRequest) : Timeline :=
  match enter registry limit now request with
  | .error _ => []
  | .ok r => dated r.start r.launch.2 ++ timelineFor r.launch.1.work r.launch.1

private theorem map_timelineFor (n : Nat) (r : Race) : (timelineFor n r).map (·.2) = (runFor n r).2 := by
  induction n generalizing r with
  | zero => exact map_dated ..
  | succ n ih =>
    rw [timelineFor, runFor]
    cases r.step with
    | mk p log =>
      cases p with
      | decided v => exact map_dated ..
      | running r' => simp only [List.map_append, map_dated, ih]

theorem map_timeline (registry : Registry) (limit now : Nat) (request : RaceRequest) :
    (timeline registry limit now request).map (·.2) = (decide registry limit now request).2 := by
  unfold timeline decide
  cases enter registry limit now request with
  | error e => rfl
  | ok r => simp only [List.map_append, map_dated, map_timelineFor, run]

/-- No call is made while a race is under way. -/
theorem IsUnderWay.calls_timelineFor {r : Race} (h : r.IsUnderWay) (n : Nat) : calls (timelineFor n r) = [] := by
  induction n generalizing r with
  | zero => exact calls_dated_of_noCalls (calls_cancelAll r.entrants) _
  | succ n ih =>
    have hstep := h.calls_step
    rw [timelineFor]
    cases hs : r.step with
    | mk p log =>
      rw [hs] at hstep
      cases p with
      | decided v => exact calls_dated_of_noCalls hstep _
      | running r' =>
        simp only [calls_append, calls_dated_of_noCalls hstep, ih (h.of_step hs), List.nil_append]

private theorem calls_launch (bs : List Backend) (limit now : Nat) (request : RaceRequest) :
    calls (dated (between bs limit now request).start (between bs limit now request).launch.2) =
      bs.map fun b => (now, b.line, request.forBackend b.name) := by
  rw [log_launch, dated, calls, List.filterMap_map, List.filterMap_map, ← List.filterMap_eq_map]
  rfl

end Race

/-- Two backends on one line that do the same if they are asked for streams, or for whole replies. -/
structure Backend.AgreesOn (stream : Bool) (b b' : Backend) : Prop where
  line : b'.line = b.line
  course : if stream then b'.streamed = b.streamed else b'.buffered = b.buffered

private theorem Backend.AgreesOn.prospect_eq {b b' : Backend} {request : RaceRequest}
    (h : b.AgreesOn request.stream b') (hname : b'.name = b.name) (now : Nat) :
    b'.prospect (fun u => u) now request = b.prospect (fun u => u) now request := by
  obtain ⟨hline, hcourse⟩ := h
  have hunit : b'.firstUnit (request.forBackend b.name) = b.firstUnit (request.forBackend b.name) := by
    cases hmode : request.stream <;> rw [hmode] at hcourse <;>
      simp [Backend.firstUnit, RaceRequest.forBackend, hmode, hname, show _ = _ from hcourse]
  simp only [Backend.prospect, hline, hname, hunit]

namespace Race

open Timeline

/-- A request that is accepted makes one call to each candidate, all when the race begins, and no other call: each
under the candidate's own name, with the messages and the parameters of the client, and with the identifier of the
race.  The race depends on the candidates only in the mode that the request asks for. -/
theorem calls_timeline {q : ClientRequest} {id : String} {request : RaceRequest} (hq : q.toRace id = .ok request)
    {registry : Registry} {limit : Nat} (hknown : ∀ c ∈ candidates q.model, (registry.get? c).isSome)
    (hlimit : limit ≠ 0) (now : Nat) :
    (∃ bs : List Backend, bs.map (·.name) = candidates q.model ∧ (bs.map (·.name)).Nodup ∧
      (∀ b ∈ bs, registry.get? b.name = some b) ∧
      (timeline registry limit now request).map (·.2) = (decide registry limit now request).2 ∧
      (timeline registry limit now request).calls =
        bs.map fun b => (now, b.line, ⟨id, b.name, q.messages, q.generation, q.stream⟩)) ∧
    ∀ registry' : Registry, (∀ c ∈ candidates q.model, ∃ b b', registry.get? c = some b ∧
      registry'.get? c = some b' ∧ b.AgreesOn q.stream b') →
      (decide registry' limit now request).1.seen (fun u => u) = (decide registry limit now request).1.seen fun u => u := by
  obtain rfl := ClientRequest.of_toRace_eq_ok hq
  have hsome : candidates q.model ≠ [] := by
    intro hnone
    simp [ClientRequest.toRace, ClientRequest.refusal?, hnone] at hq
  obtain ⟨bs, hbs⟩ := exists_resolve hknown
  have hnames : bs.map (·.name) = candidates q.model := names_resolve hbs
  refine ⟨⟨bs, hnames, hnames ▸ nodup_candidates q.model, ?_, map_timeline .., ?_⟩, ?_⟩
  · intro b hb
    obtain ⟨c, -, hc⟩ := (mem_resolve hbs).1 hb
    rw [Registry.name_of_get? hc, hc]
  · have hway := isUnderWay_launched (ne_nil_of_resolve hsome hbs) limit now
      ⟨id, candidates q.model, q.messages, q.generation, q.stream⟩
    rw [timeline, enter_eq_ok hsome hbs hlimit]
    simp only [calls_append, calls_launch]
    rw [IsUnderWay.calls_timelineFor (r := (between bs limit now _).launch.1) hway, List.append_nil]
    rfl
  · intro registry' hagree
    refine seen_decide_congr _ rfl fun c hc => ?_
    obtain ⟨b, b', hb, hb', h⟩ := hagree c hc
    rw [hb, hb', Option.map_some, Option.map_some]
    exact congrArg some (h.prospect_eq ((Registry.name_of_get? hb').trans (Registry.name_of_get? hb).symm) now)

/-- A backend that fails at once, another one under its name that replaces it, and a slow one. -/
private def pair : Registry := .ofList [
  .scripted "b" 0 0 .crash .crash,
  .scripted "a" 1 40 .crash (.value [⟨5, .value (.content "hi")⟩]),
  .scripted "b" 2 70 .crash (.value [])]

private def pairWish : ClientRequest :=
  ⟨" b,a , b", [⟨.system, ""⟩, ⟨.user, "hi"⟩], ⟨some 5, none, none⟩, true, true, none⟩

/-- Each of the two is called once, though one of them is listed twice and has been registered twice. -/
theorem calls_timeline_pair : ∃ request, pairWish.toRace "req" = .ok request ∧
    ∃ bs : List Backend, bs.map (·.name) = ["b", "a"] ∧ (∀ b ∈ bs, pair.get? b.name = some b) ∧
      (timeline pair 100 9 request).calls = bs.map fun b =>
        (9, b.line, ⟨"req", b.name, [⟨.system, ""⟩, ⟨.user, "hi"⟩], ⟨some 5, none, none⟩, true⟩) := by
  have hcandidates : candidates pairWish.model = ["b", "a"] := by decide +kernel
  have hknown : ∀ c ∈ candidates pairWish.model, (pair.get? c).isSome := by decide +kernel
  have hq : pairWish.toRace "req" = .ok ⟨"req", candidates pairWish.model, pairWish.messages,
      pairWish.generation, pairWish.stream⟩ := by
    have hrefusal : pairWish.refusal? = none := by decide +kernel
    simp only [ClientRequest.toRace, hrefusal]
  obtain ⟨⟨bs, hnames, -, hget, -, hcalls⟩, -⟩ := calls_timeline hq hknown (show 100 ≠ 0 by decide) 9
  exact ⟨_, hq, bs, hnames.trans hcandidates, hget, hcalls⟩

end Race

end ChatRace
