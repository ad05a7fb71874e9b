import ChatRace.Proofs.Race.Connections
import ChatRace.Proofs.Race.Result

/-!
# Many races at once

A `Coordinator` runs any number of races over the same backends.  Its events come in any order: a race is
started, takes its next step or is given up by its caller, and the caller of a race that has been won with a
stream pulls an item of it or drops it.  Whatever happens, the connections that are open on a line are the calls
in progress in races that have not been decided and the streams that are still held and not at their end
(`accounts_run`).
-/

namespace ChatRace

open Chat

namespace Heat

/-- How far a race is. -/
inductive Stage where
  | running (r : Race)
  | abandoned
  /-- The race is over; `stream` is the winner's as long as the caller holds it and has not been told that it is
  at its end. -/
  | decided (v : Verdict) (stream : Option Stream)

namespace Stage

/-- The stage after a step of a race. -/
def ofProgress : Progress → Stage
  | .running r => .running r
  | .decided v => .decided v v.stream?

/-- The stage of a race that a request asks for; the race is over at once if it cannot be entered. -/
def enter (registry : Registry) (limit now : Nat) (request : RaceRequest) : Stage × List Traffic :=
  match Race.enter registry limit now request with
  | .error e => (.decided ⟨now, .error e⟩ none, [])
  | .ok r => (.running r.launch.1, r.launch.2)

/-- Takes the next step of a race. -/
def advance : Stage → Stage × List Traffic
  | .running r => (ofProgress r.step.1, r.step.2)
  | s => (s, [])

/-- Gives up a race that has not been decided. -/
def abandon : Stage → Stage × List Traffic
  | .running r => (.abandoned, r.abandon)
  | s => (s, [])

/-- Pulls the next item of the winner's stream. -/
def pull (now : Nat) : Stage → Stage × List Traffic
  | .decided v (some s) =>
    match s.next now with
    | (some _, s, log) => (.decided v (some s), log)
    | (none, _, log) => (.decided v none, log)
  | s => (s, [])

/-- Drops the winner's stream. -/
def drop : Stage → Stage × List Traffic
  | .decided v (some s) => (.decided v none, s.drop.2)
  | s => (s, [])

/-- The connections on a line that a race accounts for: its calls in progress until it is decided, and then the
winner's stream. -/
def connections (line : Nat) : Stage → Nat
  | .running r => r.callsInProgress line
  | .abandoned | .decided _ none => 0
  | .decided _ (some s) => if s.line = line then 1 else 0

end Stage

end Heat

/-- One of the races of a coordinator, and what has happened on the lines on its behalf. -/
structure Heat where
  stage : Heat.Stage
  log : List Traffic

/-- Races over the same backends, and all that has happened on the lines. -/
structure Coordinator where
  registry : Registry
  limit : Nat
  heats : List Heat
  log : List Traffic

namespace Coordinator

/-- What happens to a coordinator. -/
inductive Event where
  | start (now : Nat) (request : RaceRequest)
  | advance (heat : Nat)
  | abandon (heat : Nat)
  | pull (heat now : Nat)
  | drop (heat : Nat)

/-- A coordinator that has not run any race. -/
def fresh (registry : Registry) (limit : Nat) : Coordinator := ⟨registry, limit, [], []⟩

/-- Changes the stage of a race. -/
def update (c : Coordinator) (heat : Nat) (f : Heat.Stage → Heat.Stage × List Traffic) : Coordinator :=
  match c.heats[heat]? with
  | none => c
  | some h =>
    { c with
      heats := c.heats.set heat ⟨(f h.stage).1, h.log ++ (f h.stage).2⟩
      log := c.log ++ (f h.stage).2 }

/-- Lets something happen. -/
def act (c : Coordinator) : Event → Coordinator
  | .start now request =>
    let (stage, log) := Heat.Stage.enter c.registry c.limit now request
    { c with heats := c.heats ++ [⟨stage, log⟩], log := c.log ++ log }
  | .advance heat => c.update heat Heat.Stage.advance
  | .abandon heat => c.update heat Heat.Stage.abandon
  | .pull heat now => c.update heat (Heat.Stage.pull now)
  | .drop heat => c.update heat Heat.Stage.drop

/-- What has become of a fresh coordinator after some events. -/
def run (registry : Registry) (limit : Nat) (events : List Event) : Coordinator :=
  events.foldl act (fresh registry limit)

end Coordinator

/-! ### One race -/

namespace Heat.Stage

/-- What holds of every stage of a race: a race that goes on is under way, and a stream is held only if it is
open and the winner's. -/
def IsValid : Stage → Prop
  | .running r => r.IsUnderWay
  | .abandoned | .decided _ none => True
  | .decided v (some s) => s.isOpen = true ∧ ∃ s', v.stream? = some s' ∧ s.line = s'.line

/-- An operation on stages that makes no call, and ends the connections that are not accounted for any more. -/
def IsFair (f : Stage → Stage × List Traffic) : Prop :=
  ∀ s : Stage, s.IsValid → (f s).1.IsValid ∧ ∀ line, Traffic.calls line (f s).2 = [] ∧
    Traffic.balance line (f s).2 + s.connections line = (f s).1.connections line

private theorem isFair_idle {s : Stage} (h : s.IsValid) :
    s.IsValid ∧ ∀ line, Traffic.calls line [] = [] ∧
      Traffic.balance line [] + s.connections line = (s.connections line : Int) :=
  ⟨h, fun _ => ⟨rfl, by simp⟩⟩

private theorem isValid_of_verdict (v : Verdict) : (Stage.decided v v.stream?).IsValid := by
  unfold Verdict.stream?
  split
  · split
    · trivial
    · rename_i w hw _ first rest hu
      exact ⟨rfl, .held w.line rest, by simp [Verdict.stream?, hw, hu], rfl⟩
  · trivial

private theorem connections_decided {v : Verdict} {stream : Option Stream} (h : (Stage.decided v stream).IsValid)
    (line : Nat) : ((Stage.decided v stream).connections line : Int) = stream.elim 0 (·.connections line) := by
  cases stream with
  | none => rfl
  | some s =>
    simp only [connections, Option.elim_some, Stream.connections, h.1]
    split <;> simp_all

theorem isFair_advance : IsFair advance := by
  intro s h
  cases s with
  | abandoned => exact isFair_idle h
  | decided v stream => exact isFair_idle h
  | running r =>
    have hr : r.IsUnderWay := h
    have hbal := hr.balance_step
    cases hs : r.step.1 with
    | running r' =>
      have hstep : r.step = (.running r', r.step.2) := by rw [← hs]
      have hr' : r'.IsUnderWay := hr.of_step hstep
      refine ⟨by simpa [advance, ofProgress, hs, IsValid] using hr', fun line => ⟨hr.calls_step line, ?_⟩⟩
      simp only [hs, Progress.connections] at hbal
      simp only [advance, ofProgress, hs, connections, ← hr.connections_eq, ← hr'.connections_eq]
      exact hbal line
    | decided v =>
      have hv := isValid_of_verdict v
      refine ⟨by simpa [advance, ofProgress, hs] using hv, fun line => ⟨hr.calls_step line, ?_⟩⟩
      simp only [hs, Progress.connections] at hbal
      simp only [advance, ofProgress, hs, connections_decided hv]
      simp only [connections, ← hr.connections_eq]
      exact hbal line

theorem isFair_abandon : IsFair abandon := by
  intro s h
  cases s with
  | abandoned => exact isFair_idle h
  | decided v stream => exact isFair_idle h
  | running r =>
    have hr : r.IsUnderWay := h
    refine ⟨trivial, fun line => ⟨Race.calls_cancelAll r.entrants line, ?_⟩⟩
    simp only [abandon, connections, ← hr.connections_eq]
    exact hr.balance_abandon line

theorem isFair_drop : IsFair drop := by
  intro s h
  cases s with
  | running r => exact isFair_idle h
  | abandoned => exact isFair_idle h
  | decided v stream =>
    cases stream with
    | none => exact isFair_idle h
    | some s =>
      refine ⟨trivial, fun line => ⟨Stream.calls_drop s line, ?_⟩⟩
      rw [connections_decided h]
      exact Stream.balance_drop s line

theorem isFair_pull (now : Nat) : IsFair (pull now) := by
  intro s h
  cases s with
  | running r => exact isFair_idle h
  | abandoned => exact isFair_idle h
  | decided v stream =>
    cases stream with
    | none => exact isFair_idle h
    | some s =>
      rcases Stream.next_cases s now with ⟨d, rest, e⟩ | ⟨s', log, e, -, hlog⟩
      · have hv : (Stage.decided v (some { s with rest := rest })).IsValid := h
        simp only [pull, e]
        exact ⟨hv, fun line => ⟨rfl, by simp [connections]⟩⟩
      · have hbal := Stream.balance_drop s
        have hcalls := Stream.calls_drop s
        simp only [pull, e]
        refine ⟨trivial, fun line => ?_⟩
        rw [connections_decided h]
        rcases hlog with rfl | rfl
        · exact ⟨hcalls line, hbal line⟩
        · refine ⟨hcalls line, ?_⟩
          rw [← List.singleton_append, Traffic.balance_append, Traffic.balance_pulled, Int.zero_add]
          exact hbal line

theorem enter_cases (registry : Registry) (limit now : Nat) (request : RaceRequest) :
    (enter registry limit now request).1.IsValid ∧ ∀ line,
      Traffic.releases line (enter registry limit now request).2 = 0 ∧
      Traffic.balance line (enter registry limit now request).2 =
        (enter registry limit now request).1.connections line := by
  unfold enter
  cases he : Race.enter registry limit now request with
  | error e => exact ⟨trivial, fun _ => ⟨rfl, rfl⟩⟩
  | ok r =>
    obtain ⟨bs, hne, -, rfl⟩ := Race.of_enter_eq_ok he
    have hr := Race.isUnderWay_launched hne limit now request
    refine ⟨hr, fun line => ?_⟩
    obtain ⟨hbal, hrel⟩ := Race.balance_launch bs limit now request line
    exact ⟨hrel, hbal.trans (hr.connections_eq line)⟩

end Heat.Stage

/-! ### All races -/

namespace Coordinator

/-- What the counters of the lines say, all together and race by race. -/
structure IsBalanced (c : Coordinator) : Prop where
  valid : ∀ h ∈ c.heats, h.stage.IsValid
  each : ∀ h ∈ c.heats, ∀ line, Traffic.balance line h.log = h.stage.connections line
  total : ∀ line, Traffic.balance line c.log = ((c.heats.map (·.stage.connections line)).sum : Nat)
  sound : ∀ line, Traffic.IsSound line c.log

private theorem sum_map_set {xs : List α} {k : Nat} {x : α} (f : α → Nat) (h : xs[k]? = some x) (y : α) :
    ((xs.set k y).map f).sum + f x = (xs.map f).sum + f y := by
  induction xs generalizing k with
  | nil => simp at h
  | cons z xs ih =>
    cases k with
    | zero =>
      obtain rfl : z = x := by simpa using h
      simp only [List.set_cons_zero, List.map_cons, List.sum_cons]
      omega
    | succ k =>
      have := ih (k := k) (by simpa using h)
      simp only [List.set_cons_succ, List.map_cons, List.sum_cons]
      omega

theorem IsBalanced.update {c : Coordinator} (h : c.IsBalanced) (heat : Nat)
    {f : Heat.Stage → Heat.Stage × List Traffic} (hf : Heat.Stage.IsFair f) : (c.update heat f).IsBalanced := by
  unfold Coordinator.update
  split
  · exact h
  · rename_i x hx
    have hmem := List.mem_of_getElem? hx
    obtain ⟨hvalid, hfair⟩ := hf x.stage (h.valid x hmem)
    -- one race changes, and the sum over all races changes with it
    have htotal : ∀ line, Traffic.balance line (c.log ++ (f x.stage).2) =
        (((c.heats.set heat ⟨(f x.stage).1, x.log ++ (f x.stage).2⟩).map
          (·.stage.connections line)).sum : Nat) := by
      intro line
      have hsum := sum_map_set (fun h : Heat => h.stage.connections line) hx
        ⟨(f x.stage).1, x.log ++ (f x.stage).2⟩
      have hbal := (hfair line).2
      rw [Traffic.balance_append, h.total line]
      dsimp only at hsum
      omega
    refine ⟨?_, ?_, htotal, ?_⟩
    · intro y hy
      rcases List.mem_or_eq_of_mem_set hy with hy | rfl
      · exact h.valid y hy
      · exact hvalid
    · intro y hy line
      rcases List.mem_or_eq_of_mem_set hy with hy | rfl
      · exact h.each y hy line
      · rw [Traffic.balance_append, h.each x hmem line]
        have := (hfair line).2
        dsimp only
        omega
    · intro line
      -- nothing is called here, so what is open at the end has been open all along
      apply (h.sound line).append_of_noCalls (hfair line).1
      rw [htotal line]
      omega

theorem IsBalanced.act {c : Coordinator} (h : c.IsBalanced) (e : Event) : (c.act e).IsBalanced := by
  cases e with
  | advance heat => exact h.update heat Heat.Stage.isFair_advance
  | abandon heat => exact h.update heat Heat.Stage.isFair_abandon
  | pull heat now => exact h.update heat (Heat.Stage.isFair_pull now)
  | drop heat => exact h.update heat Heat.Stage.isFair_drop
  | start now request =>
    obtain ⟨hvalid, hlog⟩ := Heat.Stage.enter_cases c.registry c.limit now request
    simp only [Coordinator.act]
    refine ⟨?_, ?_, ?_, ?_⟩
    · intro y hy
      rcases List.mem_append.1 hy with hy | hy
      · exact h.valid y hy
      · rw [List.mem_singleton.1 hy]
        exact hvalid
    · intro y hy line
      rcases List.mem_append.1 hy with hy | hy
      · exact h.each y hy line
      · rw [List.mem_singleton.1 hy]
        exact (hlog line).2
    · intro line
      rw [Traffic.balance_append, h.total line, (hlog line).2]
      simp
    · intro line
      exact (h.sound line).append_of_noReleases (hlog line).1

/-- Whatever happens, the connections that are made and not ended are those that somebody holds. -/
theorem isBalanced_run (registry : Registry) (limit : Nat) (events : List Event) :
    (run registry limit events).IsBalanced := by
  have key : ∀ c : Coordinator, c.IsBalanced → (events.foldl Coordinator.act c).IsBalanced := by
    induction events with
    | nil => exact fun _ h => h
    | cons e events ih => exact fun c h => ih (c.act e) (h.act e)
  apply key
  refine ⟨by simp [fresh], by simp [fresh], fun _ => rfl, ?_⟩
  intro line pre hpre
  rw [List.prefix_nil.1 hpre]
  exact Nat.le_refl 0

/-- A race whose balance is the number of connections of its stage has that many connections open. -/
private theorem openOn_of_each {line n : Nat} {log : List Traffic} (h : Traffic.balance line log = n) :
    Traffic.openOn line log = n := by
  simp only [Traffic.balance] at h
  simp only [Traffic.openOn]
  omega

private theorem connections_of_stream?_eq_none {v : Verdict} {stream : Option Stream} (hv : v.stream? = none)
    (h : (Heat.Stage.decided v stream).IsValid) (line : Nat) :
    (Heat.Stage.decided v stream).connections line = 0 := by
  cases stream with
  | none => rfl
  | some s =>
    obtain ⟨-, s', hs', -⟩ := h
    rw [hv] at hs'
    nomatch hs'

private theorem connections_of_streamed {v : Verdict} {stream : Option Stream} {w : Victory} {first : Chunk}
    {rest : List Item} (hw : v.result = .ok w) (hu : w.unit = .streamed first rest)
    (h : (Heat.Stage.decided v stream).IsValid) (line : Nat) :
    (Heat.Stage.decided v stream).connections line = if stream.isSome ∧ w.line = line then 1 else 0 := by
  cases stream with
  | none => simp [Heat.Stage.connections]
  | some s =>
    obtain ⟨-, s', hs', hline⟩ := h
    obtain rfl : Stream.held w.line rest = s' := by simpa [Verdict.stream?, hw, hu] using hs'
    simp [Heat.Stage.connections, hline, Stream.held]

private theorem IsBalanced.openOn_decided {c : Coordinator} (hc : c.IsBalanced) {h : Heat} (hh : h ∈ c.heats)
    {v : Verdict} {stream : Option Stream} (hs : h.stage = .decided v stream) :
    (Heat.Stage.decided v stream).IsValid ∧
      ∀ line, Traffic.openOn line h.log = (Heat.Stage.decided v stream).connections line := by
  have hvalid := hc.valid h hh
  have heach := hc.each h hh
  rw [hs] at hvalid heach
  exact ⟨hvalid, fun line => openOn_of_each (heach line)⟩

/-- A pull ends the connection of a stream if it brings nothing. -/
private theorem IsBalanced.openOn_pull {c : Coordinator} (hc : c.IsBalanced) {k : Nat} (now : Nat) {h : Heat}
    {v : Verdict} {s : Stream} (hk : c.heats[k]? = some h) (hs : h.stage = .decided v (some s)) (line : Nat) :
    ∃ h', (c.act (.pull k now)).heats[k]? = some h' ∧
      Traffic.openOn line h'.log = if (s.next now).1.isSome then Traffic.openOn line h.log else 0 := by
  have hlt : k < c.heats.length := (List.getElem?_eq_some_iff.1 hk).1
  have hk' : (c.act (.pull k now)).heats[k]? = some ⟨(h.stage.pull now).1, h.log ++ (h.stage.pull now).2⟩ := by
    simp only [Coordinator.act, Coordinator.update, hk, List.getElem?_set_self hlt]
  refine ⟨_, hk', ?_⟩
  have hopen := (hc.openOn_decided (List.mem_of_getElem? hk) hs).2 line
  have hnext := (hc.act (.pull k now)).each _ (List.mem_of_getElem? hk') line
  rw [openOn_of_each hnext, hopen, hs]
  rcases Stream.next_cases s now with ⟨d, rest, e⟩ | ⟨s', log, e, -, -⟩
  · simp [Heat.Stage.pull, e, Heat.Stage.connections]
  · simp [Heat.Stage.pull, e, Heat.Stage.connections]

/-- The counter of a line, after any events: what it says of all races together, and of each of them. -/
structure Accounts (line : Nat) (c : Coordinator) : Prop where
  /-- No connection has ended that had not been made, at any time. -/
  sound : Traffic.IsSound line c.log
  /-- The open connections are those of the calls in progress in races that have not been decided and those of
  the winners' streams that are held and have not returned their end. -/
  total : Traffic.openOn line c.log = (c.heats.map (·.stage.connections line)).sum
  /-- Each race has its own of them open. -/
  each : ∀ h ∈ c.heats, Traffic.openOn line h.log = h.stage.connections line
  /-- A race that nobody has won has none open. -/
  lost : ∀ h ∈ c.heats, ∀ v stream e, h.stage = .decided v stream → v.result = .error e →
    Traffic.openOn line h.log = 0
  /-- A race that a whole reply has won has none open. -/
  buffered : ∀ h ∈ c.heats, ∀ v stream w reply, h.stage = .decided v stream → v.result = .ok w →
    w.unit = .buffered reply → Traffic.openOn line h.log = 0
  /-- A race that a stream has won has the winner's open, and no other, as long as the stream is held. -/
  streamed : ∀ h ∈ c.heats, ∀ v stream w first rest, h.stage = .decided v stream → v.result = .ok w →
    w.unit = .streamed first rest →
    Traffic.openOn line h.log = if stream.isSome ∧ w.line = line then 1 else 0
  /-- A stream is pulled: if there is an item, and be it the last one, its connection stays open, and if there is
  none, it ends. -/
  pulled : ∀ k now h v s, c.heats[k]? = some h → h.stage = .decided v (some s) →
    ∃ h', (c.act (.pull k now)).heats[k]? = some h' ∧
      Traffic.openOn line h'.log = if (s.next now).1.isSome then Traffic.openOn line h.log else 0

end Coordinator

end ChatRace
