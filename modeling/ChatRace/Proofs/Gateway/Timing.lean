import ChatRace.Proofs.Gateway.Ending
import ChatRace.Proofs.Gateway.Handover
import ChatRace.Proofs.Gateway.Laziness
import ChatRace.Proofs.Race.Forecast
import ChatRace.Proofs.Relay.Clock
import ChatRace.Proofs.Relay.Lines

/-!
# When a streamed answer comes

A race is won at the time at which the winner's stream has come to the first item that decides (`firstOfUse_eq_value`).
From then on the limit of the race plays no part: each event of the answer comes at this time and the delays of the
items that have been pulled for it (`Relay.timetable`), whether there is an event for them or not.  A client who takes
all frames gets the events at these times and comments in between, and nothing else (`Server.serve_timetable`).
-/

namespace ChatRace

open Chat

/-! ### The first unit -/

/-- A stream that comes to a unit comes to its first item that decides, with the items behind it. -/
theorem firstOfUse_eq_value {name : String} {items : List Item} {u : FirstUnit}
    (h : (firstOfUse name items).outcome = .value u) :
    ∃ skipped i first rest, items = skipped ++ i :: rest ∧ (∀ j ∈ skipped, j.isDecisive = false) ∧
      i.isDecisive = true ∧ i.outcome = .value first ∧ u = .streamed first rest ∧
      (firstOfUse name items).latency = delays (skipped ++ [i]) := by
  induction items with
  | nil => cases h
  | cons i items ih =>
    cases ho : i.outcome with
    | failure e | crash =>
      simp only [firstOfUse, ho] at h
      cases h
    | value c =>
      by_cases hc : c.isUsable = true
      · simp only [firstOfUse, ho, hc, if_true, Outcome.value.injEq] at h ⊢
        have hi : i.isDecisive = true := by rw [Item.isDecisive_of_value ho, hc]
        exact ⟨[], i, c, items, rfl, List.forall_mem_nil _, hi, ho, h.symm, by simp [delays]⟩
      · have hi : i.isDecisive = false := by
          rw [Item.isDecisive_of_value ho]
          simpa using hc
        simp only [firstOfUse, ho, hc] at h ⊢
        obtain ⟨skipped, i', first, rest, rfl, hskipped, hi', ho', hu, hlatency⟩ := ih h
        refine ⟨i :: skipped, i', first, rest, rfl, List.forall_mem_cons.2 ⟨hi, hskipped⟩, hi', ho', hu, ?_⟩
        rw [List.cons_append, delays_cons, ← hlatency]
        rfl

namespace Relay

/-! ### Times of events -/

/-- When the event is there, if the answer begins at `w`: when all items have come that are pulled for it. -/
def Origin.time (w : Nat) (later : List (Nat × Except BackendError Chunk)) (o : Origin) : Nat :=
  w + ((later.take o.pulled).map (·.1)).sum

/-- The events of an answer that begins at `w`, with their times. -/
def timetable (s : Stamp) (w : Nat) (first : Chunk) (later : List (Nat × Except BackendError Chunk)) :
    List (Nat × String) :=
  (origins (.ok first :: later.map (·.2))).map fun o => (o.time w later, frame (o.event.data s))

variable (s : Stamp) (w : Nat)

/-- The events for the text of a chunk that comes at `now`. -/
private def textsAt (now : Nat) (c : Chunk) : List (Nat × String) :=
  (text? (.ok c)).toList.map fun t => (now, frame (Event.data s (.text t)))

private theorem eventsAt_text (now : Nat) (c : Chunk) (acts : List Act) :
    eventsAt now (textActs s c ++ acts) = textsAt s now c ++ eventsAt now acts := by
  cases ht : c.text? with
  | none => simp [textActs, textsAt, text?, ht]
  | some t =>
    simp only [textActs, textsAt, text?, ht]
    rfl

private theorem eventsAt_textActs (now : Nat) (c : Chunk) : eventsAt now (textActs s c) = textsAt s now c := by
  have htext := eventsAt_text s now c []
  rw [List.append_nil] at htext
  exact htext.trans (List.append_nil _)

private theorem eventsAt_of_done (now : Nat) (c : Chunk) :
    eventsAt now (textActs s c ++ doneActs s c) = textsAt s now c ++
      [(now, frame ((closing (some (.ok c))).data s)), (now, frame (Event.done.data s))] :=
  eventsAt_text s now c (doneActs s c)

variable (pre later : List (Nat × Except BackendError Chunk))

/-- What is told of the item behind `pre` comes after the delays of `pre` and its own. -/
private theorem time_next (delay : Nat) (x : Except BackendError Chunk) (event : Event) (released : Bool) :
    (Origin.mk event (pre.length + 1) released).time w (pre ++ (delay, x) :: later) =
      w + (pre.map (·.1)).sum + delay := by
  rw [Origin.time, List.take_length_add_append]
  simp [Nat.add_assoc]

private theorem timed_itemBeats : timed (w + (pre.map (·.1)).sum) (itemBeats s (arrivals later)) =
    (tailOrigins (pre.length + 1) (later.map (·.2))).map fun o =>
      (o.time w (pre ++ later), frame (o.event.data s)) := by
  induction later using arrivals_induction generalizing pre with
  | nil =>
    have hnow (event : Event) : (Origin.mk event pre.length true).time w (pre ++ []) = w + (pre.map (·.1)).sum := by
      simp [Origin.time]
    have hend : tailOrigins (pre.length + 1) [] =
      [⟨closing none, pre.length, true⟩, ⟨.done, pre.length, true⟩] := rfl
    rw [List.map_nil, hend, List.map_cons, List.map_singleton, hnow, hnow]
    rfl
  | error delay e later =>
    rw [List.map_cons, tailOrigins_of_last _ _ rfl]
    simp only [List.map_append, List.map_cons, List.map_nil, time_next]
    rfl
  | last delay c later hd =>
    have hlast : isLast (.ok c) = true := hd
    rw [List.map_cons, itemBeats_of_done s hd, tailOrigins_of_last _ _ hlast]
    simp only [List.map_append, List.map_map, Function.comp_def, List.map_cons, List.map_nil, time_next]
    exact (List.append_nil _).trans (eventsAt_of_done s _ c)
  | more delay c later hd ih =>
    have hlast : isLast (.ok c) = false := hd
    -- for what comes behind it, the item belongs to `pre`
    have hrest := ih (pre ++ [(delay, .ok c)])
    rw [List.append_assoc, List.singleton_append, List.length_append, List.length_singleton, List.map_append,
      List.map_singleton, List.sum_append, List.sum_singleton, ← Nat.add_assoc] at hrest
    rw [List.map_cons, itemBeats_of_not_done s hd, tailOrigins_of_not_last _ _ hlast, List.map_append, ← hrest]
    simp only [List.map_map, Function.comp_def, time_next]
    exact congrArg (· ++ _) (eventsAt_textActs s _ c)

/-- The beats of an answer keep its timetable. -/
theorem timed_beats (first : Chunk) :
    timed w (beats s first (arrivals later)) = timetable s w first later := by
  have htime (event : Event) (released : Bool) : (Origin.mk event 0 released).time w later = w := rfl
  have hrole (os : List Origin) : (⟨.role, 0, false⟩ :: os).map (fun o => (o.time w later, frame (o.event.data s))) =
      (w, frame s.role.render) :: os.map fun o => (o.time w later, frame (o.event.data s)) := rfl
  rw [timetable, origins, hrole]
  cases hd : first.done with
  | true =>
    have hlast : isLast (.ok first) = true := hd
    rw [beats_of_done s hd, tailOrigins_of_last _ _ hlast]
    simp only [List.map_append, List.map_map, Function.comp_def, List.map_cons, List.map_nil, htime]
    exact congrArg (_ :: ·) ((List.append_nil _).trans (eventsAt_of_done s w first))
  | false =>
    have hlast : isLast (.ok first) = false := hd
    have hrest := timed_itemBeats s w [] later
    rw [List.map_nil, List.sum_nil, Nat.add_zero, List.length_nil, Nat.zero_add, List.nil_append] at hrest
    rw [beats_of_not_done s hd, tailOrigins_of_not_last _ _ hlast, List.map_append, Nat.zero_add, ← hrest]
    simp only [List.map_map, Function.comp_def, htime]
    exact congrArg (fun es => _ :: (es ++ _)) (eventsAt_textActs s w first)

end Relay

/-! ### Answers -/

/-- The times of frames are told since the sending, which is before all of them. -/
private theorem map_frames_streamed (headers : Http.Headers) (t : Transmission) (complete : Bool)
    {headAfter endAfter sent : Nat} (h : ∀ f ∈ t.frames.reverse, sent ≤ f.1) :
    (Answer.streamed headers t complete headAfter endAfter sent).frames.map (fun f => (sent + f.1, f.2)) =
      t.frames.reverse := by
  have hback (f : Nat × String) (hf : f ∈ t.frames.reverse) : (sent + (f.1 - sent), f.2) = f := by
    rw [Nat.add_sub_cancel' (h f hf)]
  rw [Answer.streamed, List.map_map]
  exact (List.map_congr_left hback).trans (List.map_id' _)

/-- A race that streams and is won by a backend whose items are chunks and errors is won at the time at which the
first item of them comes that decides.  Then the client gets the head, and it gets the events at the times that the
timetable has for them, with comments in between, whatever the limit of the race is. -/
theorem Server.serve_timetable {srv : Server} {clients : List Client} {k : Nat} {c : Client} {q : ClientRequest}
    {request : RaceRequest} {w : Nat} {v : Victory} {b : Backend} {items : List Item} (hc : clients[k]? = some c)
    (hasks : c.Asks q request) (hstream : request.stream = true)
    (hwon : (Race.decide srv.app.registry srv.app.limit c.sent request).1 = ⟨w, .ok v⟩)
    (hb : srv.app.registry.get? v.winner = some b)
    (hitems : (b.streamed (request.forBackend b.name)).outcome = .value items)
    (hclean : ∀ i ∈ items, i.outcome ≠ .crash) (hroom : c.room = none) (hstays : c.leavesBy w = false) :
    ∃ skipped i first later, items = skipped ++ i :: Relay.arrivals later ∧
      (∀ j ∈ skipped, j.isDecisive = false) ∧ i.isDecisive = true ∧ i.outcome = .value first ∧
      w = c.sent + (b.streamed (request.forBackend b.name)).latency + delays (skipped ++ [i]) ∧
      ∃ a, (srv.serve clients).1[k]? = some (.answered a) ∧ a.status = 200 ∧ a.complete = true ∧
        c.sent + a.headAfter = w ∧
        a.frames.map (fun f => (c.sent + f.1, f.2)) =
          Transmission.commented w (Relay.timetable (c.identity.stamp v.winner) w first later) := by
  obtain ⟨b', hb', hw, hunit⟩ := Race.firstUnit_of_won hwon
  obtain rfl : b' = b := Option.some.inj (hb'.symm.trans hb)
  have hmode : (request.forBackend b'.name).stream = true := hstream
  simp only [Backend.firstUnit, hmode, hitems, if_true] at hw hunit
  obtain ⟨skipped, i, first, rest, rfl, hskipped, hi, ho, hv, hlatency⟩ := firstOfUse_eq_value hunit
  have hrest : ∀ j ∈ rest, j.outcome ≠ .crash := fun j hj => hclean j (by simp [hj])
  obtain ⟨later, rfl⟩ := Relay.exists_arrivals hrest
  rw [hlatency, ← Nat.add_assoc] at hw
  refine ⟨skipped, i, first, later, rfl, hskipped, hi, ho, hw, ?_⟩
  have hsent : c.sent ≤ w := by omega
  -- what the client gets is the transmission of the unit, which begins at `w`
  have houtcome : (srv.serve clients).1[k]? = some (c.outcome srv.app) := serve_outcome hc hasks.endpoint
  obtain ⟨init, hlast⟩ := Relay.final_beats (c.identity.stamp v.winner) first later
  obtain ⟨hcomplete, hframes⟩ := Transmission.frames_run_start v.line w hlast
  rw [Relay.timed_beats] at hframes
  rw [hasks.outcome_eq, hwon] at houtcome
  simp only [Client.conclusion, Client.ending, hstays, hv, WinnerResponse.ofUnit, hroom] at houtcome
  refine ⟨_, houtcome, rfl, hcomplete, ?_, ?_⟩
  · show c.sent + (w - c.sent) = w
    omega
  · -- times since the sending lose nothing, as no frame is taken before it
    have hafter : ∀ e ∈ Relay.timetable (c.identity.stamp v.winner) w first later, c.sent ≤ e.1 := by
      intro e he
      obtain ⟨o, -, rfl⟩ := List.mem_map.1 he
      exact Nat.le_trans hsent (Nat.le_add_right ..)
    have htaken := Transmission.le_of_mem_commented hsent hafter
    rw [← hframes] at htaken ⊢
    exact map_frames_streamed _ _ _ htaken

/-- Behind the first word there are an empty chunk, a word, and an end that comes exactly two intervals later. -/
private def slowTalk : List (Nat × Except BackendError Chunk) := [
  (12000, .ok (.content "")), (13000, .ok (.content "there")), (20000, .ok (.terminal "stop" none))]

private def slowTalker : Backend := .scripted "fast" 1 20 .crash (.value (
  [⟨4, .value (.content "")⟩, ⟨6, .value (.content "hi")⟩] ++ Relay.arrivals slowTalk))

private def talkers : Server := .fresh {
  registry := .ofList [.scripted "slow" 0 80 .crash (.value []), slowTalker]
  limit := 100 }

private def toTalkers : ClientRequest := ⟨"slow,fast", [⟨.user, "hi"⟩], .free, true, true, none⟩

private def listener : Client where
  request := toTalkers.post
  identity := ⟨"req_1", "chatcmpl-1", 7⟩
  sent := 5
  patience := some 60
  room := none

private def amongTalkers : RaceRequest := ⟨"req_1", ["slow", "fast"], [⟨.user, "hi"⟩], .free, true⟩

private theorem asks_listener : listener.Asks toTalkers amongTalkers :=
  Client.asks_post rfl rfl rfl (by decide +kernel) rfl

/-- The empty chunk does not put the comments off, and none comes at the instant of the end. -/
theorem Server.serve_timetable_slowTalk : ∃ a, (talkers.serve [listener]).1[0]? = some (.answered a) ∧
    5 + a.headAfter = 35 ∧
    a.frames.map (5 + ·.1) = [35, 35, 10035, 20035, 25035, 35035, 45035, 45035] := by
  have hc : [listener][0]? = some listener := rfl
  have hwon : (Race.decide talkers.app.registry talkers.app.limit listener.sent amongTalkers).1 =
      ⟨35, .ok ⟨"req_1", "fast", 1, true, 30, [⟨"slow", .cancelled⟩, ⟨"fast", .won⟩],
        .streamed (.content "hi") (Relay.arrivals slowTalk)⟩⟩ := rfl
  have hb : talkers.app.registry.get? "fast" = some slowTalker := rfl
  obtain ⟨skipped, i, first, later, hsplit, hskipped, hi, ho, -, a, ha, -, -, hhead, hframes⟩ :=
    serve_timetable hc asks_listener rfl hwon hb rfl (by decide) rfl (by decide)
  have hword : [⟨4, .value (.content "")⟩] ++ ⟨6, .value (.content "hi")⟩ :: Relay.arrivals slowTalk =
      skipped ++ i :: Relay.arrivals later := hsplit
  obtain ⟨-, rfl, hlater⟩ := Item.split_unique hword (by decide) rfl hskipped hi
  obtain rfl : slowTalk = later := Relay.arrivals_inj.1 hlater
  obtain rfl : .content "hi" = first := Outcome.value.inj ho
  have htimes := congrArg (List.map Prod.fst) hframes
  rw [List.map_map] at htimes
  exact ⟨a, ha, hhead, htimes.trans rfl⟩

end ChatRace
