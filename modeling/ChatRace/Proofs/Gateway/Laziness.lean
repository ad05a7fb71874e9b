import ChatRace.Gateway.Answer
import ChatRace.Proofs.Race.Connections
import ChatRace.Proofs.Race.Result
import ChatRace.Proofs.Relay.Receipts

/-!
# A streamed answer is lazy

Each event of an answer has an origin: the item that it tells of, or the end of the stream (`Relay.origins`).  A client
who takes some frames and leaves gets each event when its item has come and no other item has, and then nothing more
comes; the connection has ended when the mark is written or when the client leaves, whichever is first, and so no
connection of the race stays open (`WinnerResponse.isLazy_ofUnit`).
-/

namespace ChatRace

open Chat

namespace Relay

/-! ### Origins -/

/-- An event of an answer: how many items behind the first chunk have come when it is told, and whether the connection
has ended. -/
structure Origin where
  event : Event
  pulled : Nat
  released : Bool

def Origin.receipt (s : Stamp) (o : Origin) : Receipt := ⟨frame (o.event.data s), o.pulled, o.released⟩

/-- The texts, the end and the mark; the first of `xs` is the item with the number `k`.  The connection ends between
the end and the mark, or before both if the stream is at its end. -/
def tailOrigins (k : Nat) (xs : List (Except BackendError Chunk)) : List Origin :=
  let last := k + (relayed xs).length - 1
  ((relayed xs).zipIdx k).filterMap (fun (x, k) => (text? x).map fun t => ⟨.text t, k, false⟩) ++
    [⟨closing (xs.find? isLast), last, (xs.find? isLast).isNone⟩, ⟨.done, last, true⟩]

/-- The events of an answer with their origins; the first chunk has the number 0, as it has come before. -/
def origins (xs : List (Except BackendError Chunk)) : List Origin := ⟨.role, 0, false⟩ :: tailOrigins 0 xs

/-- The events are those of the script. -/
theorem map_event_origins (xs : List (Except BackendError Chunk)) : (origins xs).map (·.event) = script xs := by
  have htexts (k : Nat) (ys : List (Except BackendError Chunk)) :
      ((ys.zipIdx k).filterMap fun (x, k) => (text? x).map fun t => (⟨.text t, k, false⟩ : Origin)).map (·.event) =
        (ys.filterMap text?).map .text := by
    induction ys generalizing k with
    | nil => rfl
    | cons y ys ih =>
      rw [List.zipIdx_cons, List.filterMap_cons, List.filterMap_cons]
      cases ht : text? y with
      | none => simpa [ht] using ih (k + 1)
      | some t => simpa [ht] using ih (k + 1)
  rw [origins, tailOrigins, script, scriptTail, List.map_cons, List.map_append, htexts]
  rfl

variable {x : Except BackendError Chunk} (k : Nat) (xs : List (Except BackendError Chunk))

theorem tailOrigins_of_last (h : isLast x = true) :
    tailOrigins k (x :: xs) = (text? x).toList.map (⟨.text ·, k, false⟩) ++
      [⟨closing (some x), k, false⟩, ⟨.done, k, true⟩] := by
  have hrelayed : relayed (x :: xs) = [x] := by simp [relayed, h]
  have hfind : (x :: xs).find? isLast = some x := List.find?_cons_of_pos h
  rw [tailOrigins, hrelayed, hfind]
  cases ht : text? x <;> simp [ht]

theorem tailOrigins_of_not_last (h : isLast x = false) :
    tailOrigins k (x :: xs) = (text? x).toList.map (⟨.text ·, k, false⟩) ++ tailOrigins (k + 1) xs := by
  have hrelayed : relayed (x :: xs) = x :: relayed xs := by simp [relayed, h]
  have hfind : (x :: xs).find? isLast = xs.find? isLast := List.find?_cons_of_neg (by simp [h])
  have hlast : k + (x :: relayed xs).length - 1 = k + 1 + (relayed xs).length - 1 := by
    rw [List.length_cons]
    omega
  rw [tailOrigins, hrelayed, hfind, hlast, tailOrigins]
  cases ht : text? x <;> simp [ht]

variable (s : Stamp)

private theorem ofActs_text (pulled : Nat) (c : Chunk) (acts : List Act) :
    Receipt.ofActs pulled false (textActs s c ++ acts) =
      ((text? (.ok c)).toList.map (⟨.text ·, pulled, false⟩)).map (Origin.receipt s) ++
        Receipt.ofActs pulled false acts := by
  cases ht : c.text? with
  | none => simp [textActs, text?, ht]
  | some t =>
    simp only [textActs, text?, ht]
    rfl

/-- What is done for some items is what their origins say. -/
private theorem ofActs_itemBeats (pulled : Nat) (later : List (Nat × Except BackendError Chunk)) :
    Receipt.ofActs pulled false ((itemBeats s (arrivals later)).flatMap (·.acts)) =
      (tailOrigins (pulled + 1) (later.map (·.2))).map (Origin.receipt s) := by
  induction later using arrivals_induction generalizing pulled with
  | nil => rfl
  | error delay e later =>
    rw [List.map_cons, tailOrigins_of_last _ _ rfl]
    rfl
  | last delay c later hd =>
    have hlast : isLast (.ok c) = true := hd
    rw [List.map_cons, itemBeats_of_done s hd, List.flatMap_singleton, Receipt.ofActs, ofActs_text,
      tailOrigins_of_last _ _ hlast, List.map_append]
    rfl
  | more delay c later hd ih =>
    have hlast : isLast (.ok c) = false := hd
    rw [List.map_cons, itemBeats_of_not_done s hd, List.flatMap_cons, List.cons_append, Receipt.ofActs, ofActs_text,
      ih, tailOrigins_of_not_last _ _ hlast, List.map_append]

theorem ofActs_beats (first : Chunk) (later : List (Nat × Except BackendError Chunk)) :
    Receipt.ofActs 0 false ((beats s first (arrivals later)).flatMap (·.acts)) =
      (origins (.ok first :: later.map (·.2))).map (Origin.receipt s) := by
  rw [origins, List.map_cons]
  cases hd : first.done with
  | true =>
    have hlast : isLast (.ok first) = true := hd
    rw [beats_of_done s hd, List.flatMap_singleton, Receipt.ofActs, ofActs_text, tailOrigins_of_last _ _ hlast,
      List.map_append]
    rfl
  | false =>
    have hlast : isLast (.ok first) = false := hd
    rw [beats_of_not_done s hd, List.flatMap_cons, List.cons_append, Receipt.ofActs, ofActs_text, ofActs_itemBeats,
      tailOrigins_of_not_last _ _ hlast, List.map_append]
    rfl

/-! ### Pulls -/

private theorem count_textActs (c : Chunk) : (textActs s c).count .pulled = 0 := by
  unfold textActs
  split <;> rfl

private theorem count_itemBeats (later : List (Nat × Except BackendError Chunk)) :
    ((itemBeats s (arrivals later)).flatMap (·.acts)).count .pulled = (relayed (later.map (·.2))).length := by
  induction later using arrivals_induction with
  | nil => rfl
  | error delay e later => rfl
  | last delay c later hd =>
    have hlast : isLast (.ok c) = true := hd
    have hdone : (doneActs s c).count .pulled = 0 := rfl
    rw [itemBeats_of_done s hd]
    simp [relayed, hlast, count_textActs, hdone]
  | more delay c later hd ih =>
    have hlast : isLast (.ok c) = false := hd
    have hrelayed : relayed (((delay, .ok c) :: later).map (·.2)) = .ok c :: relayed (later.map (·.2)) := by
      simp [relayed, hlast]
    rw [itemBeats_of_not_done s hd, List.flatMap_cons, List.cons_append, hrelayed, List.count_cons_self,
      List.count_append, count_textActs, ih, List.length_cons, Nat.zero_add]

/-- All items are pulled up to the one that ends the answer, and not the first chunk. -/
theorem count_beats (first : Chunk) (later : List (Nat × Except BackendError Chunk)) :
    ((beats s first (arrivals later)).flatMap (·.acts)).count .pulled =
      (relayed (.ok first :: later.map (·.2))).length - 1 := by
  have htext := count_textActs s first
  have hlast : isLast (.ok first) = first.done := rfl
  cases hd : first.done with
  | true =>
    have hdone : (doneActs s first).count .pulled = 0 := rfl
    rw [beats_of_done s hd]
    simp [relayed, hlast, hd, htext, hdone]
  | false =>
    have hrest := count_itemBeats s later
    have hrelayed : relayed (.ok first :: later.map (·.2)) = .ok first :: relayed (later.map (·.2)) := by
      simp [relayed, hlast, hd]
    rw [hrelayed, List.length_cons, Nat.add_sub_cancel, ← hrest, beats_of_not_done s hd]
    simp [htext]

/-! ### Beats -/

/-- Each beat comes with an item, but for the end of the stream, which comes at once. -/
theorem paced_itemBeats (items : List Item) :
    ∀ b ∈ itemBeats s items, b.delay = 0 ∨ ∃ acts, b.acts = .pulled :: acts := by
  induction items with
  | nil =>
    intro b hb
    rw [List.mem_singleton.1 hb]
    exact .inl rfl
  | cons i items ih =>
    cases ho : i.outcome with
    | value c =>
      cases hd : c.done with
      | true => simp [itemBeats, ho, hd]
      | false =>
        simp only [itemBeats, ho, hd, Bool.false_eq_true, if_false]
        exact List.forall_mem_cons.2 ⟨.inr ⟨_, rfl⟩, ih⟩
    | failure e => simp [itemBeats, ho]
    | crash => simp [itemBeats, ho]

/-- The last thing that is done is to write the mark. -/
theorem final_beats (first : Chunk) (later : List (Nat × Except BackendError Chunk)) :
    ∃ init, (beats s first (arrivals later)).getLast?.elim [] (·.acts) = init ++ [.write doneMark] := by
  have hitems : itemBeats s (arrivals later) ≠ [] ∧
      ∃ init, (itemBeats s (arrivals later)).getLast?.elim [] (·.acts) = init ++ [.write doneMark] := by
    induction later using arrivals_induction with
    | nil => exact ⟨List.cons_ne_nil _ _, [.release, .write (s.finish "stop" none).render], rfl⟩
    | error delay e later =>
      exact ⟨List.cons_ne_nil _ _, [.pulled, .write (errorDocument e.message "backend_error").render, .release], rfl⟩
    | last delay c later hd =>
      rw [itemBeats_of_done s hd]
      exact ⟨List.cons_ne_nil _ _, .pulled :: (textActs s c ++ (doneActs s c).dropLast), by simp [doneActs]⟩
    | more delay c later hd ih =>
      rw [itemBeats_of_not_done s hd, List.getLast?_cons_of_ne_nil ih.1]
      exact ⟨List.cons_ne_nil _ _, ih.2⟩
  cases hd : first.done with
  | true =>
    rw [beats_of_done s hd]
    exact ⟨.write s.role.render :: (textActs s first ++ (doneActs s first).dropLast), by simp [doneActs]⟩
  | false =>
    rw [beats_of_not_done s hd, List.getLast?_cons_of_ne_nil hitems.1]
    exact hitems.2

end Relay

/-! ### Transmissions -/

theorem Receipt.length_ofMoments (line pulled : Nat) (released : Bool) (ms : List Moment) :
    (ofMoments line pulled released ms).length = (Moment.frames ms).length := by
  induction ms generalizing pulled released with
  | nil => rfl
  | cons m ms ih =>
    cases m with
    | took time text => exact congrArg (· + 1) (ih ..)
    | line t => exact ih ..

namespace Transmission

/-- The frames that a client takes, with what has happened by then. -/
def receipts (t : Transmission) : List Receipt := Receipt.ofMoments t.line 0 false t.record

/-- What a client is told of an answer to what has come, and what happens on the line.  The first of `come` has come
before. -/
structure IsLazy (t : Transmission) (s : Stamp) (come : List (Except BackendError Chunk)) : Prop where
  /-- The record is that of the run. -/
  frames : Moment.frames t.record = t.run.1.1.frames.reverse
  traffic : Moment.traffic t.record = t.run.2
  /-- A client who takes `n` frames leaves with the last of them, unless it has been told that it has everything. -/
  length : ∀ n, t.room = some n → t.receipts.length ≤ n ∧ (t.run.1.2.1 = false → t.receipts.length = n)
  whole : t.room = none → t.run.1.2.1 = true
  /-- Whenever an event is taken, the item that it tells of is the last that has come, and the connection has ended if
  it is the mark.  Whenever a comment is taken, no item has come that a later event tells of. -/
  follow : ∃ rest, Receipt.Follow ((Relay.origins come).map (Relay.Origin.receipt s)) t.receipts rest ∧
    (t.run.1.2.1 = true → rest = [])
  /-- No item comes behind the last frame. -/
  dropped : Traffic.pulls t.line t.run.2 = t.receipts.getLast?.elim 0 (·.pulled)
  /-- No item comes behind the one that ends the answer. -/
  within : Traffic.pulls t.line t.run.2 ≤ (Relay.relayed come).length - 1
  ended : t.run.1.2.1 = true → Traffic.pulls t.line t.run.2 = (Relay.relayed come).length - 1
  /-- The connection ends once, whenever the client leaves, and no other is made. -/
  released : ∀ line, Traffic.calls line t.run.2 = [] ∧ Traffic.releases line t.run.2 = if t.line = line then 1 else 0

variable (line now : Nat) (room : Option Nat) (s : Stamp) (first : Chunk)
  (later : List (Nat × Except BackendError Chunk))

private theorem isPaced_start :
    (start line now room (Relay.beats s first (Relay.arrivals later))).IsPaced := by
  unfold Relay.beats
  split
  · exact ⟨.inl (Nat.le_add_right _ _), fun b hb => nomatch hb⟩
  · exact ⟨.inl (Nat.le_add_right _ _), Relay.paced_itemBeats s _⟩

theorem isLazy_start :
    (start line now room (Relay.beats s first (Relay.arrivals later))).IsLazy s (.ok first :: later.map (·.2)) := by
  have hpaced := isPaced_start line now room s first later
  obtain ⟨hline, hroom, hopen, hframes, hbeats, -⟩ :=
    start_eq line now room (Relay.beats s first (Relay.arrivals later))
  generalize start line now room (Relay.beats s first (Relay.arrivals later)) = t at *
  have hcourse := t.course
  have htraffic := t.traffic_run
  have hcount : t.acts.count .pulled = (Relay.relayed (.ok first :: later.map (·.2))).length - 1 := by
    rw [acts, hbeats, Relay.count_beats]
  obtain ⟨hle, heq⟩ := hcourse.pulls
  rw [← htraffic, hcount] at hle heq
  refine ⟨?_, htraffic.symm, ?_, hcourse.complete_of_room, ?_, ?_, hle, heq, ?_⟩
  · rw [t.frames_run, hframes]
    rfl
  · intro n hn
    rw [receipts, Receipt.length_ofMoments]
    exact hcourse.length_frames hn
  · have hfollow := hcourse.follow hpaced 0
    rw [acts, hbeats, hopen, Bool.not_true, Relay.ofActs_beats] at hfollow
    exact hfollow
  · by_cases hfull : t.isFull = true
    · obtain ⟨hpulls, hreceipts⟩ := hcourse.pulls_of_isFull hfull t.line
      rw [htraffic, hpulls, receipts, hreceipts]
      rfl
    · obtain ⟨init, hinit⟩ := Relay.final_beats s first later
      have hfinal : ∃ init data, t.final = init ++ [.write data] := ⟨init, _, by rw [final, hbeats, hinit]⟩
      rw [htraffic]
      exact (hcourse.halts (by simpa using hfull) hfinal).pulls_eq t.line
  · intro l
    obtain ⟨hcalls, hreleases⟩ := hcourse.traffic l
    rw [htraffic, hcalls, hreleases, hopen, Bool.true_and]
    simp only [beq_iff_eq, true_and]

end Transmission

/-! ### Races -/

/-- When a race has been decided, the stream of the winner is all that is open. -/
theorem Race.balance_decide (registry : Registry) (limit now : Nat) (request : RaceRequest) (line : Nat) :
    Traffic.balance line (decide registry limit now request).2 =
      (decide registry limit now request).1.stream?.elim 0 (·.connections line) := by
  unfold decide
  cases he : enter registry limit now request with
  | error e => rfl
  | ok r =>
    obtain ⟨bs, hne, -, rfl⟩ := of_enter_eq_ok he
    obtain ⟨hlaunch, -⟩ := balance_launch bs limit now request line
    have hlaunched := (isUnderWay_launched hne limit now request).balance_run line
    simp only [Traffic.balance_append, hlaunch]
    rw [Int.add_comm]
    exact hlaunched

/-- Whatever comes behind the first chunk, and however many frames the client takes, the answer is lazy; and when it is
over, no connection is open of the race that has been won with the stream. -/
theorem WinnerResponse.isLazy_ofUnit (i : Identity) (winner : String) (line now : Nat) (room : Option Nat)
    (first : Chunk) (later : List (Nat × Except BackendError Chunk)) :
    let come := .ok first :: later.map (·.2)
    (Relay.origins come).map (·.event) = Relay.script come ∧
    ∃ t, ofUnit i winner line now room (.streamed first (Relay.arrivals later)) =
        .streamed (streamHeaders winner) t ∧
      t.line = line ∧ t.room = room ∧ t.IsLazy (i.stamp winner) come ∧
      ∀ registry limit start request w, (Race.decide registry limit start request).1.result = .ok w →
        w.line = line → w.unit = .streamed first (Relay.arrivals later) →
        ∀ l, Traffic.openOn l ((Race.decide registry limit start request).2 ++ t.run.2) = 0 := by
  intro come
  obtain ⟨hline, hroom, -⟩ :=
    Transmission.start_eq line now room (Relay.beats (i.stamp winner) first (Relay.arrivals later))
  have hlazy := Transmission.isLazy_start line now room (i.stamp winner) first later
  refine ⟨Relay.map_event_origins come, _, rfl, hline, hroom, hlazy, ?_⟩
  intro registry limit start request w hw hwline hunit l
  have hbalance := Race.balance_decide registry limit start request l
  have hstream : (Race.decide registry limit start request).1.stream? = some (.held line (Relay.arrivals later)) := by
    simp only [Verdict.stream?, hw, hunit, hwline]
  obtain ⟨hcalls, hreleases⟩ := hlazy.released l
  rw [hline] at hreleases
  rw [hstream] at hbalance
  simp only [Option.elim_some, Stream.connections, Stream.held, Traffic.balance, Bool.true_and, beq_iff_eq]
    at hbalance
  rw [Traffic.openOn, Traffic.calls_append, Traffic.releases_append, hcalls, hreleases, List.append_nil]
  by_cases hl : line = l
  · rw [if_pos hl] at hbalance ⊢
    omega
  · rw [if_neg hl] at hbalance ⊢
    omega

/-- Behind the first word there is an empty chunk, and then a pause that is longer than a client is kept waiting. -/
private def pause : List (Nat × Except BackendError Chunk) := [
  (5, .ok (.content "")), (12000, .ok (.content "there")), (1, .ok (.terminal "stop" none)),
  (1, .error (.timeout "late"))]

private def hesitant : Registry := .ofList [
  .scripted "slow" 0 80 .crash (.value [⟨0, .value (.content "late")⟩]),
  .scripted "fast" 1 30 .crash (.value (⟨0, .value (.content "hi")⟩ :: Relay.arrivals pause))]

private def toHesitant : RaceRequest := ⟨"req", ["slow", "fast"], [], .free, true⟩

/-- The client leaves with the fourth frame, which is the second word; the third has been a comment. -/
theorem WinnerResponse.isLazy_ofUnit_leaver :
    ∃ t, ofUnit ⟨"req", "id", 0⟩ "fast" 1 30 (some 4) (.streamed (.content "hi") (Relay.arrivals pause)) =
        .streamed (streamHeaders "fast") t ∧
      t.receipts.map (fun r => (r.pulled, r.released)) = [(0, false), (0, false), (1, false), (2, false)] ∧
      Traffic.pulls 1 t.run.2 = 2 ∧
      ∀ l, Traffic.openOn l ((Race.decide hesitant 100 0 toHesitant).2 ++ t.run.2) = 0 := by
  obtain ⟨-, t, ht, hline, -, hlazy, hrace⟩ :=
    isLazy_ofUnit ⟨"req", "id", 0⟩ "fast" 1 30 (some 4) (.content "hi") pause
  have hreceipts : t.receipts.map (fun r => (r.pulled, r.released)) =
      [(0, false), (0, false), (1, false), (2, false)] := by
    injection ht with _ ht
    rw [← ht]
    rfl
  have hpulls : t.receipts.getLast?.elim 0 (·.pulled) = 2 := by
    have hlast := congrArg (fun rs => rs.getLast?.elim 0 (·.1)) hreceipts
    rw [List.getLast?_map, Option.elim_map] at hlast
    exact hlast
  refine ⟨t, ht, hreceipts, ?_, ?_⟩
  · rw [← hline, hlazy.dropped, hpulls]
  · exact hrace hesitant 100 0 toHesitant
      ⟨"req", "fast", 1, true, 30, [⟨"slow", .cancelled⟩, ⟨"fast", .won⟩],
        .streamed (.content "hi") (Relay.arrivals pause)⟩ rfl rfl rfl

end ChatRace
