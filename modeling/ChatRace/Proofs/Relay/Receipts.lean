import ChatRace.Proofs.Relay.Grammar
import ChatRace.Proofs.Relay.Record

/-!
# Receipts

When a client takes a frame, so many items have come, and the connection has ended or not (`Receipt`).  The acts of
the beats tell what that is for each event (`Receipt.ofActs`), and what a client takes follows them: the events in
order, as many as the client takes, and comments between them, each while no item of a later event has come
(`Course.follow`).  No item comes behind the last frame (`Halts.pulls_eq`), and the connection ends exactly once,
wherever the client leaves (`Course.traffic`).
-/

namespace ChatRace

open Chat

/-- A frame that a client takes: how many items of the stream have come by then, and whether the connection has
ended. -/
structure Receipt where
  text : String
  pulled : Nat
  released : Bool
  deriving DecidableEq

namespace Receipt

/-- The frames among some moments, with what has happened on a line. -/
def ofMoments (line pulled : Nat) (released : Bool) : List Moment → List Receipt
  | [] => []
  | .took _ text :: ms => ⟨text, pulled, released⟩ :: ofMoments line pulled released ms
  | .line t :: ms =>
    ofMoments line (pulled + Traffic.pulls line [t]) (released || decide (0 < Traffic.releases line [t])) ms

/-- The events among some acts, with what has been done. -/
def ofActs (pulled : Nat) (released : Bool) : List Relay.Act → List Receipt
  | [] => []
  | .write data :: acts => ⟨Relay.frame data, pulled, released⟩ :: ofActs pulled released acts
  | .pulled :: acts => ofActs (pulled + 1) released acts
  | .release :: acts => ofActs pulled true acts

/-- What a client takes follows what is promised, and `rest` is not taken: events, from the first on and in order, and
comments, each of them while nothing that is still promised has all its items. -/
inductive Follow : List Receipt → List Receipt → List Receipt → Prop
  | nil {rest : List Receipt} : Follow rest [] rest
  | event {r : Receipt} {promised taken rest : List Receipt} (h : Follow promised taken rest) :
    Follow (r :: promised) (r :: taken) rest
  | comment {promised taken rest : List Receipt} {pulled : Nat} {released : Bool}
    (hlt : ∀ r ∈ promised, pulled < r.pulled) (h : Follow promised taken rest) :
    Follow promised (⟨Relay.keepAlive, pulled, released⟩ :: taken) rest

theorem Follow.append {promised taken rest : List Receipt} (h : Follow promised taken rest) (rs : List Receipt) :
    Follow (rs ++ promised) (rs ++ taken) rest := by
  induction rs with
  | nil => exact h
  | cons r rs ih => exact .event ih

theorem Follow.of_append (taken rest : List Receipt) : Follow (taken ++ rest) taken rest := by
  have hnil : Follow rest [] rest := .nil
  simpa using hnil.append taken

/-! ### What acts come to -/

theorem ofActs_append (pulled : Nat) (released : Bool) (acts more : List Relay.Act) :
    ofActs pulled released (acts ++ more) = ofActs pulled released acts ++
      ofActs (pulled + acts.count .pulled) (released || acts.contains .release) more := by
  induction acts generalizing pulled released with
  | nil => simp [ofActs]
  | cons a acts ih =>
    cases a with
    | write data => simp [ofActs, ih]
    | pulled =>
      have hcount : (Relay.Act.pulled :: acts).count .pulled = acts.count .pulled + 1 := List.count_cons_self
      rw [hcount, List.cons_append, ofActs, ih, ofActs, Nat.add_assoc, Nat.add_comm 1]
      simp
    | release => simp [ofActs, ih]

theorem le_pulled_ofActs {pulled : Nat} {released : Bool} {acts : List Relay.Act} :
    ∀ r ∈ ofActs pulled released acts, pulled ≤ r.pulled := by
  induction acts generalizing pulled released with
  | nil => simp [ofActs]
  | cons a acts ih =>
    cases a with
    | write data => exact List.forall_mem_cons.2 ⟨Nat.le_refl _, ih⟩
    | pulled =>
      intro r hr
      have hle := ih r hr
      omega
    | release => exact ih

theorem ofMoments_unrolled (line now pulled : Nat) (isOpen : Bool) (acts : List Relay.Act) (ms : List Moment) :
    ofMoments line pulled (!isOpen) (Transmission.unrolled line now isOpen acts ++ ms) =
      ofActs pulled (!isOpen) acts ++
        ofMoments line (pulled + acts.count .pulled) (!(isOpen && !acts.contains .release)) ms := by
  induction acts generalizing pulled isOpen with
  | nil => simp [Transmission.unrolled, ofActs]
  | cons a acts ih =>
    cases a with
    | write data => simpa [Transmission.unrolled, ofMoments, ofActs] using ih pulled isOpen
    | pulled =>
      have hpulls : Traffic.pulls line [.pulled line] = 1 := by simp [Traffic.pulls]
      have hreleases : Traffic.releases line [.pulled line] = 0 := rfl
      have hcount : (Relay.Act.pulled :: acts).count .pulled = acts.count .pulled + 1 := List.count_cons_self
      have hih := ih (pulled + 1) isOpen
      rw [Nat.add_assoc, Nat.add_comm 1] at hih
      simpa [Transmission.unrolled, ofMoments, ofActs, hpulls, hreleases, hcount] using hih
    | release =>
      have hpulls : Traffic.pulls line [.released line] = 0 := rfl
      have hreleases : Traffic.releases line [.released line] = 1 := by simp [Traffic.releases]
      have hih := ih pulled false
      cases isOpen with
      | true => simpa [Transmission.unrolled, ofMoments, ofActs, hpulls, hreleases] using hih
      | false => simpa [Transmission.unrolled, ofActs] using hih

theorem ofMoments_line (line pulled : Nat) (released : Bool) (log : List Traffic) :
    ofMoments line pulled released (log.map .line) = [] := by
  induction log generalizing pulled released with
  | nil => rfl
  | cons t log ih => exact ih ..

end Receipt

namespace Transmission

/-! ### What is taken -/

/-- The beats come with an item, or at once. -/
structure IsPaced (t : Transmission) : Prop where
  awaited : t.due ≤ t.quiet + keepAliveAfter ∨ ∃ acts, t.awaited = .pulled :: acts
  later : ∀ b ∈ t.beats.tail, b.delay = 0 ∨ ∃ acts, b.acts = .pulled :: acts

/-- All that is still to be done. -/
def acts (t : Transmission) : List Relay.Act := t.beats.flatMap (·.acts)

theorem acts_eq (t : Transmission) : t.acts = t.awaited ++ t.beats.tail.flatMap (·.acts) := by
  rw [acts, awaited]
  cases t.beats <;> rfl

variable {t : Transmission} {ms : List Moment} {complete : Bool}

private theorem acts_of_last (h : t.beats.tail = []) : t.acts = t.awaited := by
  rw [acts_eq, h, List.flatMap_nil, List.append_nil]

private theorem acts_goOn {b : Relay.Beat} {bs : List Relay.Beat} (h : t.beats.tail = b :: bs) :
    t.acts = t.awaited ++ (t.goOn b bs).acts := by
  rw [acts_eq, h]
  rfl

private theorem room_afterBeat (t : Transmission) :
    t.room = t.afterBeat.room.map (· + (Moment.frames (t.performed t.due t.awaited)).length) := by
  obtain ⟨done, hdone⟩ := exists_does t.due t t.awaited
  exact hdone.room

/-- A transmission after a beat is paced, for the next beat has been waited for since this one. -/
private theorem IsPaced.beat {b : Relay.Beat} {bs : List Relay.Beat} (h : t.IsPaced)
    (hdue : t.due ≤ t.quiet + keepAliveAfter) (hbeats : t.beats.tail = b :: bs) :
    (t.goOn b bs).IsPaced := by
  have hlater := h.later
  rw [hbeats] at hlater
  obtain ⟨hb, hbs⟩ := List.forall_mem_cons.1 hlater
  refine ⟨?_, hbs⟩
  rcases hb with hb | hb
  · obtain ⟨-, -, hquiet⟩ := perform_fixed t.due t t.awaited
    left
    show t.due + b.delay ≤ t.afterBeat.quiet + keepAliveAfter
    rw [afterBeat]
    rcases hquiet with hquiet | hquiet <;> omega
  · exact .inr hb

private theorem IsPaced.comment (h : t.IsPaced) (hdue : t.quiet + keepAliveAfter < t.due) :
    t.afterComment.IsPaced ∧ ∃ acts, t.awaited = .pulled :: acts := by
  rcases h.awaited with hle | hpulled
  · omega
  · exact ⟨⟨.inr hpulled, h.later⟩, hpulled⟩

private theorem ofMoments_performed {done : List Relay.Act} (hdone : t.Does t.due t.awaited done) (pulled : Nat)
    (ms : List Moment) :
    Receipt.ofMoments t.line pulled (!t.isOpen) (t.performed t.due t.awaited ++ ms) =
      Receipt.ofActs pulled (!t.isOpen) done ++
        Receipt.ofMoments t.line (pulled + done.count .pulled) (!t.afterBeat.isOpen) ms := by
  have hopen : t.afterBeat.isOpen = (t.isOpen && !done.contains .release) := hdone.isOpen
  rw [hdone.performed, Receipt.ofMoments_unrolled, hopen]

/-- What a client takes follows what is to be done, and is all of it if the client is told so. -/
theorem Course.follow (h : Course t ms complete) (hpaced : t.IsPaced) (pulled : Nat) :
    ∃ rest, Receipt.Follow (Receipt.ofActs pulled (!t.isOpen) t.acts)
      (Receipt.ofMoments t.line pulled (!t.isOpen) ms) rest ∧ (complete = true → rest = []) := by
  induction h generalizing pulled with
  | left hfull =>
    rw [Receipt.ofMoments_line]
    exact ⟨_, .nil, fun h => Bool.noConfusion h⟩
  | @cut t hfull hdue hafter =>
    obtain ⟨done, hdone⟩ := exists_does t.due t t.awaited
    obtain ⟨more, hmore⟩ := hdone.isPrefix
    rw [ofMoments_performed hdone, Receipt.ofMoments_line, List.append_nil, acts_eq, ← hmore, List.append_assoc,
      Receipt.ofActs_append]
    exact ⟨_, .of_append _ _, fun h => Bool.noConfusion h⟩
  | @last t hfull hdue hafter hbeats =>
    obtain ⟨done, hdone⟩ := exists_does t.due t t.awaited
    have hall := Receipt.Follow.of_append (Receipt.ofActs pulled (!t.isOpen) done) []
    rw [List.append_nil] at hall
    rw [ofMoments_performed hdone, Receipt.ofMoments_line, List.append_nil, acts_of_last hbeats, ← hdone.all hafter]
    exact ⟨[], hall, fun _ => rfl⟩
  | @beat t b bs ms complete hfull hdue hafter hbeats hrest ih =>
    obtain ⟨done, hdone⟩ := exists_does t.due t t.awaited
    have hopen : t.afterBeat.isOpen = (t.isOpen && !done.contains .release) := hdone.isOpen
    have hline : t.afterBeat.line = t.line := hdone.line
    have hreleased : (!t.isOpen || done.contains .release) = !t.afterBeat.isOpen := by
      rw [hopen, Bool.not_and, Bool.not_not]
    obtain ⟨rest, hfollow, hcomplete⟩ := ih (hpaced.beat hdue hbeats) (pulled + done.count .pulled)
    have hmore := hfollow.append (Receipt.ofActs pulled (!t.isOpen) done)
    rw [ofMoments_performed hdone, acts_goOn hbeats, ← hdone.all hafter, Receipt.ofActs_append, hreleased, ← hline]
    exact ⟨rest, hmore, hcomplete⟩
  | @comment t ms complete hfull hdue hrest ih =>
    obtain ⟨hcomment, acts, hacts⟩ := hpaced.comment hdue
    obtain ⟨rest, hfollow, hcomplete⟩ := ih hcomment pulled
    refine ⟨rest, .comment ?_ hfollow, hcomplete⟩
    -- the next thing to be done is to pull an item, so everything comes with one more
    rw [acts_eq, hacts]
    intro r hr
    exact Receipt.le_pulled_ofActs r hr

/-! ### What has come in the end -/

private theorem pulls_unrolled (line now : Nat) (isOpen : Bool) (acts : List Relay.Act) :
    Traffic.pulls line (Moment.traffic (unrolled line now isOpen acts)) = acts.count .pulled := by
  induction acts generalizing isOpen with
  | nil => rfl
  | cons a acts ih =>
    cases a with
    | write data => exact (ih isOpen).trans (List.count_cons_of_ne (by simp)).symm
    | pulled =>
      have hone : Traffic.pulls line [.pulled line] = 1 := by simp [Traffic.pulls]
      have htraffic : Moment.traffic (unrolled line now isOpen (.pulled :: acts)) =
          [.pulled line] ++ Moment.traffic (unrolled line now isOpen acts) := rfl
      rw [htraffic, Traffic.pulls_append, hone, ih, List.count_cons_self, Nat.add_comm]
    | release =>
      have hnone : Traffic.pulls line (Moment.traffic (if isOpen then [.line (.released line)] else [])) = 0 := by
        cases isOpen <;> rfl
      rw [unrolled, Moment.traffic_append, Traffic.pulls_append, hnone, ih, Nat.zero_add]
      exact (List.count_cons_of_ne (by simp)).symm

private theorem pulls_close (t : Transmission) (line : Nat) : Traffic.pulls line t.close.2 = 0 := by
  unfold close
  split <;> rfl

/-- No more items are pulled than are to be, and all of them if the client gets everything. -/
theorem Course.pulls (h : Course t ms complete) :
    Traffic.pulls t.line (Moment.traffic ms) ≤ t.acts.count .pulled ∧
      (complete = true → Traffic.pulls t.line (Moment.traffic ms) = t.acts.count .pulled) := by
  induction h with
  | @left t hfull =>
    rw [Moment.traffic_line, pulls_close]
    exact ⟨Nat.zero_le _, fun h => Bool.noConfusion h⟩
  | @cut t hfull hdue hafter =>
    obtain ⟨done, hdone⟩ := exists_does t.due t t.awaited
    rw [Moment.traffic_append, Traffic.pulls_append, Moment.traffic_line, pulls_close, hdone.performed,
      pulls_unrolled, acts_eq, List.count_append]
    have hle := hdone.isPrefix.sublist.count_le .pulled
    exact ⟨by omega, fun h => Bool.noConfusion h⟩
  | @last t hfull hdue hafter hbeats =>
    obtain ⟨done, hdone⟩ := exists_does t.due t t.awaited
    rw [Moment.traffic_append, Traffic.pulls_append, Moment.traffic_line, pulls_close, hdone.performed,
      pulls_unrolled, acts_of_last hbeats, hdone.all hafter]
    exact ⟨Nat.le_refl _, fun _ => rfl⟩
  | @beat t b bs ms complete hfull hdue hafter hbeats hrest ih =>
    obtain ⟨done, hdone⟩ := exists_does t.due t t.awaited
    have hline : (t.goOn b bs).line = t.line := hdone.line
    rw [hline] at ih
    rw [Moment.traffic_append, Traffic.pulls_append, hdone.performed, pulls_unrolled, acts_goOn hbeats,
      hdone.all hafter, List.count_append]
    obtain ⟨hle, heq⟩ := ih
    refine ⟨by omega, ?_⟩
    intro hcomplete
    rw [heq hcomplete]
  | comment hfull hdue hrest ih => exact ih

/-- What happens behind the last frame is at most that the connection ends. -/
def Halts (ms : List Moment) : Prop :=
  ∃ pre time text post, ms = pre ++ .took time text :: post ∧ ∀ m ∈ post, ∃ line, m = .line (.released line)

private theorem Halts.append (h : Halts ms) (pre : List Moment) : Halts (pre ++ ms) := by
  obtain ⟨init, time, text, post, rfl, hpost⟩ := h
  exact ⟨pre ++ init, time, text, post, (List.append_assoc ..).symm, hpost⟩

private theorem released_of_mem_close {m : Moment} (h : m ∈ t.close.2.map .line) :
    ∃ line, m = .line (.released line) := by
  obtain ⟨traffic, htraffic, rfl⟩ := List.mem_map.1 h
  unfold close at htraffic
  split at htraffic
  · exact ⟨t.line, by rw [List.mem_singleton.1 htraffic]⟩
  · cases htraffic

/-- Acts that end in an event end in a frame. -/
private theorem halts_unrolled (line now : Nat) (isOpen : Bool) (init : List Relay.Act) (data : String)
    {post : List Moment} (hpost : ∀ m ∈ post, ∃ line, m = .line (.released line)) :
    Halts (unrolled line now isOpen (init ++ [.write data]) ++ post) := by
  induction init generalizing isOpen with
  | nil => exact ⟨[], now, Relay.frame data, post, rfl, hpost⟩
  | cons a init ih =>
    cases a with
    | write d => exact (ih isOpen).append [_]
    | pulled => exact (ih isOpen).append [_]
    | release =>
      rw [List.cons_append, unrolled, List.append_assoc]
      exact (ih false).append _

/-- The acts of the last beat. -/
def final (t : Transmission) : List Relay.Act := t.beats.getLast?.elim [] (·.acts)

theorem final_goOn {b : Relay.Beat} {bs : List Relay.Beat} (h : t.beats.tail = b :: bs) :
    (t.goOn b bs).final = t.final := by
  rw [final, final]
  rcases hb : t.beats with _ | ⟨b', rest⟩
  · rw [hb] at h
    cases h
  · rw [hb, List.tail_cons] at h
    rw [h]
    rfl

/-- If an event is the last thing to be done, nothing is pulled behind the last frame. -/
theorem Course.halts (h : Course t ms complete) (hfull : t.isFull = false)
    (hfinal : ∃ init data, t.final = init ++ [.write data]) : Halts ms := by
  induction h with
  | left h =>
    rw [hfull] at h
    cases h
  | @cut t hfull hdue hafter =>
    obtain ⟨done, hdone⟩ := exists_does t.due t t.awaited
    obtain ⟨init, data, rfl⟩ := hdone.cut hfull hafter
    rw [hdone.performed]
    exact halts_unrolled _ _ _ init data fun m hm => released_of_mem_close hm
  | @last t hfull hdue hafter hbeats =>
    obtain ⟨done, hdone⟩ := exists_does t.due t t.awaited
    have hsame : t.final = done := by
      rw [hdone.all hafter, final, awaited]
      rcases hb : t.beats with _ | ⟨b, _ | ⟨b', bs⟩⟩
      · rfl
      · rfl
      · rw [hb] at hbeats
        cases hbeats
    obtain ⟨init, data, hinit⟩ := hfinal
    rw [hdone.performed, ← hsame, hinit]
    exact halts_unrolled _ _ _ init data fun m hm => released_of_mem_close hm
  | @beat t b bs ms complete hfull hdue hafter hbeats hrest ih =>
    exact (ih hafter ((final_goOn hbeats).symm ▸ hfinal)).append _
  | @comment t ms complete hfull hdue hrest ih =>
    by_cases hafter : t.afterComment.isFull = true
    · -- the comment is the last frame
      cases hrest with
      | left => exact ⟨[], _, _, _, rfl, fun m hm => released_of_mem_close hm⟩
      | cut h | last h | beat h | comment h =>
        rw [hafter] at h
        cases h
    · exact (ih (by simpa using hafter) hfinal).append [_]

/-- A client who takes nothing leaves before anything has come. -/
theorem Course.pulls_of_isFull (h : Course t ms complete) (hfull : t.isFull = true) (line : Nat) :
    Traffic.pulls line (Moment.traffic ms) = 0 ∧ Receipt.ofMoments line 0 false ms = [] := by
  cases h with
  | left =>
    rw [Moment.traffic_line, Receipt.ofMoments_line]
    exact ⟨pulls_close t line, rfl⟩
  | cut h | last h | beat h | comment h =>
    rw [hfull] at h
    cases h

private theorem ofMoments_append (line pulled : Nat) (released : Bool) (ms ns : List Moment) :
    ∃ released', Receipt.ofMoments line pulled released (ms ++ ns) = Receipt.ofMoments line pulled released ms ++
      Receipt.ofMoments line (pulled + Traffic.pulls line (Moment.traffic ms)) released' ns := by
  induction ms generalizing pulled released with
  | nil => exact ⟨released, rfl⟩
  | cons m ms ih =>
    cases m with
    | took time text =>
      obtain ⟨released', hrest⟩ := ih pulled released
      exact ⟨released', congrArg (_ :: ·) hrest⟩
    | line traffic =>
      obtain ⟨released', hrest⟩ := ih (pulled + Traffic.pulls line [traffic])
        (released || decide (0 < Traffic.releases line [traffic]))
      have hpulls : Traffic.pulls line (Moment.traffic (.line traffic :: ms)) =
          Traffic.pulls line [traffic] + Traffic.pulls line (Moment.traffic ms) :=
        Traffic.pulls_append line [traffic] _
      rw [Nat.add_assoc, ← hpulls] at hrest
      exact ⟨released', hrest⟩

/-- What has been pulled when the last frame is taken is what is pulled at all. -/
theorem Halts.pulls_eq (h : Halts ms) (line : Nat) :
    Traffic.pulls line (Moment.traffic ms) = (Receipt.ofMoments line 0 false ms).getLast?.elim 0 (·.pulled) := by
  obtain ⟨pre, time, text, post, rfl, hpost⟩ := h
  have hnone : Traffic.pulls line (Moment.traffic post) = 0 ∧
      ∀ pulled released, Receipt.ofMoments line pulled released post = [] := by
    induction post with
    | nil => exact ⟨rfl, fun _ _ => rfl⟩
    | cons m post ih =>
      obtain ⟨⟨l, rfl⟩, hrest⟩ := List.forall_mem_cons.1 hpost
      obtain ⟨hpulls, hreceipts⟩ := ih hrest
      exact ⟨hpulls, fun pulled released => hreceipts ..⟩
  obtain ⟨released, hsplit⟩ := ofMoments_append line 0 false pre (.took time text :: post)
  have htraffic : Moment.traffic (.took time text :: post) = Moment.traffic post := rfl
  rw [hsplit, Receipt.ofMoments, hnone.2, List.getLast?_concat, Moment.traffic_append, Traffic.pulls_append, htraffic,
    hnone.1]
  simp

/-! ### The connection -/

private theorem traffic_unrolled (line now l : Nat) (isOpen : Bool) (acts : List Relay.Act) :
    Traffic.calls l (Moment.traffic (unrolled line now isOpen acts)) = [] ∧
      Traffic.releases l (Moment.traffic (unrolled line now isOpen acts)) =
        if isOpen && acts.contains .release && line == l then 1 else 0 := by
  induction acts generalizing isOpen with
  | nil => simp [unrolled, Moment.traffic, Traffic.calls, Traffic.releases]
  | cons a acts ih =>
    cases a with
    | write data | pulled =>
      rw [List.contains_cons]
      exact ih isOpen
    | release =>
      obtain ⟨hcalls, hreleases⟩ := ih false
      cases isOpen with
      | false => simpa [unrolled] using ih false
      | true =>
        have htraffic : Moment.traffic (unrolled line now true (.release :: acts)) =
            [.released line] ++ Moment.traffic (unrolled line now false acts) := rfl
        rw [htraffic, Traffic.calls_append, Traffic.releases_append, hcalls, hreleases]
        refine ⟨rfl, ?_⟩
        by_cases hline : line = l <;> simp [Traffic.releases, hline]

private theorem traffic_close (t : Transmission) (l : Nat) :
    Traffic.calls l t.close.2 = [] ∧ Traffic.releases l t.close.2 = if t.isOpen && t.line == l then 1 else 0 := by
  unfold close
  cases t.isOpen with
  | false => exact ⟨rfl, rfl⟩
  | true =>
    refine ⟨rfl, ?_⟩
    by_cases hline : t.line = l <;> simp [Traffic.releases, hline]

/-- A beat may end the connection, and then it is not open behind it. -/
private theorem traffic_beat {l : Nat} (h : Traffic.calls l (Moment.traffic ms) = [] ∧
    Traffic.releases l (Moment.traffic ms) = if t.afterBeat.isOpen && t.afterBeat.line == l then 1 else 0) :
    Traffic.calls l (Moment.traffic (t.performed t.due t.awaited ++ ms)) = [] ∧
      Traffic.releases l (Moment.traffic (t.performed t.due t.awaited ++ ms)) =
        if t.isOpen && t.line == l then 1 else 0 := by
  obtain ⟨done, hdone⟩ := exists_does t.due t t.awaited
  have hopen : t.afterBeat.isOpen = (t.isOpen && !done.contains .release) := hdone.isOpen
  have hline : t.afterBeat.line = t.line := hdone.line
  obtain ⟨hcalls, hreleases⟩ := traffic_unrolled t.line t.due l t.isOpen done
  rw [hopen, hline] at h
  rw [Moment.traffic_append, Traffic.calls_append, Traffic.releases_append, hdone.performed, hcalls, hreleases, h.1,
    h.2]
  refine ⟨rfl, ?_⟩
  cases t.isOpen <;> cases done.contains .release <;> simp

/-- A run makes no call, and its connection ends once if it is open. -/
theorem Course.traffic (h : Course t ms complete) (l : Nat) :
    Traffic.calls l (Moment.traffic ms) = [] ∧
      Traffic.releases l (Moment.traffic ms) = if t.isOpen && t.line == l then 1 else 0 := by
  induction h with
  | left hfull =>
    rw [Moment.traffic_line]
    exact traffic_close _ l
  | cut hfull hdue hafter =>
    apply traffic_beat
    rw [Moment.traffic_line]
    exact traffic_close _ l
  | last hfull hdue hafter hbeats =>
    apply traffic_beat
    rw [Moment.traffic_line]
    exact traffic_close _ l
  | beat hfull hdue hafter hbeats hrest ih => exact traffic_beat ih
  | comment hfull hdue hrest ih => exact ih

/-! ### What the client takes -/

theorem Course.complete_of_room (h : Course t ms complete) (hroom : t.room = none) : complete = true := by
  induction h with
  | left h => simp [isFull_eq_false hroom] at h
  | cut _ _ h => simp [isFull_eq_false (room_perform_eq_none hroom _ _), afterBeat] at h
  | last => rfl
  | beat _ _ _ _ _ ih => exact ih (room_perform_eq_none hroom _ _)
  | @comment t _ _ _ _ _ ih => exact ih (congrArg (Option.map (· - 1)) hroom)

/-- A client takes no more frames than it will, and fewer only if there are no more. -/
theorem Course.length_frames (h : Course t ms complete) {n : Nat} (hroom : t.room = some n) :
    (Moment.frames ms).length ≤ n ∧ (complete = false → (Moment.frames ms).length = n) := by
  have hafter {u : Transmission} {n : Nat} (hu : u.room = some n) :
      ∃ m, u.afterBeat.room = some m ∧ n = m + (Moment.frames (u.performed u.due u.awaited)).length := by
    have hsame := u.room_afterBeat
    rw [hu] at hsame
    obtain ⟨m, hm, hn⟩ := Option.map_eq_some_iff.1 hsame.symm
    exact ⟨m, hm, hn.symm⟩
  induction h generalizing n with
  | @left t hfull =>
    rw [Moment.frames_line]
    have hzero : n = 0 := by simpa [isFull, hroom] using hfull
    exact ⟨Nat.zero_le n, fun _ => hzero.symm⟩
  | @cut t hfull hdue hafter' =>
    obtain ⟨m, hm, hn⟩ := hafter hroom
    have hzero : m = 0 := by simpa [isFull, hm] using hafter'
    rw [Moment.frames_append, Moment.frames_line, List.append_nil]
    omega
  | @last t hfull hdue hafter' hbeats =>
    obtain ⟨m, hm, hn⟩ := hafter hroom
    rw [Moment.frames_append, Moment.frames_line, List.append_nil]
    exact ⟨by omega, fun h => Bool.noConfusion h⟩
  | @beat t b bs ms complete hfull hdue hafter' hbeats hrest ih =>
    obtain ⟨m, hm, hn⟩ := hafter hroom
    obtain ⟨hle, heq⟩ := ih hm
    rw [Moment.frames_append, List.length_append]
    refine ⟨by omega, ?_⟩
    intro hcomplete
    rw [heq hcomplete]
    omega
  | @comment t ms complete hfull hdue hrest ih =>
    have hput := room_put hfull (t.quiet + keepAliveAfter) Relay.keepAlive
    rw [hroom] at hput
    obtain ⟨m, hm, hn⟩ := Option.map_eq_some_iff.1 hput.symm
    obtain ⟨hle, heq⟩ := ih hm
    have hlength : (Moment.frames (.took (t.quiet + keepAliveAfter) Relay.keepAlive :: ms)).length =
        (Moment.frames ms).length + 1 := rfl
    rw [hlength]
    refine ⟨by omega, ?_⟩
    intro hcomplete
    rw [heq hcomplete]
    exact hn

end Transmission

end ChatRace
