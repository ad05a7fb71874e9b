import ChatRace.Proofs.Attempt.Pool
import ChatRace.Proofs.Relay.Grammar

/-!
# From the attempt to the relay

An attempt reads a stream up to the first item that decides, and hands over what comes behind it.  Each item in front
of that one is passed over (`comesTo_pull_cons`), so the attempt has pulled these and the item that decides, when all
of them have come, and what it hands over is the rest of the stream as it stands (`comesTo_pull`).  The relay writes
nothing for the items that have been passed over (`Relay.written_append`): a client is told the same as if the relay had
the whole stream (`comesTo_of_streamed`).
-/

namespace ChatRace

open Chat

/-- Whether an item decides what comes of an attempt: an error does, and a chunk with some text or that ends the
answer. -/
def Item.isDecisive (i : Item) : Bool :=
  match i.outcome with
  | .value c => c.delta.getD "" != "" || c.done
  | .failure _ | .crash => true

theorem Item.isDecisive_of_value {i : Item} {c : Chunk} (h : i.outcome = .value c) : i.isDecisive = c.isUsable := by
  simp only [isDecisive, h, Chunk.isUsable, Chunk.hasContent, Chunk.text?]
  cases c.delta with
  | none => rfl
  | some d =>
    by_cases hd : d = ""
    · simp [hd]
    · simp [Option.filter, hd, bne]

/-- An item that does not decide is a chunk without text that does not end the answer. -/
theorem Item.of_not_isDecisive {i : Item} (h : i.isDecisive = false) :
    ∃ c, i.outcome = .value c ∧ c.text? = none ∧ c.done = false := by
  cases ho : i.outcome with
  | value c =>
    rw [isDecisive_of_value ho, Chunk.isUsable, Bool.or_eq_false_iff, Chunk.hasContent] at h
    exact ⟨c, rfl, by simpa using h.1, h.2⟩
  | failure e => simp [isDecisive, ho] at h
  | crash => simp [isDecisive, ho] at h

/-- There is only one way to split items at the first that decides. -/
theorem Item.split_unique {skipped skipped' rest rest' : List Item} {i i' : Item}
    (h : skipped ++ i :: rest = skipped' ++ i' :: rest') (hskipped : ∀ j ∈ skipped, j.isDecisive = false)
    (hi : i.isDecisive = true) (hskipped' : ∀ j ∈ skipped', j.isDecisive = false) (hi' : i'.isDecisive = true) :
    skipped = skipped' ∧ i = i' ∧ rest = rest' := by
  -- what stands before it is what is taken while items do not decide
  have hbefore {before after : List Item} {k : Item} (hk : k.isDecisive = true)
      (hnot : ∀ j ∈ before, j.isDecisive = false) :
      (before ++ k :: after).takeWhile (fun j => !j.isDecisive) = before := by
    rw [List.takeWhile_append_of_pos (by simpa using hnot), List.takeWhile_cons_of_neg (by simpa using hk),
      List.append_nil]
  obtain rfl : skipped = skipped' := by rw [← hbefore hi hskipped, h, hbefore hi' hskipped']
  exact ⟨rfl, List.cons.inj (List.append_cancel_left h)⟩

/-- The time that some items take. -/
def delays (items : List Item) : Nat := (items.map (·.delay)).sum

theorem delays_cons (i : Item) (items : List Item) : delays (i :: items) = i.delay + delays items := by
  simp [delays]

namespace Attempt

variable {a : Attempt} {now d ready : Nat} {x : Except BackendError FirstUnit} {n : Nat}

/-- Nobody stops the attempt, and from `now` on it has no result until it is `ready`, and then the result `x` with `n`
items pulled, and neither changes any more. -/
structure ComesTo (a : Attempt) (now ready : Nat) (x : Except BackendError FirstUnit) (n : Nat) : Prop where
  le : now ≤ ready
  alone : a.alone now = some (ready, x)
  before : ∀ time, now ≤ time → time < ready → (a.runUntil time).1.result? = none
  after : ∀ time, ready ≤ time → (a.runUntil time).1.result? = some x
  pulled : ∀ time, ready ≤ time → Traffic.pulls a.backend.line (a.runUntil time).2 = n

theorem ComesTo.of_result (hd : a.due? = none) (hx : a.result? = some x) (now : Nat) : a.ComesTo now now x 0 where
  le := Nat.le_refl now
  alone := alone_of_result hd hx now
  before time hle hlt := absurd hle (Nat.not_le.2 hlt)
  after time _ := by rw [runUntil, stepUntil_of_not_due hd, hx]
  pulled time _ := by
    rw [runUntil, stepUntil_of_not_due hd]
    rfl

/-- An attempt comes to what it comes to after its next step. -/
theorem ComesTo.of_step (hd : a.due? = some d) (hle : now ≤ d) (h : a.step.1.ComesTo d ready x n) :
    a.ComesTo now ready x (Traffic.pulls a.backend.line a.step.2 + n) where
  le := Nat.le_trans hle h.le
  alone := (alone_step hd now).trans h.alone
  before time _ hlt := by
    rw [runUntil_of_due hd]
    by_cases htime : d ≤ time
    · rw [if_pos htime]
      exact h.before time htime hlt
    · rw [if_neg htime]
      cases hx : a.result? with
      | none => rfl
      | some y => simp [due?, result?_eq_some.1 hx] at hd
  after time htime := by
    rw [runUntil_of_due hd, if_pos (Nat.le_trans h.le htime)]
    exact h.after time htime
  pulled time htime := by
    have hstep := h.pulled time htime
    rw [step_backend] at hstep
    rw [runUntil_of_due hd, if_pos (Nat.le_trans h.le htime), Traffic.pulls_append, hstep]

/-! ### Pulling -/

private theorem pulls_pulled (line : Nat) (log : List Traffic) :
    Traffic.pulls line (.pulled line :: log) = Traffic.pulls line log + 1 := by
  simp [Traffic.pulls]

private theorem comesTo_settle (a : Attempt) (x : Except BackendError FirstUnit) (now : Nat) :
    (a.settle x).1.ComesTo now now x 0 :=
  .of_result rfl rfl now

/-- An item that does not decide is passed over. -/
private theorem comesTo_pull_cons {a : Attempt} {i : Item} {rest : List Item} (hi : i.isDecisive = false)
    (h : ∀ a' : Attempt, a'.backend = a.backend →
      (a'.pull (now + i.delay) rest).1.ComesTo (now + i.delay) ready x n) :
    (a.pull now (i :: rest)).1.ComesTo now ready x (n + 1) := by
  obtain ⟨c, ho, -⟩ := Item.of_not_isDecisive hi
  have huse : c.isUsable = false := by rw [← Item.isDecisive_of_value ho, hi]
  have hdue : (a.pull now (i :: rest)).1.due? = some (now + i.delay) := rfl
  have hstep : (a.pull now (i :: rest)).1.step =
      (((a.pull now (i :: rest)).1.pull (now + i.delay) rest).1,
        .pulled a.backend.line :: ((a.pull now (i :: rest)).1.pull (now + i.delay) rest).2) := by
    show (a.pull now (i :: rest)).1.arrived (now + i.delay) i rest = _
    simp only [arrived, ho, huse, Bool.false_eq_true, if_false]
    cases rest <;> rfl
  have hlog : Traffic.pulls a.backend.line ((a.pull now (i :: rest)).1.pull (now + i.delay) rest).2 = 0 := by
    cases rest <;> rfl
  have hpulls : Traffic.pulls (a.pull now (i :: rest)).1.backend.line (a.pull now (i :: rest)).1.step.2 = 1 := by
    rw [hstep]
    show Traffic.pulls a.backend.line (.pulled a.backend.line :: _) = 1
    rw [pulls_pulled, hlog]
  have hrest : (a.pull now (i :: rest)).1.step.1.ComesTo (now + i.delay) ready x n := by
    rw [hstep]
    exact h _ rfl
  have hcomes := ComesTo.of_step hdue (Nat.le_add_right now i.delay) hrest
  rwa [hpulls, Nat.add_comm] at hcomes

/-- What a stream comes to in which `i` decides and `rest` follows. -/
def decided (a : Attempt) (i : Item) (rest : List Item) : Except BackendError FirstUnit :=
  match i.outcome with
  | .value c => .ok (.streamed c rest)
  | .failure e => .error e
  | .crash => .error a.lost

/-- An attempt that pulls an item that decides has its result when the item has come. -/
private theorem comesTo_pull_decisive (a : Attempt) (now : Nat) {i : Item} (hi : i.isDecisive = true)
    (rest : List Item) : (a.pull now (i :: rest)).1.ComesTo now (now + i.delay) (a.decided i rest) 1 := by
  have hdue : (a.pull now (i :: rest)).1.due? = some (now + i.delay) := rfl
  obtain ⟨hlog, hrest⟩ : Traffic.pulls a.backend.line (a.pull now (i :: rest)).1.step.2 = 1 ∧
      (a.pull now (i :: rest)).1.step.1.ComesTo (now + i.delay) (now + i.delay) (a.decided i rest) 0 := by
    show Traffic.pulls a.backend.line ((a.pull now (i :: rest)).1.arrived (now + i.delay) i rest).2 = 1 ∧
      ((a.pull now (i :: rest)).1.arrived (now + i.delay) i rest).1.ComesTo _ _ _ 0
    cases ho : i.outcome with
    | value c =>
      have huse : c.isUsable = true := by rw [← Item.isDecisive_of_value ho, hi]
      simp only [arrived, decided, ho, huse, if_true]
      exact ⟨pulls_pulled _ _, .of_result rfl rfl _⟩
    | failure e =>
      simp only [arrived, decided, ho]
      exact ⟨pulls_pulled _ _, comesTo_settle _ _ _⟩
    | crash =>
      simp only [arrived, decided, ho]
      exact ⟨pulls_pulled _ _, comesTo_settle _ _ _⟩
  have hcomes := ComesTo.of_step hdue (Nat.le_add_right now i.delay) hrest
  rwa [show (a.pull now (i :: rest)).1.backend = a.backend from rfl, hlog] at hcomes

/-- An attempt that pulls items of which none decides finds the stream closed behind the last of them. -/
theorem comesTo_pull_closed (a : Attempt) (now : Nat) {items : List Item} (h : ∀ i ∈ items, i.isDecisive = false) :
    (a.pull now items).1.ComesTo now (now + delays items) (.error a.closedEarly) items.length := by
  induction items generalizing a now with
  | nil => exact comesTo_settle a _ now
  | cons i rest ih =>
    obtain ⟨hi, hrest⟩ := List.forall_mem_cons.1 h
    refine comesTo_pull_cons hi ?_
    intro a' ha'
    have hcomes := ih a' (now + i.delay) hrest
    have herror : a'.closedEarly = a.closedEarly := by rw [closedEarly, closedEarly, ha']
    rwa [herror, Nat.add_assoc, ← delays_cons] at hcomes

/-- An attempt passes over the items in front of the first that decides. -/
theorem comesTo_pull (a : Attempt) (now : Nat) {skipped : List Item} (h : ∀ j ∈ skipped, j.isDecisive = false)
    {i : Item} (hi : i.isDecisive = true) (rest : List Item) :
    (a.pull now (skipped ++ i :: rest)).1.ComesTo now (now + delays (skipped ++ [i])) (a.decided i rest)
      (skipped.length + 1) := by
  induction skipped generalizing a now with
  | nil =>
    have hdelays : delays ([] ++ [i]) = i.delay := by simp [delays]
    rw [hdelays]
    exact comesTo_pull_decisive a now hi rest
  | cons j skipped ih =>
    obtain ⟨hj, hskipped⟩ := List.forall_mem_cons.1 h
    refine comesTo_pull_cons hj ?_
    intro a' ha'
    have hcomes := ih a' (now + j.delay) hskipped
    have hdecided : a'.decided i rest = a.decided i rest := by simp only [decided, lost, ha']
    rwa [hdecided, Nat.add_assoc, ← delays_cons] at hcomes

/-- What comes of a call for a stream is what comes of its items. -/
private theorem comesTo_launch {b : Backend} {r : BackendRequest} (hr : r.stream = true) {items : List Item}
    (hitems : (b.streamed r).outcome = .value items)
    (h : ∀ a : Attempt, a.backend = b →
      (a.pull (now + (b.streamed r).latency) items).1.ComesTo (now + (b.streamed r).latency) ready x n) :
    ((create b r).launch now).1.ComesTo now ready x n := by
  have hlatency : (create b r).latency = (b.streamed r).latency := by simp [latency, create, hr]
  have hdue : ((create b r).launch now).1.due? = some (now + (b.streamed r).latency) := by
    rw [← hlatency]
    rfl
  have hstep : ((create b r).launch now).1.step =
      ((create b r).launch now).1.pull (now + (b.streamed r).latency) items := by
    show ((create b r).launch now).1.answered (now + (create b r).latency) = _
    have hbackend : ((create b r).launch now).1.backend = b := rfl
    have hrequest : ((create b r).launch now).1.request = r := rfl
    simp only [answered, hbackend, hrequest, hr, hitems, hlatency, if_true]
  have hlog : Traffic.pulls b.line ((create b r).launch now).1.step.2 = 0 := by
    rw [hstep]
    cases items <;> rfl
  have hcomes := ComesTo.of_step hdue (Nat.le_add_right _ _) (hstep ▸ h ((create b r).launch now).1 rfl)
  rwa [show ((create b r).launch now).1.backend = b from rfl, hlog, Nat.zero_add] at hcomes

end Attempt

/-! ### What is written -/

namespace Relay

/-- The relay treats the first chunk as the items after it. -/
theorem payloads_eq_written (s : Stamp) (d : Nat) (c : Chunk) (rest : List Item) :
    payloads s c rest = s.role.render :: written (itemBeats s (⟨d, .value c⟩ :: rest)) := by
  show written (beats s c rest) = _
  cases hd : c.done with
  | true => simp [beats, itemBeats, hd, written]
  | false => simp [beats, itemBeats, hd, written]

/-- Items that do not decide are not told. -/
theorem written_append (s : Stamp) {skipped : List Item} (h : ∀ j ∈ skipped, j.isDecisive = false)
    (rest : List Item) : written (itemBeats s (skipped ++ rest)) = written (itemBeats s rest) := by
  induction skipped with
  | nil => rfl
  | cons j skipped ih =>
    obtain ⟨hj, hskipped⟩ := List.forall_mem_cons.1 h
    obtain ⟨c, ho, htext, hdone⟩ := Item.of_not_isDecisive hj
    have hbeats : itemBeats s (j :: (skipped ++ rest)) = ⟨j.delay, [.pulled]⟩ :: itemBeats s (skipped ++ rest) := by
      simp [itemBeats, ho, hdone, textActs, htext]
    rw [List.cons_append, hbeats]
    exact ih hskipped

end Relay

/-- An attempt at a stream fails behind the last item if none decides.  Otherwise it has pulled all items up to the
first that decides, and that one, when they have come, and comes to its error or hands over the chunk with exactly the
items behind it; and the relay writes for these what it writes for the whole of the stream. -/
theorem Attempt.comesTo_of_streamed {b : Backend} {r : BackendRequest} (hr : r.stream = true) {items : List Item}
    (hitems : (b.streamed r).outcome = .value items) (now : Nat) :
    let a := ((create b r).launch now).1
    let called := now + (b.streamed r).latency
    ((∀ i ∈ items, i.isDecisive = false) →
      a.ComesTo now (called + delays items)
        (.error (.invalidResponse (b.name ++ " closed its stream before the first chunk"))) items.length) ∧
    ∀ skipped i rest, items = skipped ++ i :: rest → (∀ j ∈ skipped, j.isDecisive = false) → i.isDecisive = true →
      let ready := called + delays (skipped ++ [i])
      let pulls := skipped.length + 1
      match i.outcome with
      | .failure e => a.ComesTo now ready (.error e) pulls
      | .crash => a.ComesTo now ready (.error a.lost) pulls
      | .value c => a.ComesTo now ready (.ok (.streamed c rest)) pulls ∧
          ∃ d₀ c₀ more, items = ⟨d₀, .value c₀⟩ :: more ∧
            ∀ s, Relay.payloads s c₀ more = Relay.payloads s c rest := by
  intro a called
  refine ⟨?_, ?_⟩
  · intro h
    refine comesTo_launch hr hitems ?_
    intro a' ha'
    have hclosed := a'.comesTo_pull_closed called h
    rwa [closedEarly, ha'] at hclosed
  · rintro skipped i rest hsplit hskipped hi ready pulls
    have hcomes : a.ComesTo now ready (a.decided i rest) pulls := by
      refine comesTo_launch hr hitems ?_
      intro a' ha'
      have hdecided : a'.decided i rest = a.decided i rest := by
        simp only [decided, lost, ha']
        rfl
      rw [hsplit, ← hdecided]
      exact a'.comesTo_pull called hskipped hi rest
    cases ho : i.outcome with
    | failure e => simpa only [decided, ho] using hcomes
    | crash => simpa only [decided, ho] using hcomes
    | value c =>
      refine ⟨by simpa only [decided, ho] using hcomes, ?_⟩
      -- the first item of the stream is a chunk, since it is passed over or decides as one
      obtain ⟨d₀, c₀, more, hfirst⟩ : ∃ d₀ c₀ more, items = ⟨d₀, .value c₀⟩ :: more := by
        cases skipped with
        | nil => exact ⟨i.delay, c, rest, by rw [hsplit, ← ho]; rfl⟩
        | cons j skipped =>
          obtain ⟨c₀, hc₀, -⟩ := Item.of_not_isDecisive (hskipped j (List.mem_cons_self ..))
          exact ⟨j.delay, c₀, skipped ++ i :: rest, by rw [hsplit, ← hc₀]; rfl⟩
      refine ⟨d₀, c₀, more, hfirst, ?_⟩
      intro s
      have hwhole : i = ⟨i.delay, .value c⟩ := by rw [← ho]
      rw [Relay.payloads_eq_written s d₀, ← hfirst, hsplit, Relay.written_append s hskipped,
        Relay.payloads_eq_written s i.delay, ← hwhole]

/-- Before it has any text, it gives a reason and a usage to no end. -/
private def mumbler : Backend := .scripted "mumbler" 0 10 .crash (.value [
  ⟨3, .value ⟨some "", some "length", some ⟨1, 1, 2⟩, false⟩⟩, ⟨4, .value ⟨none, none, none, false⟩⟩,
  ⟨2, .value (.content "hi")⟩, ⟨1, .failure (.timeout "gone")⟩])

private def toMumbler : BackendRequest := ⟨"req", "mumbler", [⟨.user, "hi"⟩], .free, true⟩

theorem Attempt.comesTo_of_streamed_mumbler :
    ((create mumbler toMumbler).launch 100).1.ComesTo 100 119
      (.ok (.streamed (.content "hi") [⟨1, .failure (.timeout "gone")⟩])) 3 ∧
    ∀ s, Relay.payloads s ⟨some "", some "length", some ⟨1, 1, 2⟩, false⟩
        [⟨4, .value ⟨none, none, none, false⟩⟩, ⟨2, .value (.content "hi")⟩, ⟨1, .failure (.timeout "gone")⟩] =
      Relay.payloads s (.content "hi") [⟨1, .failure (.timeout "gone")⟩] := by
  have hr : toMumbler.stream = true := rfl
  obtain ⟨-, hdecided⟩ := comesTo_of_streamed (b := mumbler) hr rfl 100
  obtain ⟨hcomes, d₀, c₀, more, hfirst, hpayloads⟩ := hdecided
    [⟨3, .value ⟨some "", some "length", some ⟨1, 1, 2⟩, false⟩⟩, ⟨4, .value ⟨none, none, none, false⟩⟩]
    ⟨2, .value (.content "hi")⟩ [⟨1, .failure (.timeout "gone")⟩] rfl (by decide) (by decide)
  injection hfirst with hfirst hmore
  injection hfirst with _ hchunk
  injection hchunk with hchunk
  subst hchunk hmore
  exact ⟨hcomes, hpayloads⟩

end ChatRace
