import ChatRace.Proofs.Attempt.Pool

/-!
# Cancelled attempts

What is done to a pool leaves a settled attempt as it is, unless its result is taken or its handle dropped
(`find?_run`).  An attempt that is cancelled is settled from then on: it has the result that lay ready, or the
error of an attempt that ended without one (`result?_cancel`).  So a cancellation is final if it comes before
the attempt has its unit, and a unit that lies ready already is still given out afterwards
(`firstUnit_cancel`, `firstUnit_of_cancelled_late`).
-/

namespace ChatRace

open Chat

namespace Attempt

/-- The result lies ready or has been taken. -/
def IsSettled (a : Attempt) : Prop := a.phase = .spent ∨ ∃ r, a.phase = .holding r

theorem IsSettled.due?_eq {a : Attempt} (h : a.IsSettled) : a.due? = none := by
  rcases h with hp | ⟨r, hp⟩ <;> simp [due?, hp]

theorem IsSettled.ne_queued {a : Attempt} (h : a.IsSettled) : a.phase ≠ .queued := by
  rcases h with hp | ⟨r, hp⟩ <;> simp [hp]

theorem IsSettled.runUntil_eq {a : Attempt} (h : a.IsSettled) (time : Nat) : (a.runUntil time).1 = a := by
  rw [runUntil, stepUntil_of_not_due h.due?_eq]

theorem isSettled_take (a : Attempt) : a.take.IsSettled := .inl rfl

theorem isSettled_cancel (a : Attempt) : a.cancel.1.IsSettled := by
  unfold cancel
  split
  · exact .inr ⟨_, rfl⟩
  · exact .inr ⟨_, rfl⟩
  · exact .inr ⟨_, rfl⟩
  · rename_i r hp
    exact .inr ⟨r, hp⟩
  · rename_i hp
    exact .inl hp

/-- A cancelled attempt has the result that lay ready, or the error of one that ended without any. -/
theorem result?_cancel {a : Attempt} (h : a.phase ≠ .spent) :
    a.cancel.1.result? = some (a.result?.getD (.error a.lost)) := by
  cases hp : a.phase with
  | spent => exact absurd hp h
  | queued | calling due | pulling item rest due => simp [cancel, settle, result?, hp]
  | holding r => simp [cancel, result?, hp]

theorem isConnected_cancel {a : Attempt} (h : ∀ u, a.result? ≠ some (.ok u)) :
    a.cancel.1.isConnected = false := by
  cases hp : a.phase with
  | queued | calling due | pulling item rest due | spent => simp [cancel, settle, isConnected, hp]
  | holding r =>
    cases r with
    | error e => simp [cancel, isConnected, hp]
    | ok u => exact absurd (by simp [result?, hp]) (h u)

theorem result?_cancel_ne_ok {a : Attempt} (h : ∀ u, a.result? ≠ some (.ok u)) (u : FirstUnit) :
    a.cancel.1.result? ≠ some (.ok u) := by
  cases hp : a.phase with
  | queued | calling due | pulling item rest due | spent => simp [cancel, settle, result?, hp]
  | holding r =>
    have hsame : a.cancel.1 = a := by simp [cancel, hp]
    rw [hsame]
    exact h u

end Attempt

namespace Pool

variable {p : Pool} {id : String} {x : Handle}

/-- Whether an operation makes a new attempt under an identifier. -/
def Operation.Renews (id : String) : Operation → Prop
  | .spawn id' _ _ => id' = id
  | _ => False

/-- Whether an operation takes the result of the attempt under an identifier, or throws it away. -/
def Operation.Takes (id : String) : Operation → Prop
  | .firstUnit id' | .drop id' => id' = id
  | _ => False

/-! ### Settled attempts -/

/-- What an operation may make of an attempt whose result it takes or does not take. -/
def Leaves (id : String) (a : Attempt) (op : Operation) (p : Pool) : Prop :=
  ∃ y, find? id p.handles = some y ∧ (y.attempt = a ∨ op.Takes id ∧ y.attempt = a.take)

private theorem find?_passTo_of_settled (hx : find? id p.handles = some x) (hs : x.attempt.IsSettled)
    (time : Nat) : find? id (p.passTo time).handles = some x := by
  rw [find?_passTo, hx, Option.map_some, hs.runUntil_eq]

private theorem start_of_settled (hx : find? id p.handles = some x) (hs : x.attempt.IsSettled) :
    p.start id = p := by
  rcases start_cases p id with ⟨-, hp⟩ | ⟨y, hy, hphase, -⟩
  · exact hp
  · rw [hx, Option.some.injEq] at hy
    exact absurd hphase (hy ▸ hs.ne_queued)

private theorem find?_start_of_settled (hx : find? id p.handles = some x) (hs : x.attempt.IsSettled)
    (id' : String) : find? id (p.start id').handles = some x := by
  rcases start_cases p id' with ⟨-, hp⟩ | ⟨y, hy, hphase, hp⟩
  · rwa [hp]
  · have hid : id ≠ id' := by
      rintro rfl
      rw [hx, Option.some.injEq] at hy
      exact hs.ne_queued (hy ▸ hphase)
    rw [hp]
    apply find?_passTo_of_settled _ hs
    rw [handles_record, find?_put_of_ne hid, hx]

private theorem find?_drop_of_ne {id' : String} (hid : id ≠ id') :
    find? id (p.drop id').2.handles = find? id p.handles := by
  unfold Pool.drop
  split
  · exact find?_put_of_ne hid _
  · rfl

/-- Whoever waits for a settled attempt gets its result, if it has not been taken. -/
theorem firstUnit_of_settled (hx : find? id p.handles = some x) (hs : x.attempt.IsSettled) :
    (p.firstUnit id).1 = x.attempt.result? := by
  rcases firstUnit_cases p id with ⟨hnone, -⟩ | ⟨time, y, hy, -, hp⟩
  · rw [start_of_settled hx hs, hx] at hnone
    cases hnone
  · rw [start_of_settled hx hs, find?_passTo_of_settled hx hs, Option.some.injEq] at hy
    rw [hp, hy]

private theorem leaves_firstUnit (hx : find? id p.handles = some x) (hs : x.attempt.IsSettled) (id' : String) :
    Leaves id x.attempt (.firstUnit id') (p.firstUnit id').2 := by
  have hstart := find?_start_of_settled hx hs id'
  rcases firstUnit_cases p id' with ⟨-, hp⟩ | ⟨time, y, hy, -, hp⟩
  · exact ⟨x, by rw [hp, hstart], .inl rfl⟩
  · have hpass := find?_passTo_of_settled hstart hs time
    -- the stream that may be held in the end does not concern the attempts
    have hhandles : (p.firstUnit id').2.handles = (((p.start id').passTo time).taken id' y).handles := by
      rw [hp]
      dsimp only
      split
      · exact handles_hold ..
      · rfl
    rw [Leaves, hhandles, taken]
    by_cases hid : id = id'
    · subst hid
      rw [hpass, Option.some.injEq] at hy
      exact ⟨_, find?_put_self .., .inr ⟨rfl, by rw [hy]⟩⟩
    · exact ⟨x, (find?_put_of_ne hid _).trans hpass, .inl rfl⟩

private theorem leaves_drop (hx : find? id p.handles = some x) (id' : String) :
    Leaves id x.attempt (.drop id') (p.drop id').2 := by
  by_cases hid : id = id'
  · subst hid
    unfold Pool.drop
    split
    · rename_i a ha
      rw [hx, Option.some.injEq] at ha
      exact ⟨_, find?_put_self .., .inr ⟨rfl, by rw [ha]; exact a.drop_eq_take⟩⟩
    · exact ⟨x, hx, .inl rfl⟩
  · exact ⟨x, (find?_drop_of_ne hid).trans hx, .inl rfl⟩

private theorem leaves_cancel (hx : find? id p.handles = some x) (hs : x.attempt.IsSettled) (id' : String) :
    Leaves id x.attempt (.cancel id') (p.cancel id').2 := by
  unfold Pool.cancel
  split
  · exact ⟨x, hx, .inl rfl⟩
  · rename_i y hy
    by_cases hid : id = id'
    · subst hid
      rw [hx, Option.some.injEq] at hy
      refine ⟨_, find?_put_self .., .inl ?_⟩
      rw [← hy]
      rcases hs with hp | ⟨r, hp⟩ <;> simp [hp]
    · exact ⟨x, (find?_put_of_ne hid _).trans hx, .inl rfl⟩

/-- An operation that makes no new attempt under its identifier leaves a settled attempt as it is, or takes its
result. -/
theorem leaves_act (hx : find? id p.handles = some x) (hs : x.attempt.IsSettled) {op : Operation}
    (hop : ¬op.Renews id) : Leaves id x.attempt op (p.act op) := by
  cases op with
  | firstUnit id' => exact leaves_firstUnit hx hs id'
  | drop id' => exact leaves_drop hx id'
  | cancel id' => exact leaves_cancel hx hs id'
  | start id' => exact ⟨x, find?_start_of_settled hx hs id', .inl rfl⟩
  | sleep ms => exact ⟨x, find?_passTo_of_settled hx hs _, .inl rfl⟩
  | execute b r => exact ⟨x, find?_passTo_of_settled hx hs _, .inl rfl⟩
  | spawn id' b r =>
    have hid : id ≠ id' := fun h => hop h.symm
    refine ⟨x, ?_, .inl rfl⟩
    exact (find?_put_of_ne hid _).trans ((find?_drop_of_ne hid).trans hx)
  | next id' =>
    refine ⟨x, ?_, .inl rfl⟩
    simp only [act, next]
    split
    · exact hx
    · exact find?_passTo_of_settled hx hs _
  | drain id' =>
    refine ⟨x, ?_, .inl rfl⟩
    simp only [act, drain]
    split
    · exact hx
    · exact find?_passTo_of_settled hx hs _
  | dropStream id' =>
    refine ⟨x, ?_, .inl rfl⟩
    rwa [act, handles_dropStream]
  | openStream id' b r =>
    have hpass := find?_passTo_of_settled (p := p.record [.called b.line r]) hx hs
      (p.now + (b.streamed r).latency)
    refine ⟨x, ?_, .inl rfl⟩
    simp only [act, openStream]
    split
    · rwa [handles_hold]
    · exact hpass
    · exact hpass

/-- Whatever is done afterwards, a settled attempt stays as it is until its result is taken. -/
theorem find?_run (hx : find? id p.handles = some x) (hs : x.attempt.IsSettled) {ops : List Operation}
    (hops : ∀ op ∈ ops, ¬op.Renews id) :
    ∃ y, find? id (p.run ops).handles = some y ∧
      (y.attempt = x.attempt ∨ (∃ op ∈ ops, op.Takes id) ∧ y.attempt = x.attempt.take) := by
  induction ops generalizing p x with
  | nil => exact ⟨x, hx, .inl rfl⟩
  | cons op ops ih =>
    obtain ⟨y, hy, hya⟩ := leaves_act hx hs (hops op (List.mem_cons_self ..))
    have hys : y.attempt.IsSettled := by
      rcases hya with hya | ⟨-, hya⟩ <;> rw [hya]
      · exact hs
      · exact x.attempt.isSettled_take
    obtain ⟨z, hz, hza⟩ := ih hy hys fun op hop => hops op (List.mem_cons_of_mem _ hop)
    refine ⟨z, hz, ?_⟩
    rcases hya with hya | ⟨htakes, hya⟩
    · rcases hza with hza | ⟨⟨op', hop', htakes'⟩, hza⟩
      · exact .inl (hza.trans hya)
      · exact .inr ⟨⟨op', List.mem_cons_of_mem _ hop', htakes'⟩, hza.trans (congrArg Attempt.take hya)⟩
    · have htaken : z.attempt = x.attempt.take := by
        rcases hza with hza | ⟨-, hza⟩
        · exact hza.trans hya
        · rw [hza, hya]
          rfl
      exact .inr ⟨⟨op, List.mem_cons_self .., htakes⟩, htaken⟩

/-! ### Cancellation -/

/-- An attempt that has given nothing out is cancelled, and whatever is done afterwards that makes no new attempt
in its place.  Then the first unit is the result that lay ready at the cancellation, or else the error of an
attempt that ended without one.  If no unit lay ready, the cancellation is final: the attempt has no part in the
connections that are open on any line, and it never gives a unit out. -/
theorem firstUnit_cancel {ops later : List Operation} (hx : find? id (empty.run ops).handles = some x)
    (hopen : x.attempt.phase ≠ .spent) (hlater : ∀ op ∈ later, ¬op.Renews id) :
    ∃ q y, ((empty.run ops).cancel id).2.run later = q ∧ find? id q.handles = some y ∧
      ((∀ op ∈ later, ¬op.Takes id) →
        (q.firstUnit id).1 = some (x.attempt.result?.getD (.error x.attempt.lost))) ∧
      (∀ line, (Traffic.openOn line q.log : Int) = q.connections line) ∧
      ((∀ u, x.attempt.result? ≠ some (.ok u)) →
        y.attempt.isConnected = false ∧ ∀ u, (q.firstUnit id).1 ≠ some (.ok u)) := by
  obtain ⟨z, hz, hza⟩ : ∃ z, find? id ((empty.run ops).cancel id).2.handles = some z ∧
      z.attempt = x.attempt.cancel.1 := by
    refine ⟨⟨x.attempt.cancel.1, x.isHeld⟩, ?_, rfl⟩
    simp only [Pool.cancel, hx]
    exact find?_put_self ..
  have hzs : z.attempt.IsSettled := hza ▸ x.attempt.isSettled_cancel
  obtain ⟨y, hy, hya⟩ := find?_run hz hzs hlater
  have hys : y.attempt.IsSettled := by
    rcases hya with hya | ⟨-, hya⟩ <;> rw [hya]
    · exact hzs
    · exact z.attempt.isSettled_take
  have hbal := ((isBalanced_empty.run ops).cancel id).run later
  have hunit := firstUnit_of_settled hy hys
  refine ⟨_, y, rfl, hy, ?_, ?_, ?_⟩
  · intro huntaken
    have hsame : y.attempt = z.attempt := by
      rcases hya with hya | ⟨⟨op, hop, htakes⟩, -⟩
      · exact hya
      · exact absurd htakes (huntaken op hop)
    rw [hunit, hsame, hza, Attempt.result?_cancel hopen]
  · exact hbal.openOn_eq
  · intro hnone
    rw [hunit]
    rcases hya with hya | ⟨-, hya⟩ <;> rw [hya, hza]
    · exact ⟨Attempt.isConnected_cancel hnone, Attempt.result?_cancel_ne_ok hnone⟩
    · exact ⟨rfl, nofun⟩

/-- A backend that begins a stream with a word after 10, and that says nothing further for a long time. -/
private def talker : Backend :=
  .scripted "talker" 0 10 .crash (.value [⟨0, .value (.content "hi")⟩, ⟨1000, .value (.terminal "stop" none)⟩])

private def toTalker : BackendRequest := ⟨"req", "talker", [], .free, true⟩

/-- The attempt is cancelled while its call is being answered. -/
theorem firstUnit_of_cancelled_early :
    let p := ((empty.run [.spawn "a" talker toTalker, .start "a"]).cancel "a").2.run [.sleep 50]
    (p.firstUnit "a").1 = some (.error (.unavailable "attempt against talker ended without a result")) ∧
    Traffic.openOn 0 p.log = 0 := by
  have hx : find? "a" (empty.run [.spawn "a" talker toTalker, .start "a"]).handles =
      some ⟨⟨talker, toTalker, .calling 10⟩, true⟩ := rfl
  have hlater : ∀ op ∈ [Operation.sleep 50], ¬op.Renews "a" := by simp [Operation.Renews]
  obtain ⟨q, y, rfl, -, hunit, hopen, -⟩ := firstUnit_cancel hx nofun hlater
  refine ⟨hunit (by simp [Operation.Takes]), ?_⟩
  have hnone : Pool.connections 0 (((empty.run [.spawn "a" talker toTalker, .start "a"]).cancel "a").2.run
      [.sleep 50]) = 0 := rfl
  exact Int.ofNat_inj.1 ((hopen 0).trans hnone)

/-- The attempt is cancelled when its first word lies ready: its connection stays open, and the word is given out
nevertheless. -/
theorem firstUnit_of_cancelled_late :
    let p := ((empty.run [.spawn "a" talker toTalker, .start "a", .sleep 50]).cancel "a").2
    (p.firstUnit "a").1 = some (.ok (.streamed (.content "hi") [⟨1000, .value (.terminal "stop" none)⟩])) ∧
    Traffic.openOn 0 p.log = 1 := ⟨rfl, rfl⟩

end Pool

end ChatRace
