import ChatRace.Proofs.Attempt.Alone

/-!
# First units

What an attempt comes to on its own, told by its backend alone: a call for a whole reply comes to the reply, and a
call for a stream to the first chunk of use, after the latency of the call and the delays of all items up to that
chunk (`Backend.firstUnit`).  An attempt whose stream ends before such a chunk has failed, and so has one that comes
to no result at all (`Attempt.alone_launch`).
-/

namespace ChatRace

open Chat

/-- The result of something a backend was asked for. -/
def Outcome.result (backend : String) : Outcome α → Except BackendError α
  | value a => .ok a
  | failure e => .error e
  | crash => .error (.unavailable ("attempt against " ++ backend ++ " ended without a result"))

theorem Outcome.result_eq_ok {backend : String} {o : Outcome α} {a : α} :
    o.result backend = .ok a ↔ o = .value a := by
  cases o <;> simp [result]

/-- What the items of a stream come to: the first chunk of use. -/
def firstOfUse (backend : String) : List Item → Course FirstUnit
  | [] => ⟨0, .failure (.invalidResponse (backend ++ " closed its stream before the first chunk"))⟩
  | i :: rest =>
    match i.outcome with
    | .value c =>
      if c.isUsable then ⟨i.delay, .value (.streamed c rest)⟩
      else ⟨i.delay + (firstOfUse backend rest).latency, (firstOfUse backend rest).outcome⟩
    | .failure e => ⟨i.delay, .failure e⟩
    | .crash => ⟨i.delay, .crash⟩

/-- What a request to a backend comes to. -/
def Backend.firstUnit (b : Backend) (r : BackendRequest) : Course FirstUnit :=
  if r.stream then
    let call := b.streamed r
    match call.outcome with
    | .value items =>
      ⟨call.latency + (firstOfUse b.name items).latency, (firstOfUse b.name items).outcome⟩
    | .failure e => ⟨call.latency, .failure e⟩
    | .crash => ⟨call.latency, .crash⟩
  else
    let call := b.buffered r
    match call.outcome with
    | .value reply => ⟨call.latency, .value (.buffered reply)⟩
    | .failure e => ⟨call.latency, .failure e⟩
    | .crash => ⟨call.latency, .crash⟩

namespace Attempt

private theorem alone_settle (now : Nat) (a : Attempt) (x : Except BackendError FirstUnit) :
    (a.settle x).1.alone now = some (now, x) :=
  alone_of_result rfl rfl now

/-- An attempt that pulls the items of a stream comes to what they come to. -/
theorem alone_pull (now : Nat) (a : Attempt) (items : List Item) :
    (a.pull now items).1.alone now = some (now + (firstOfUse a.backend.name items).latency,
      (firstOfUse a.backend.name items).outcome.result a.backend.name) := by
  induction items generalizing a now with
  | nil => exact alone_settle now a _
  | cons i rest ih =>
    -- the item comes after its delay, and what it comes to is told by the attempt that has pulled it
    have hdue : (a.pull now (i :: rest)).1.due? = some (now + i.delay) := rfl
    have hstep : (a.pull now (i :: rest)).1.step.1 =
        ((a.pull now (i :: rest)).1.arrived (now + i.delay) i rest).1 := rfl
    rw [alone_step hdue, hstep]
    cases ho : i.outcome with
    | failure e =>
      simp only [arrived, firstOfUse, ho]
      exact alone_settle _ _ _
    | crash =>
      simp only [arrived, firstOfUse, ho]
      exact alone_settle _ _ _
    | value c =>
      by_cases hc : c.isUsable = true
      · simp only [arrived, firstOfUse, ho, hc, if_true]
        exact alone_of_result rfl rfl _
      · have hrest := ih (now + i.delay) (a.pull now (i :: rest)).1
        simp only [arrived, firstOfUse, ho, hc]
        rw [Nat.add_assoc] at hrest
        exact hrest

/-- An attempt that nobody stops comes to what its backend makes of the request. -/
theorem alone_launch (b : Backend) (r : BackendRequest) (now : Nat) :
    ((create b r).launch now).1.alone now =
      some (now + (b.firstUnit r).latency, (b.firstUnit r).outcome.result b.name) := by
  have hdue : ((create b r).launch now).1.due? = some (now + (create b r).latency) := rfl
  have hstep : ((create b r).launch now).1.step.1 =
      (((create b r).launch now).1.answered (now + (create b r).latency)).1 := rfl
  rw [alone_step hdue, hstep]
  have hbackend : ((create b r).launch now).1.backend = b := rfl
  have hrequest : ((create b r).launch now).1.request = r := rfl
  cases hmode : r.stream with
  | true =>
    have hlatency : (create b r).latency = (b.streamed r).latency := by simp [latency, create, hmode]
    simp only [answered, Backend.firstUnit, hbackend, hrequest, hmode, hlatency, if_true]
    cases ho : (b.streamed r).outcome with
    | value items =>
      rw [← Nat.add_assoc]
      exact alone_pull _ _ items
    | failure e => exact alone_settle _ _ _
    | crash => exact alone_settle _ _ _
  | false =>
    have hlatency : (create b r).latency = (b.buffered r).latency := by simp [latency, create, hmode]
    simp only [answered, Backend.firstUnit, hbackend, hrequest, hmode, hlatency, Bool.false_eq_true, if_false]
    cases ho : (b.buffered r).outcome with
    | value reply => exact alone_settle _ _ _
    | failure e => exact alone_settle _ _ _
    | crash => exact alone_settle _ _ _

end Attempt

end ChatRace
