import ChatRace.Attempt.Pool
import ChatRace.Proofs.Race.Connections

/-!
# Accounts of a pool

Whatever is done to a pool, and in whatever order, the connections that are open on a line are those of the
attempts and of the streams in it (`IsBalanced.run`, `IsBalanced.openOn_eq`).  `excess` is what is open beyond
that; each operation is made of a few that change it by what they say (`excess_record`, `excess_passTo`,
`excess_putHandle`, `excess_hold`), and the whole of an operation changes nothing.
-/

namespace ChatRace

open Chat

/-! ### Steps until a time -/

namespace Attempt

theorem balance_stepUntil (time steps : Nat) (a : Attempt) (line : Nat) :
    Traffic.balance line (a.stepUntil time steps).2 + a.connections line =
      (a.stepUntil time steps).1.connections line := by
  induction steps generalizing a with
  | zero => simp [stepUntil]
  | succ steps ih =>
    cases hd : a.due? with
    | none => simp [stepUntil, hd]
    | some d =>
      by_cases hle : d ≤ time
      · have hstep := balance_step hd line
        have hrest := ih a.step.1
        simp only [stepUntil, hd, hle, if_true, Traffic.balance_append]
        omega
      · simp [stepUntil, hd, hle]

theorem stepUntil_of_not_due {a : Attempt} (h : a.due? = none) (time steps : Nat) :
    a.stepUntil time steps = (a, []) := by
  cases steps <;> simp [stepUntil, h]

/-- The number of steps that are allowed does not matter if there are enough. -/
theorem stepUntil_of_work_le {n m time : Nat} {a : Attempt} (hn : a.work ≤ n) (hm : a.work ≤ m) :
    a.stepUntil time n = a.stepUntil time m := by
  induction n generalizing m a with
  | zero =>
    have h : a.due? = none := by
      cases h : a.due? with
      | none => rfl
      | some d =>
        have := work_pos h
        omega
    rw [stepUntil_of_not_due h, stepUntil_of_not_due h]
  | succ n ih =>
    cases h : a.due? with
    | none => rw [stepUntil_of_not_due h, stepUntil_of_not_due h]
    | some d =>
      have hlt := step_work_lt h
      obtain ⟨m, rfl⟩ : ∃ k, m = k + 1 := ⟨m - 1, by omega⟩
      have hrest : a.step.1.stepUntil time n = a.step.1.stepUntil time m := ih (by omega) (by omega)
      simp only [stepUntil, h, hrest]

theorem runUntil_of_due {a : Attempt} {d : Nat} (h : a.due? = some d) (time : Nat) :
    a.runUntil time =
      if d ≤ time then ((a.step.1.runUntil time).1, a.step.2 ++ (a.step.1.runUntil time).2) else (a, []) := by
  have hlt := step_work_lt h
  obtain ⟨k, hk⟩ : ∃ k, a.work = k + 1 := ⟨a.work - 1, by omega⟩
  have henough : a.step.1.stepUntil time k = a.step.1.runUntil time :=
    stepUntil_of_work_le (by omega) (Nat.le_refl _)
  simp only [runUntil, hk, stepUntil, h]
  rw [henough, runUntil]

/-- An attempt that takes all steps until it has a result has the result then. -/
theorem result?_runUntil {a : Attempt} {now t : Nat} {x : Except BackendError FirstUnit}
    (h : a.alone now = some (t, x)) : (a.runUntil t).1.result? = some x := by
  induction hw : a.work using Nat.strongRecOn generalizing a now with
  | ind n ih =>
    cases hd : a.due? with
    | none =>
      obtain ⟨y, hy, -⟩ : ∃ y, a.result? = some y ∧ y = x := by
        cases hr : a.result? with
        | none =>
          have hnone : a.alone now = none := by
            rw [alone]
            cases a.work <;> simp [resultWithin, hd, hr]
          rw [hnone] at h
          exact absurd h.symm (Option.some_ne_none _)
        | some y =>
          rw [alone_of_result hd hr] at h
          exact ⟨y, rfl, (Prod.mk.inj (Option.some.inj h)).2⟩
      rw [alone_of_result hd hy] at h
      rw [runUntil, stepUntil_of_not_due hd, hy, (Prod.mk.inj (Option.some.inj h)).2]
    | some d =>
      have hle := due_le_alone hd h
      have hlt := step_work_lt hd
      rw [alone_step hd] at h
      rw [runUntil_of_due hd, if_pos hle]
      exact ih a.step.1.work (hw ▸ hlt) h rfl

/-- A call that has been made stays made. -/
theorem stepUntil_ne_queued {a : Attempt} (h : a.phase ≠ .queued) (time steps : Nat) :
    (a.stepUntil time steps).1.phase ≠ .queued := by
  induction steps generalizing a with
  | zero => exact h
  | succ steps ih =>
    cases hd : a.due? with
    | none => rwa [stepUntil_of_not_due hd]
    | some d =>
      simp only [stepUntil, hd]
      split
      · apply ih
        rcases step_cases hd with ⟨i, rest, e⟩ | ⟨c, rest, e⟩ | ⟨r, -, e⟩ <;> simp [e]
      · exact h

theorem connections_of_not_connected {a : Attempt} (h : a.isConnected = false) (line : Nat) :
    a.connections line = 0 := by
  simp [connections, h]

theorem drop_eq_take (a : Attempt) : a.drop.1 = a.take := by
  unfold drop
  split <;> rfl

theorem isConnected_drop (a : Attempt) : a.drop.1.isConnected = false := by
  rw [drop_eq_take]
  rfl

theorem balance_cancel (a : Attempt) (line : Nat) :
    Traffic.balance line a.cancel.2 + a.connections line = a.cancel.1.connections line := by
  have hrel : Traffic.balance line [.released a.backend.line] +
      (if a.backend.line = line then 1 else 0) = 0 := by
    rw [Traffic.balance_released]
    split <;> rfl
  unfold cancel
  cases hp : a.phase with
  | queued => simp [connections, isConnected, hp]
  | calling due => simpa [connections, isConnected, hp, settle] using hrel
  | pulling item rest due => simpa [connections, isConnected, hp, settle] using hrel
  | holding result => simp
  | spent => simp

end Attempt

namespace Stream

/-- A pull changes the balance by the connection that ends with it, if one does. -/
theorem balance_next (now : Nat) (s : Stream) (line : Nat) :
    Traffic.balance line (s.next now).2.2 + s.connections line = (s.next now).2.1.connections line := by
  rcases s.next_cases now with ⟨d, rest, e⟩ | ⟨s', log, e, hclosed, hlog⟩
  · simp [e, connections]
  · have hdrop := s.balance_drop line
    have hnone : s'.connections line = 0 := by simp [connections, hclosed]
    simp only [e, hnone]
    rcases hlog with rfl | rfl
    · exact hdrop
    · rw [← List.singleton_append, Traffic.balance_append, Traffic.balance_pulled, Int.zero_add]
      exact hdrop

theorem balance_readAtMost (now : Nat) (s : Stream) (count line : Nat) :
    Traffic.balance line (s.readAtMost now count).log + s.connections line =
      (s.readAtMost now count).stream.connections line := by
  induction count generalizing now s with
  | zero => simp [readAtMost]
  | succ count ih =>
    have hnext := s.balance_next now line
    rcases hn : s.next now with ⟨_ | d, s', log⟩
    · simpa only [readAtMost, hn] using hnext
    · have hrest := ih d.time s'
      simp only [hn] at hnext
      simp only [readAtMost, hn, Traffic.balance_append]
      omega

end Stream

namespace Pool

/-! ### What is stored under identifiers -/

section Store

variable {xs : List (String × α)} {id id' : String}

@[simp] theorem find?_put_self (id : String) (a : α) (xs : List (String × α)) :
    find? id (put id a xs) = some a := by
  simp [find?, put]

theorem find?_filter_of_ne (h : id ≠ id') : find? id (xs.filter (·.1 != id')) = find? id xs := by
  have hsame : (fun x : String × α => decide ((x.1 != id') = true ∧ (x.1 == id) = true)) =
      fun x => x.1 == id := by
    funext x
    by_cases hx : x.1 = id
    · simp [hx, h]
    · simp [hx]
  simp only [find?, List.find?_filter, hsame]

theorem find?_put_of_ne (h : id ≠ id') (a : α) : find? id (put id' a xs) = find? id xs := by
  have hne : (id' == id) = false := by simpa using h.symm
  have hput : find? id (put id' a xs) = find? id (xs.filter (·.1 != id')) := by
    simp only [find?, put, List.find?_cons, hne]
  rw [hput, find?_filter_of_ne h]

theorem find?_map (f : α → β) (id : String) (xs : List (String × α)) :
    find? id (xs.map fun x => (x.1, f x.2)) = (find? id xs).map f := by
  induction xs with
  | nil => rfl
  | cons x xs ih =>
    cases hx : x.1 == id with
    | true => simp [find?, hx]
    | false => simpa [find?, hx] using ih

theorem nodup_filter (h : (xs.map (·.1)).Nodup) (id : String) :
    ((xs.filter (·.1 != id)).map (·.1)).Nodup :=
  h.sublist (List.filter_sublist.map _)

theorem nodup_put (h : (xs.map (·.1)).Nodup) (id : String) (a : α) : ((put id a xs).map (·.1)).Nodup := by
  simp only [put, List.map_cons, List.nodup_cons]
  refine ⟨?_, nodup_filter h id⟩
  simp

/-- Without what is stored under an identifier, a sum is less by that. -/
theorem sum_filter (h : (xs.map (·.1)).Nodup) (id : String) (f : α → Int) :
    ((xs.filter (·.1 != id)).map fun x => f x.2).sum + (find? id xs).elim 0 f =
      (xs.map fun x => f x.2).sum := by
  induction xs with
  | nil => rfl
  | cons x xs ih =>
    rw [List.map_cons, List.nodup_cons] at h
    by_cases hx : x.1 = id
    · -- what is stored under the identifier stands first, and nothing else is stored under it
      have hrest : xs.filter (·.1 != id) = xs := by
        refine List.filter_eq_self.2 fun y hy => ?_
        have hne : y.1 ≠ id := fun hyx => h.1 (hx ▸ hyx ▸ List.mem_map_of_mem hy)
        simpa using hne
      simp only [List.filter_cons, hx, bne_self_eq_false, Bool.false_eq_true, if_false, hrest, find?,
        List.find?_cons, BEq.rfl, Option.map_some, Option.elim_some, List.map_cons, List.sum_cons]
      omega
    · have hne : (x.1 != id) = true := by simpa using hx
      have hfind : find? id (x :: xs) = find? id xs := by
        have : (x.1 == id) = false := by simpa using hx
        simp [find?, this]
      have := ih h.2
      simp only [List.filter_cons, hne, if_true, hfind, List.map_cons, List.sum_cons]
      omega

theorem sum_put (h : (xs.map (·.1)).Nodup) (id : String) (a : α) (f : α → Int) :
    ((put id a xs).map fun x => f x.2).sum + (find? id xs).elim 0 f =
      f a + (xs.map fun x => f x.2).sum := by
  have := sum_filter h id f
  simp only [put, List.map_cons, List.sum_cons]
  omega

end Store

/-! ### What is open beyond what is held -/

/-- The connections that the attempts and the streams of a pool hold on a line. -/
def connections (line : Nat) (p : Pool) : Int :=
  (p.handles.map fun x => x.2.attempt.connections line).sum + (p.streams.map fun x => x.2.connections line).sum

/-- What is open on a line beyond what the attempts and the streams of a pool hold. -/
def excess (line : Nat) (p : Pool) : Int := Traffic.balance line p.log - p.connections line

/-- Everything in a pool has an identifier of its own. -/
structure IsDistinct (p : Pool) : Prop where
  handles : (p.handles.map (·.1)).Nodup
  streams : (p.streams.map (·.1)).Nodup

variable {p : Pool}

theorem record_nil (p : Pool) : p.record [] = p := by
  simp [record]

@[simp] theorem handles_record (p : Pool) (log : List Traffic) : (p.record log).handles = p.handles := rfl

theorem isDistinct_passTo (h : p.IsDistinct) (time : Nat) : (p.passTo time).IsDistinct := by
  refine ⟨?_, h.streams⟩
  have hids : (p.passTo time).handles.map (·.1) = p.handles.map (·.1) := by
    simp [passTo, Function.comp_def]
  rw [hids]
  exact h.handles

theorem excess_record (p : Pool) (log : List Traffic) (line : Nat) :
    (p.record log).excess line = p.excess line + Traffic.balance line log := by
  have hsame : (p.record log).connections line = p.connections line := rfl
  have hlog : (p.record log).log = p.log ++ log := rfl
  simp only [excess, hsame, hlog, Traffic.balance_append]
  omega

theorem excess_passTo (p : Pool) (time line : Nat) : (p.passTo time).excess line = p.excess line := by
  have key : ∀ hs : List (String × Handle),
      Traffic.balance line (hs.flatMap fun x => (x.2.attempt.runUntil time).2) +
        (hs.map fun x => x.2.attempt.connections line).sum =
      (hs.map fun x => (x.2.attempt.runUntil time).1.connections line).sum := by
    intro hs
    induction hs with
    | nil => rfl
    | cons x hs ih =>
      have hx := x.2.attempt.balance_stepUntil time x.2.attempt.work line
      simp only [Attempt.runUntil] at ih ⊢
      simp only [List.flatMap_cons, List.map_cons, List.sum_cons, Traffic.balance_append]
      omega
  have hlog : Traffic.balance line (p.passTo time).log = Traffic.balance line p.log +
      Traffic.balance line (p.handles.flatMap fun x => (x.2.attempt.runUntil time).2) := by
    simp [passTo]
  have hconn : (p.passTo time).connections line =
      (p.handles.map fun x => (x.2.attempt.runUntil time).1.connections line).sum +
        (p.streams.map fun x => x.2.connections line).sum := by
    simp [passTo, connections, Function.comp_def]
  have := key p.handles
  simp only [excess, hlog, hconn]
  simp only [connections]
  omega

theorem excess_putHandle (h : p.IsDistinct) (id : String) (x : Handle) (line : Nat) :
    ({ p with handles := put id x p.handles } : Pool).excess line + x.attempt.connections line =
      p.excess line + (find? id p.handles).elim 0 (·.attempt.connections line) := by
  have hsum := sum_put h.handles id x fun x => x.attempt.connections line
  simp only [excess, connections]
  omega

theorem excess_putStream (h : p.IsDistinct) (id : String) (s : Stream) (line : Nat) :
    ({ p with streams := put id s p.streams } : Pool).excess line + s.connections line =
      p.excess line + (find? id p.streams).elim 0 (·.connections line) := by
  have hsum := sum_put h.streams id s fun s => s.connections line
  simp only [excess, connections]
  omega

theorem isDistinct_putHandle (h : p.IsDistinct) (id : String) (x : Handle) :
    ({ p with handles := put id x p.handles } : Pool).IsDistinct :=
  ⟨nodup_put h.handles id x, h.streams⟩

theorem isDistinct_putStream (h : p.IsDistinct) (id : String) (s : Stream) :
    ({ p with streams := put id s p.streams } : Pool).IsDistinct :=
  ⟨h.handles, nodup_put h.streams id s⟩

/-! ### Streams -/

@[simp] theorem handles_dropStream (id : String) (p : Pool) : (p.dropStream id).2.handles = p.handles := by
  unfold dropStream
  split <;> rfl

@[simp] theorem handles_hold (id : String) (s : Stream) (p : Pool) : (p.hold id s).handles = p.handles :=
  handles_dropStream id p

theorem dropStream_cases (id : String) (p : Pool) (h : p.IsDistinct) :
    (p.dropStream id).2.IsDistinct ∧ find? id (p.dropStream id).2.streams = none ∧
      ∀ line, (p.dropStream id).2.excess line = p.excess line := by
  unfold dropStream
  cases hs : find? id p.streams with
  | none => exact ⟨h, hs, fun _ => rfl⟩
  | some s =>
    refine ⟨⟨h.handles, nodup_filter h.streams id⟩, ?_, fun line => ?_⟩
    · simp [find?, record]
    · have hsum := sum_filter h.streams id fun s => s.connections line
      have hdrop := s.balance_drop line
      rw [hs, Option.elim_some] at hsum
      simp only [excess_record]
      simp only [excess, connections]
      omega

/-- A stream that is held from now on holds its connection. -/
theorem excess_hold (h : p.IsDistinct) (id : String) (s : Stream) :
    (p.hold id s).IsDistinct ∧ ∀ line, (p.hold id s).excess line + s.connections line = p.excess line := by
  obtain ⟨hd, hnone, hexcess⟩ := dropStream_cases id p h
  refine ⟨isDistinct_putStream hd id s, fun line => ?_⟩
  have hput := excess_putStream hd id s line
  rw [hnone, Option.elim_none, hexcess] at hput
  simpa only [hold] using hput.trans (by omega)

/-! ### Operations -/

/-- What can be done to a pool. -/
inductive Operation where
  | spawn (id : String) (b : Backend) (r : BackendRequest)
  | start (id : String)
  | firstUnit (id : String)
  | cancel (id : String)
  | drop (id : String)
  | next (id : String)
  | drain (id : String)
  | dropStream (id : String)
  | execute (b : Backend) (r : BackendRequest)
  | openStream (id : String) (b : Backend) (r : BackendRequest)
  | sleep (ms : Nat)

/-- Does something to a pool. -/
def act (p : Pool) : Operation → Pool
  | .spawn id b r => p.spawn id b r
  | .start id => p.start id
  | .firstUnit id => (p.firstUnit id).2
  | .cancel id => (p.cancel id).2
  | .drop id => (p.drop id).2
  | .next id => (p.next id).2
  | .drain id => (p.drain id).2
  | .dropStream id => (p.dropStream id).2
  | .execute b r => (p.execute b r).2
  | .openStream id b r => (p.openStream id b r).2
  | .sleep ms => p.sleep ms

/-- Does some things to a pool, one after another. -/
def run (p : Pool) (ops : List Operation) : Pool := ops.foldl act p

/-- The connections that are open are those of the attempts and of the streams, and an attempt whose handle has
been dropped has no part in it. -/
structure IsBalanced (p : Pool) : Prop where
  distinct : p.IsDistinct
  excess_eq : ∀ line, p.excess line = 0
  dropped : ∀ id x, find? id p.handles = some x → x.isHeld = false → x.attempt.phase = .spent

theorem find?_passTo (p : Pool) (time : Nat) (id : String) :
    find? id (p.passTo time).handles =
      (find? id p.handles).map fun x => ⟨(x.attempt.runUntil time).1, x.isHeld⟩ :=
  find?_map (fun x : Handle => (⟨(x.attempt.runUntil time).1, x.isHeld⟩ : Handle)) id p.handles

private theorem dropped_passTo
    (h : ∀ id x, find? id p.handles = some x → x.isHeld = false → x.attempt.phase = .spent) (time : Nat) :
    ∀ id x, find? id (p.passTo time).handles = some x → x.isHeld = false → x.attempt.phase = .spent := by
  intro id x hx hheld
  rw [find?_passTo] at hx
  obtain ⟨y, hy, rfl⟩ := Option.map_eq_some_iff.1 hx
  have hspent := h id y hy hheld
  have hdue : y.attempt.due? = none := by simp [Attempt.due?, hspent]
  simpa only [Attempt.runUntil, Attempt.stepUntil_of_not_due hdue] using hspent

theorem IsBalanced.passTo (h : p.IsBalanced) (time : Nat) : (p.passTo time).IsBalanced :=
  ⟨isDistinct_passTo h.distinct time, fun line => (excess_passTo p time line).trans (h.excess_eq line),
    dropped_passTo h.dropped time⟩

/-- An attempt takes the place of another, and the log says how the connections change. -/
theorem IsBalanced.replace (h : p.IsBalanced) (id : String) (y : Handle) {log : List Traffic}
    (hlog : ∀ line, Traffic.balance line log + (find? id p.handles).elim 0 (·.attempt.connections line) =
      y.attempt.connections line)
    (hdropped : y.isHeld = false → y.attempt.phase = .spent) :
    (({ p with handles := put id y p.handles } : Pool).record log).IsBalanced := by
  have hd := isDistinct_putHandle h.distinct id y
  refine ⟨⟨hd.handles, hd.streams⟩, fun line => ?_, ?_⟩
  · have hput := excess_putHandle h.distinct id y line
    have hbal := hlog line
    have hzero := h.excess_eq line
    rw [excess_record]
    omega
  · intro id' x hx hheld
    have hx : find? id' (put id y p.handles) = some x := hx
    by_cases hid : id' = id
    · subst hid
      rw [find?_put_self, Option.some.injEq] at hx
      exact hx ▸ hdropped (hx ▸ hheld)
    · rw [find?_put_of_ne hid] at hx
      exact h.dropped id' x hx hheld

theorem IsBalanced.drop (h : p.IsBalanced) (id : String) : (p.drop id).2.IsBalanced := by
  unfold Pool.drop
  split
  · rename_i a hx
    refine h.replace id _ (fun line => ?_) fun _ => ?_
    · rw [hx, Option.elim_some, Attempt.connections_of_not_connected a.isConnected_drop]
      exact a.balance_drop line
    · rw [Attempt.drop_eq_take]
      rfl
  · exact h

/-- What is stored behind a drop has no connection. -/
theorem IsBalanced.not_connected_drop (h : p.IsBalanced) {id : String} {x : Handle}
    (hx : find? id (p.drop id).2.handles = some x) : x.attempt.isConnected = false := by
  unfold Pool.drop at hx
  split at hx
  · rename_i a _
    have hx : find? id (put id ⟨a.drop.1, false⟩ p.handles) = some x := hx
    rw [find?_put_self, Option.some.injEq] at hx
    exact hx ▸ a.isConnected_drop
  · rename_i hnot
    have hheld : x.isHeld = false := by
      cases hheld : x.isHeld with
      | false => rfl
      | true =>
        obtain ⟨a, held⟩ := x
        subst hheld
        exact absurd hx (hnot a)
    have hspent := h.dropped id x hx hheld
    simp [Attempt.isConnected, hspent]

theorem IsBalanced.spawn (h : p.IsBalanced) (id : String) (b : Backend) (r : BackendRequest) :
    (p.spawn id b r).IsBalanced := by
  have hqueued (line : Nat) : (Attempt.create b r).connections line = 0 := rfl
  have hlog (line : Nat) : Traffic.balance line [] +
      (find? id (p.drop id).2.handles).elim 0 (·.attempt.connections line) =
        (Attempt.create b r).connections line := by
    cases hx : find? id (p.drop id).2.handles with
    | none => rfl
    | some x => simp [Attempt.connections_of_not_connected (h.not_connected_drop hx), hqueued]
  have hspawned := (h.drop id).replace id ⟨.create b r, true⟩ hlog nofun
  rwa [record_nil] at hspawned

theorem start_cases (p : Pool) (id : String) :
    ((∀ x, find? id p.handles = some x → x.attempt.phase ≠ .queued) ∧ p.start id = p) ∨
    ∃ x, find? id p.handles = some x ∧ x.attempt.phase = .queued ∧
      p.start id = (({ p with handles := put id ⟨(x.attempt.launch p.now).1, x.isHeld⟩ p.handles } : Pool).record
        (x.attempt.launch p.now).2).passTo p.now := by
  unfold Pool.start
  cases hx : find? id p.handles with
  | none => exact .inl ⟨by simp, rfl⟩
  | some x =>
    cases hp : x.attempt.phase with
    | queued => exact .inr ⟨x, rfl, hp, by simp only [hp, settle]; rfl⟩
    | calling due | pulling item rest due | holding r | spent => exact .inl ⟨by simp [hp], by simp only [hp]⟩

theorem IsBalanced.start (h : p.IsBalanced) (id : String) : (p.start id).IsBalanced := by
  rcases start_cases p id with ⟨-, hp⟩ | ⟨x, hx, hphase, hp⟩
  · rwa [hp]
  · rw [hp]
    refine (h.replace id _ (fun line => ?_) ?_).passTo _
    · rw [hx, Option.elim_some]
      simp [Attempt.launch, hphase, Attempt.connections, Attempt.isConnected, Traffic.balance_called]
    · intro hheld
      have hspent := h.dropped id x hx hheld
      rw [hphase] at hspent
      cases hspent

/-- Behind the start of an attempt its call has been made. -/
theorem ne_queued_start {id : String} {x : Handle} (hx : find? id (p.start id).handles = some x) :
    x.attempt.phase ≠ .queued := by
  rcases start_cases p id with ⟨hnot, hp⟩ | ⟨y, -, hphase, hp⟩
  · rw [hp] at hx
    exact hnot x hx
  · rw [hp, find?_passTo, handles_record, find?_put_self, Option.map_some, Option.some.injEq] at hx
    rw [← hx]
    apply Attempt.stepUntil_ne_queued
    simp [Attempt.launch, hphase]

/-- The pool with the attempt under an identifier as it is once its result has been taken. -/
def taken (id : String) (x : Handle) (p : Pool) : Pool :=
  { p with handles := put id ⟨x.attempt.take, x.isHeld⟩ p.handles }

/-- Whoever waits for an attempt takes its result once it has one, and holds the stream that comes with it. -/
theorem firstUnit_cases (p : Pool) (id : String) :
    (find? id (p.start id).handles = none ∧ p.firstUnit id = (none, p.start id)) ∨
    ∃ (time : Nat) (x : Handle), find? id ((p.start id).passTo time).handles = some x ∧
      (x.attempt.phase = .spent ∨ ∃ r, x.attempt.phase = .holding r) ∧
      p.firstUnit id = (x.attempt.result?,
        match x.attempt.result? with
        | some (.ok (.streamed _ rest)) =>
          (((p.start id).passTo time).taken id x).hold id (.held x.attempt.backend.line rest)
        | _ => ((p.start id).passTo time).taken id x) := by
  cases hy : find? id (p.start id).handles with
  | none => exact .inl ⟨rfl, by simp only [firstUnit, hy]⟩
  | some y =>
    obtain ⟨time, htime⟩ : ∃ time, ((y.attempt.alone (p.start id).now).map (·.1)).getD (p.start id).now = time :=
      ⟨_, rfl⟩
    have hx : find? id ((p.start id).passTo time).handles = some ⟨(y.attempt.runUntil time).1, y.isHeld⟩ := by
      rw [find?_passTo, hy, Option.map_some]
    refine .inr ⟨time, _, hx, ?_, ?_⟩
    · have hbegun := ne_queued_start hy
      have hsettled : y.attempt.due? = none → (y.attempt.runUntil time).1.phase = y.attempt.phase := fun hd => by
        rw [Attempt.runUntil, Attempt.stepUntil_of_not_due hd]
      have hheld {d : Nat} (hd : y.attempt.due? = some d) :
          ∃ r, (y.attempt.runUntil time).1.phase = .holding r := by
        obtain ⟨t, r, ha, -⟩ := Attempt.alone_of_due hd (p.start id).now
        rw [ha] at htime
        obtain rfl : t = time := htime
        exact ⟨r, Attempt.result?_eq_some.1 (Attempt.result?_runUntil ha)⟩
      cases hp : y.attempt.phase with
      | queued => exact absurd hp hbegun
      | calling due => exact .inr (hheld (d := due) (by simp [Attempt.due?, hp]))
      | pulling item rest due => exact .inr (hheld (d := due) (by simp [Attempt.due?, hp]))
      | holding r => exact .inr ⟨r, (hsettled (by simp [Attempt.due?, hp])).trans hp⟩
      | spent => exact .inl ((hsettled (by simp [Attempt.due?, hp])).trans hp)
    · simp only [firstUnit, hy, htime, hx]
      split <;> simp_all [taken]

/-- Nothing but the connection of its result goes with an attempt whose result is taken. -/
private theorem IsBalanced.taken (h : p.IsBalanced) {id : String} {x : Handle}
    (hx : find? id p.handles = some x) :
    (p.taken id x).IsDistinct ∧ (∀ line, (p.taken id x).excess line = x.attempt.connections line) ∧
      ∀ id' y, find? id' (p.taken id x).handles = some y → y.isHeld = false → y.attempt.phase = .spent := by
  refine ⟨isDistinct_putHandle h.distinct id _, fun line => ?_, ?_⟩
  · have hput := excess_putHandle h.distinct id ⟨x.attempt.take, x.isHeld⟩ line
    have hnone : x.attempt.take.connections line = 0 := rfl
    rw [hx, Option.elim_some, h.excess_eq, hnone] at hput
    simpa [Pool.taken] using hput
  · intro id' y hy hheld
    by_cases hid : id' = id
    · subst hid
      rw [Pool.taken, find?_put_self, Option.some.injEq] at hy
      exact hy ▸ rfl
    · rw [Pool.taken, find?_put_of_ne hid] at hy
      exact h.dropped id' y hy hheld

/-- A stream whose connection was open beyond what is held is held. -/
private theorem isBalanced_hold {s : Stream} (hd : p.IsDistinct)
    (hexcess : ∀ line, p.excess line = s.connections line)
    (hdropped : ∀ id x, find? id p.handles = some x → x.isHeld = false → x.attempt.phase = .spent) (id : String) :
    (p.hold id s).IsBalanced := by
  obtain ⟨hd', hhold⟩ := excess_hold hd id s
  refine ⟨hd', fun line => ?_, fun id' x hx => hdropped id' x (handles_hold id s p ▸ hx)⟩
  have := hhold line
  rw [hexcess line] at this
  omega

theorem IsBalanced.firstUnit (h : p.IsBalanced) (id : String) : (p.firstUnit id).2.IsBalanced := by
  rcases firstUnit_cases p id with ⟨-, hp⟩ | ⟨time, x, hx, hphase, hp⟩
  · rw [hp]
    exact h.start id
  · obtain ⟨hd, hexcess, hdropped⟩ := ((h.start id).passTo time).taken hx
    rw [hp]
    -- only the beginning of a stream comes with a connection, and then the stream is held
    rcases hphase with hphase | ⟨r, hphase⟩
    · have hnone : x.attempt.isConnected = false := by simp [Attempt.isConnected, hphase]
      simp only [Attempt.result?, hphase]
      exact ⟨hd, fun line => (hexcess line).trans (Attempt.connections_of_not_connected hnone line), hdropped⟩
    · simp only [Attempt.result?, hphase]
      split
      · rename_i c rest heq
        obtain rfl := Option.some.inj heq
        refine isBalanced_hold hd (fun line => (hexcess line).trans ?_) hdropped id
        simp [Attempt.connections, Attempt.isConnected, hphase, Stream.connections, Stream.held]
      · rename_i hnot
        have hnone : x.attempt.isConnected = false := by
          unfold Attempt.isConnected
          rw [hphase]
          split <;> simp_all
        exact ⟨hd, fun line => (hexcess line).trans (Attempt.connections_of_not_connected hnone line), hdropped⟩

theorem IsBalanced.cancel (h : p.IsBalanced) (id : String) : (p.cancel id).2.IsBalanced := by
  unfold Pool.cancel
  split
  · exact h
  · rename_i x hx
    refine h.replace id _ (fun line => ?_) fun hheld => ?_
    · rw [hx, Option.elim_some]
      exact x.attempt.balance_cancel line
    · have hspent := h.dropped id x hx hheld
      simp [Attempt.cancel, hspent]

theorem IsBalanced.dropStream (h : p.IsBalanced) (id : String) : (p.dropStream id).2.IsBalanced := by
  obtain ⟨hd, -, hexcess⟩ := dropStream_cases id p h.distinct
  exact ⟨hd, fun line => (hexcess line).trans (h.excess_eq line),
    fun id' x hx => h.dropped id' x (handles_dropStream id p ▸ hx)⟩

/-- A stream takes the place of another, and the log says how the connections change. -/
private theorem IsBalanced.replaceStream (h : p.IsBalanced) {id : String} {s : Stream}
    (hs : find? id p.streams = some s) (t : Stream) {log : List Traffic}
    (hlog : ∀ line, Traffic.balance line log + s.connections line = t.connections line) :
    (({ p with streams := put id t p.streams } : Pool).record log).IsBalanced := by
  have hd := isDistinct_putStream h.distinct id t
  refine ⟨⟨hd.handles, hd.streams⟩, fun line => ?_, h.dropped⟩
  have hput := excess_putStream h.distinct id t line
  have hbal := hlog line
  rw [hs, Option.elim_some, h.excess_eq] at hput
  rw [excess_record]
  omega

theorem IsBalanced.next (h : p.IsBalanced) (id : String) : (p.next id).2.IsBalanced := by
  unfold Pool.next
  split
  · exact h
  · rename_i s hs
    exact (h.replaceStream hs _ fun line => s.balance_next p.now line).passTo _

theorem IsBalanced.drain (h : p.IsBalanced) (id : String) : (p.drain id).2.IsBalanced := by
  unfold Pool.drain
  split
  · exact h
  · rename_i s hs
    exact (h.replaceStream hs _ fun line => s.balance_readAtMost p.now _ line).passTo _

theorem IsBalanced.record (h : p.IsBalanced) {log : List Traffic} (hlog : ∀ line, Traffic.balance line log = 0) :
    (p.record log).IsBalanced :=
  ⟨⟨h.distinct.handles, h.distinct.streams⟩,
    fun line => by rw [excess_record, h.excess_eq, hlog, Int.zero_add], h.dropped⟩

theorem IsBalanced.execute (h : p.IsBalanced) (b : Backend) (r : BackendRequest) :
    (p.execute b r).2.IsBalanced := by
  refine (h.record fun line => ?_).passTo _
  rw [← List.singleton_append, Traffic.balance_append, Traffic.balance_called, Traffic.balance_released]
  split <;> rfl

theorem IsBalanced.openStream (h : p.IsBalanced) (id : String) (b : Backend) (r : BackendRequest) :
    (p.openStream id b r).2.IsBalanced := by
  obtain ⟨q, hq⟩ : ∃ q, (p.record [.called b.line r]).passTo (p.now + (b.streamed r).latency) = q := ⟨_, rfl⟩
  have hcalled : (p.record [.called b.line r]).IsDistinct := ⟨h.distinct.handles, h.distinct.streams⟩
  have hd : q.IsDistinct := hq ▸ isDistinct_passTo hcalled _
  have hexcess : ∀ line, q.excess line = if b.line = line then 1 else 0 := by
    intro line
    rw [← hq, excess_passTo, excess_record, h.excess_eq, Traffic.balance_called, Int.zero_add]
  have hdropped : ∀ id x, find? id q.handles = some x → x.isHeld = false → x.attempt.phase = .spent :=
    hq ▸ dropped_passTo (p := p.record [.called b.line r]) h.dropped _
  have hreleased : (q.record [.released b.line]).IsBalanced := by
    refine ⟨⟨hd.handles, hd.streams⟩, fun line => ?_, hdropped⟩
    rw [excess_record, hexcess, Traffic.balance_released]
    split <;> rfl
  simp only [Pool.openStream, hq]
  split
  · refine isBalanced_hold hd (fun line => (hexcess line).trans ?_) hdropped id
    simp [Stream.connections, Stream.held]
  · exact hreleased
  · exact hreleased

/-- Whatever is done, the connections that are open are those that somebody holds. -/
theorem IsBalanced.act (h : p.IsBalanced) (op : Operation) : (p.act op).IsBalanced := by
  cases op with
  | spawn id b r => exact h.spawn id b r
  | start id => exact h.start id
  | firstUnit id => exact h.firstUnit id
  | cancel id => exact h.cancel id
  | drop id => exact h.drop id
  | next id => exact h.next id
  | drain id => exact h.drain id
  | dropStream id => exact h.dropStream id
  | execute b r => exact h.execute b r
  | openStream id b r => exact h.openStream id b r
  | sleep ms => exact h.passTo _

theorem IsBalanced.run (h : p.IsBalanced) (ops : List Operation) : (p.run ops).IsBalanced := by
  induction ops generalizing p with
  | nil => exact h
  | cons op ops ih => exact ih (h.act op)

private theorem sum_map_nonneg {f : α → Int} (h : ∀ a, 0 ≤ f a) (xs : List α) : 0 ≤ (xs.map f).sum := by
  induction xs with
  | nil => exact Int.le_refl 0
  | cons x xs ih =>
    rw [List.map_cons, List.sum_cons]
    exact Int.add_nonneg (h x) ih

theorem IsBalanced.openOn_eq (h : p.IsBalanced) (line : Nat) :
    (Traffic.openOn line p.log : Int) = p.connections line := by
  have hattempt (x : String × Handle) : 0 ≤ x.2.attempt.connections line := by
    unfold Attempt.connections
    split <;> decide
  have hstream (x : String × Stream) : 0 ≤ x.2.connections line := by
    unfold Stream.connections
    split <;> decide
  have hzero := h.excess_eq line
  have hnonneg : 0 ≤ p.connections line :=
    Int.add_nonneg (sum_map_nonneg hattempt p.handles) (sum_map_nonneg hstream p.streams)
  simp only [excess, Traffic.balance] at hzero
  simp only [Traffic.openOn]
  omega

theorem isBalanced_empty : empty.IsBalanced :=
  ⟨⟨List.nodup_nil, List.nodup_nil⟩, fun _ => rfl, by simp [empty, find?]⟩

end Pool

end ChatRace
