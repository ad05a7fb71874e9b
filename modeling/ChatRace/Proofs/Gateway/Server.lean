import ChatRace.Gateway.Server
import ChatRace.Proofs.Gateway.Session

/-!
# Runs of the server

Serving comes to an end with every session over, and the sessions do not see each other: one that ends at a
stage whatever the metrics are ends at it whoever else is served (`serve_endsAs`).
-/

namespace ChatRace.Server

variable {srv : Server}

/-- The most steps that the sessions of a queue can take. -/
def queueWork (app : App) (queue : List (Nat × Session)) : Nat := (queue.map (·.2.work app)).sum

theorem app_advance (srv : Server) (due : Nat) (s : Session) : (srv.advance due s).2.app = srv.app := by
  have key : ∀ (effects : List Effect) (srv : Server), (effects.foldl absorb srv).app = srv.app := by
    intro effects
    induction effects with
    | nil => exact fun _ => rfl
    | cons e effects ih =>
      intro srv
      rw [List.foldl_cons, ih]
      cases e <;> rfl
  exact key _ _

private theorem queueWork_put {app : App} {queue : List (Nat × Session)} {t : Turn (Nat × Session)}
    (h : t.put t.chosen = queue) :
    queueWork app queue = t.chosen.2.work app + queueWork app (t.before ++ t.after) := by
  simp only [queueWork, ← h, Turn.put, List.map_append, List.map_cons, List.sum_append, List.sum_cons]
  omega

theorem runFor_of_turn {steps : Nat} {queue : List (Nat × Session)} {t : Turn (Nat × Session)}
    (h : Turn.first? (fun q => q.2.due?) queue = some t) :
    srv.runFor (steps + 1) queue = (srv.advance t.due t.chosen.2).2.runFor steps
      (t.before ++ t.after ++ [(t.chosen.1, (t.chosen.2.step srv.app srv.metrics).1)]) := by
  simp only [runFor, h]
  rfl

/-- A session ends as it does on its own. -/
theorem runFor_endsAs {steps n : Nat} {queue : List (Nat × Session)} {s : Session} {e : Stage}
    (hs : (n, s) ∈ queue) (he : s.EndsAs srv.app e) (hwork : queueWork srv.app queue ≤ steps) :
    ∃ s', (n, s') ∈ (srv.runFor steps queue).1 ∧ s'.stage = e := by
  induction steps generalizing srv queue s with
  | zero =>
    -- a session that is not over has work to do
    obtain ⟨before, after, rfl⟩ := List.append_of_mem hs
    refine ⟨s, hs, ?_⟩
    cases he with
    | ended _ he => exact he
    | step hdue _ =>
      have := Session.step_work_lt hdue srv.app srv.metrics
      simp only [queueWork, List.map_append, List.map_cons, List.sum_append, List.sum_cons] at hwork
      omega
  | succ steps ih =>
    cases ht : Turn.first? (fun q => q.2.due?) queue with
    | none =>
      simp only [runFor, ht]
      refine ⟨s, hs, ?_⟩
      cases he with
      | ended _ he => exact he
      | step hdue _ => exact absurd (Turn.first?_eq_none.1 ht _ hs) (by simp [hdue])
    | some t =>
      have happ := app_advance srv t.due t.chosen.2
      have hdue := Turn.due?_chosen ht
      have hput := Turn.put_chosen ht
      have hlt := Session.step_work_lt hdue srv.app srv.metrics
      have hwork' : queueWork (srv.advance t.due t.chosen.2).2.app
          (t.before ++ t.after ++ [(t.chosen.1, (t.chosen.2.step srv.app srv.metrics).1)]) ≤ steps := by
        rw [queueWork_put hput] at hwork
        rw [happ]
        simp only [queueWork, List.map_append, List.sum_append, List.map_cons, List.map_nil, List.sum_cons,
          List.sum_nil] at hwork ⊢
        omega
      -- the session waits for its turn behind the others, or it is its turn now
      rw [runFor_of_turn ht]
      rw [← hput] at hs
      simp only [Turn.put, List.mem_append, List.mem_cons] at hs
      rcases hs with hs | hs | hs
      · exact ih (s := s) (by simp [hs]) (happ ▸ he) hwork'
      · refine ih (s := (s.step srv.app srv.metrics).1) (by simp [← hs]) ?_ hwork'
        rw [happ]
        cases he with
        | ended hover _ => simp [← hs, hover] at hdue
        | step _ hstep => exact hstep srv.metrics
      · exact ih (s := s) (by simp [hs]) (happ ▸ he) hwork'

private theorem keys_runFor (srv : Server) (steps : Nat) (queue : List (Nat × Session)) :
    ((srv.runFor steps queue).1.map (·.1)).Perm (queue.map (·.1)) := by
  induction steps generalizing srv queue with
  | zero => exact List.Perm.refl _
  | succ steps ih =>
    cases ht : Turn.first? (fun q => q.2.due?) queue with
    | none =>
      simp only [runFor, ht]
      exact List.Perm.refl _
    | some t =>
      rw [runFor_of_turn ht]
      refine (ih _ _).trans ?_
      rw [← Turn.put_chosen ht]
      simp only [Turn.put, List.map_append, List.map_cons, List.map_nil, List.append_assoc]
      exact List.Perm.append_left _ List.perm_append_comm

private theorem pairwise_keys_mergeSort (queue : List (Nat × Session)) :
    ((queue.mergeSort (fun a b => a.1 ≤ b.1)).map (·.1)).Pairwise (· ≤ ·) := by
  have hsorted : (queue.mergeSort (fun a b => a.1 ≤ b.1)).Pairwise fun a b => decide (a.1 ≤ b.1) = true := by
    apply List.pairwise_mergeSort
    · intro a b c hab hbc
      simp only [decide_eq_true_eq] at hab hbc ⊢
      exact Nat.le_trans hab hbc
    · intro a b
      simp only [Bool.or_eq_true, decide_eq_true_eq]
      exact Nat.le_total a.1 b.1
  exact List.pairwise_map.2 (hsorted.imp fun hab => by simpa using hab)

/-- The place of a session among the sorted ones is its number. -/
private theorem getElem?_mergeSort {queue : List (Nat × Session)} {n k : Nat} {s : Session}
    (h : (queue.map (·.1)).Perm (List.range n)) (hs : (k, s) ∈ queue) :
    (queue.mergeSort (fun a b => a.1 ≤ b.1))[k]? = some (k, s) := by
  have hkeys : (queue.mergeSort (fun a b => a.1 ≤ b.1)).map (·.1) = List.range n :=
    List.Perm.eq_of_pairwise (fun a b _ _ => Nat.le_antisymm) (pairwise_keys_mergeSort queue)
      List.pairwise_le_range (((List.mergeSort_perm queue _).map _).trans h)
  have hmem : (k, s) ∈ queue.mergeSort (fun a b => a.1 ≤ b.1) := List.mem_mergeSort.2 hs
  obtain ⟨i, hi⟩ := List.getElem?_of_mem hmem
  have hki := congrArg (·[i]?) hkeys
  simp only [List.getElem?_map, hi, Option.map_some] at hki
  obtain ⟨hin, hik⟩ := List.getElem?_eq_some_iff.1 hki.symm
  rw [List.getElem_range] at hik
  rw [hik] at hi
  exact hi

private theorem getElem?_ends {sessions : List Session} {steps k : Nat} {s : Session} {e : Stage}
    (hs : sessions[k]? = some s) (he : s.EndsAs srv.app e)
    (hwork : (sessions.map (·.work srv.app)).sum ≤ steps) :
    (((srv.runFor steps ((List.range sessions.length).zip sessions)).1.mergeSort (fun a b => a.1 ≤ b.1)).map
      (·.2.stage))[k]? = some e := by
  have hlen : (List.range sessions.length).length = sessions.length := List.length_range
  have hk : k < sessions.length := (List.getElem?_eq_some_iff.1 hs).1
  have hmem : (k, s) ∈ (List.range sessions.length).zip sessions := by
    refine List.mem_of_getElem? (i := k) (List.getElem?_zip_eq_some.2 ⟨?_, hs⟩)
    rw [List.getElem?_range hk]
  have hqueue : queueWork srv.app ((List.range sessions.length).zip sessions) ≤ steps := by
    have hmap := congrArg (List.map (·.work srv.app)) (List.map_snd_zip (Nat.le_of_eq hlen.symm))
    rw [List.map_map] at hmap
    exact Nat.le_trans (Nat.le_of_eq (congrArg List.sum hmap)) hwork
  obtain ⟨s', hs', hstage⟩ := runFor_endsAs hmem he hqueue
  have hkeys := (keys_runFor srv steps _).trans (List.Perm.of_eq (List.map_fst_zip (Nat.le_of_eq hlen)))
  rw [List.getElem?_map, getElem?_mergeSort hkeys hs', Option.map_some, hstage]

/-- Every client has in the end what its session comes to on its own. -/
theorem serve_endsAs {clients : List Client} {k : Nat} {c : Client} {e : Stage} (hc : clients[k]? = some c)
    (he : Session.EndsAs srv.app e ⟨c, .waiting⟩) : (srv.serve clients).1[k]? = some e := by
  have hs : (clients.map fun c => (⟨c, .waiting⟩ : Session))[k]? = some ⟨c, .waiting⟩ := by
    rw [List.getElem?_map, hc, Option.map_some]
  exact getElem?_ends hs he (Nat.le_refl _)

end ChatRace.Server
