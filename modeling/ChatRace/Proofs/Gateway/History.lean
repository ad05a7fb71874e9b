import ChatRace.Proofs.Gateway.Conservation
import ChatRace.Proofs.Turn

/-!
# Histories

Who has done what while a server runs.  The log and the metrics are told by the history of the run
(`log_runFor`, `metrics_runFor`), and what one session has done in it is the trail of its steps (`trail_runFor`).  If a
session is left out, the others take the same steps in the same order (`runFor_without`), so the history is the same
but for that session's part in it.
-/

namespace ChatRace

open Chat Metrics

/-- The traffic among some effects. -/
def traffic (effects : List Effect) : List Traffic :=
  effects.filterMap fun
    | .line t => some t
    | .observe _ => none

theorem traffic_line (log : List Traffic) : traffic (log.map .line) = log := by
  simp [traffic, List.filterMap_map]

theorem traffic_append (xs ys : List Effect) : traffic (xs ++ ys) = traffic xs ++ traffic ys :=
  List.filterMap_append ..

/-! ### One session -/

namespace Session

variable {app : App} {metrics metrics' : Metrics}

/-- The session takes some steps with some effects, whatever the metrics are when it takes them. -/
inductive Trail (app : App) : Session → List Effect → Session → Prop
  | nil (s : Session) : Trail app s [] s
  | cons {s s' : Session} {effects : List Effect} {d : Nat} (hdue : s.due? = some d) (metrics : Metrics)
      (h : Trail app (s.step app metrics).1 effects s') : Trail app s ((s.step app metrics).2 ++ effects) s'

/-- Two sessions that differ at most in the metrics which their clients have got. -/
def Agrees (s t : Session) : Prop :=
  s = t ∨ (s.client = t.client ∧ Endpoint.find s.client.request = .ok .metrics ∧
    (∃ a, s.stage = .answered a) ∧ ∃ a, t.stage = .answered a)

theorem Agrees.refl (s : Session) : s.Agrees s := .inl rfl

theorem Agrees.due?_eq {s t : Session} (h : s.Agrees t) : s.due? = t.due? := by
  rcases h with rfl | ⟨-, -, ⟨a, ha⟩, ⟨b, hb⟩⟩
  · rfl
  · simp only [due?, ha, hb]

/-- The metrics show in a step only if they are asked for. -/
theorem agrees_step (app : App) (metrics metrics' : Metrics) (s : Session) :
    (s.step app metrics).1.Agrees (s.step app metrics').1 ∧ (s.step app metrics).2 = (s.step app metrics').2 := by
  cases hs : s.stage with
  | racing stream r | relaying headers headTime t | answered a | aborted =>
    simp only [step, hs]
    exact ⟨.refl _, trivial⟩
  | waiting =>
    simp only [step, hs]
    cases hf : Endpoint.find s.client.request with
    | error response =>
      simp only [arrive, hf]
      exact ⟨.refl _, trivial⟩
    | ok e =>
      cases e with
      | health | models | chat =>
        simp only [arrive, hf]
        exact ⟨.refl _, trivial⟩
      | metrics =>
        simp only [arrive, hf]
        exact ⟨.inr ⟨rfl, hf, ⟨_, rfl⟩, ⟨_, rfl⟩⟩, trivial⟩

/-- Sessions that agree take the same steps. -/
theorem Agrees.step {s t : Session} (h : s.Agrees t) {d : Nat} (hdue : s.due? = some d) (app : App)
    (metrics metrics' : Metrics) :
    (s.step app metrics).1.Agrees (t.step app metrics').1 ∧ (s.step app metrics).2 = (t.step app metrics').2 := by
  rcases h with rfl | ⟨-, -, ⟨a, ha⟩, -⟩
  · exact agrees_step app metrics metrics' s
  · simp [due?, ha] at hdue

end Session

/-! ### Many sessions -/

namespace Server

variable {srv srv' : Server} {queue queue' : List (Nat × Session)} {k : Nat}

/-- The steps of a run: whose they are, and what they do. -/
def history : Nat → Server → List (Nat × Session) → List (Nat × List Effect)
  | 0, _, _ => []
  | steps + 1, srv, queue =>
    match Turn.first? (fun q => q.2.due?) queue with
    | none => []
    | some t =>
      let (s, effects) := t.chosen.2.step srv.app srv.metrics
      (t.chosen.1, effects) ::
        history steps (srv.advance t.due t.chosen.2).2 (t.before ++ t.after ++ [(t.chosen.1, s)])

/-- All effects in a history. -/
def effects (h : List (Nat × List Effect)) : List Effect := h.flatMap (·.2)

theorem effects_cons (x : Nat × List Effect) (h : List (Nat × List Effect)) :
    effects (x :: h) = x.2 ++ effects h := List.flatMap_cons

theorem effects_append (h h' : List (Nat × List Effect)) : effects (h ++ h') = effects h ++ effects h' :=
  List.flatMap_append

/-- The part of a history that is the doing of session `k`. -/
def ofOne (k : Nat) (h : List (Nat × List Effect)) : List (Nat × List Effect) := h.filter (·.1 = k)

/-- The part of a history that is the doing of others than session `k`. -/
def ofOthers (k : Nat) (h : List (Nat × List Effect)) : List (Nat × List Effect) := h.filter (·.1 ≠ k)

theorem parts_of_eq {x : Nat × List Effect} (hx : x.1 = k) (h : List (Nat × List Effect)) :
    ofOne k (x :: h) = x :: ofOne k h ∧ ofOthers k (x :: h) = ofOthers k h :=
  ⟨List.filter_cons_of_pos (by simpa using hx), List.filter_cons_of_neg (by simpa using hx)⟩

theorem parts_of_ne {x : Nat × List Effect} (hx : x.1 ≠ k) (h : List (Nat × List Effect)) :
    ofOne k (x :: h) = ofOne k h ∧ ofOthers k (x :: h) = x :: ofOthers k h :=
  ⟨List.filter_cons_of_neg (by simpa using hx), List.filter_cons_of_pos (by simpa using hx)⟩

theorem history_of_turn {steps : Nat} {t : Turn (Nat × Session)}
    (h : Turn.first? (fun q => q.2.due?) queue = some t) :
    history (steps + 1) srv queue = (t.chosen.1, (t.chosen.2.step srv.app srv.metrics).2) ::
      history steps (srv.advance t.due t.chosen.2).2
        (t.before ++ t.after ++ [(t.chosen.1, (t.chosen.2.step srv.app srv.metrics).1)]) := by
  simp only [history, h]

theorem of_no_turn (h : Turn.first? (fun q : Nat × Session => q.2.due?) queue = none) (steps : Nat) :
    srv.runFor steps queue = (queue, srv) ∧ history steps srv queue = [] := by
  cases steps with
  | zero => exact ⟨rfl, rfl⟩
  | succ steps => simp only [runFor, history, h, and_self]

private theorem log_absorb (srv : Server) (effects : List Effect) :
    (effects.foldl absorb srv).log = srv.log ++ traffic effects := by
  induction effects generalizing srv with
  | nil => simp [traffic]
  | cons e effects ih =>
    rw [List.foldl_cons, ih]
    cases e <;> simp [absorb, traffic]

/-- The log of a run is the traffic in its history. -/
theorem log_runFor (srv : Server) (steps : Nat) (queue : List (Nat × Session)) :
    (srv.runFor steps queue).2.log = srv.log ++ traffic (effects (history steps srv queue)) := by
  induction steps generalizing srv queue with
  | zero => simp [runFor, history, effects, traffic]
  | succ steps ih =>
    cases ht : Turn.first? (fun q : Nat × Session => q.2.due?) queue with
    | none =>
      rw [(of_no_turn ht _).1, (of_no_turn ht _).2]
      simp [effects, traffic]
    | some t =>
      have hlog : (srv.advance t.due t.chosen.2).2.log =
          srv.log ++ traffic (t.chosen.2.step srv.app srv.metrics).2 := log_absorb _ _
      rw [runFor_of_turn ht, history_of_turn ht, ih, hlog, effects_cons, traffic_append, List.append_assoc]

/-- The metrics of a run have taken the observations in its history. -/
theorem metrics_runFor (srv : Server) (steps : Nat) (queue : List (Nat × Session)) :
    (srv.runFor steps queue).2.metrics =
      (observations (effects (history steps srv queue))).foldl Metrics.observe srv.metrics := by
  induction steps generalizing srv queue with
  | zero => rfl
  | succ steps ih =>
    cases ht : Turn.first? (fun q : Nat × Session => q.2.due?) queue with
    | none =>
      rw [(of_no_turn ht _).1, (of_no_turn ht _).2]
      rfl
    | some t =>
      have hmetrics : (srv.advance t.due t.chosen.2).2.metrics =
          (observations (t.chosen.2.step srv.app srv.metrics).2).foldl Metrics.observe srv.metrics :=
        metrics_absorb _ _
      rw [runFor_of_turn ht, history_of_turn ht, ih, hmetrics, effects_cons, observations_append,
        List.foldl_append]

/-- A run goes on where it has been left. -/
theorem runFor_add (srv : Server) (m n : Nat) (queue : List (Nat × Session)) :
    srv.runFor (m + n) queue = (srv.runFor m queue).2.runFor n (srv.runFor m queue).1 ∧
      history (m + n) srv queue =
        history m srv queue ++ history n (srv.runFor m queue).2 (srv.runFor m queue).1 := by
  induction m generalizing srv queue with
  | zero =>
    rw [Nat.zero_add]
    exact ⟨rfl, rfl⟩
  | succ m ih =>
    cases ht : Turn.first? (fun q : Nat × Session => q.2.due?) queue with
    | none =>
      have hstop (steps : Nat) : srv.runFor steps queue = (queue, srv) ∧ history steps srv queue = [] :=
        of_no_turn ht steps
      rw [(hstop _).1, (hstop _).2, (hstop (m + 1)).1, (hstop (m + 1)).2, (hstop n).1, (hstop n).2]
      exact ⟨rfl, rfl⟩
    | some t =>
      obtain ⟨hrun, hhistory⟩ := ih (srv.advance t.due t.chosen.2).2
        (t.before ++ t.after ++ [(t.chosen.1, (t.chosen.2.step srv.app srv.metrics).1)])
      rw [Nat.add_right_comm, runFor_of_turn ht, history_of_turn ht, runFor_of_turn ht, history_of_turn ht, hrun,
        hhistory]
      exact ⟨rfl, rfl⟩

/-! ### Leaving a session out -/

/-- A step changes nothing for those who are picked out, if the one that takes it is not. -/
private theorem filter_of_turn {t : Turn (Nat × Session)} (ht : Turn.first? (fun q => q.2.due?) queue = some t)
    {p : Nat → Bool} (hp : p t.chosen.1 = false) (s : Session) :
    (t.before ++ t.after ++ [(t.chosen.1, s)]).filter (fun x => p x.1) = queue.filter (fun x => p x.1) := by
  rw [← Turn.put_chosen ht, Turn.put, List.filter_append, List.filter_append, List.filter_append]
  simp [hp]

/-- Two entries of queues with the same number whose sessions agree. -/
def Alike (x y : Nat × Session) : Prop := x.1 = y.1 ∧ x.2.Agrees y.2

theorem alike_refl (queue : List (Nat × Session)) : List.Forall₂ Alike queue queue :=
  List.forall₂_same.2 fun x _ => ⟨rfl, .refl x.2⟩

/-- Sessions that agree still do when it was the turn of the same one in both queues. -/
private theorem alike_of_turns {t u : Turn (Nat × Session)} (hk : t.chosen.1 ≠ k) (hnumber : t.chosen.1 = u.chosen.1)
    (hbefore : List.Forall₂ Alike (t.before.filter (·.1 ≠ k)) u.before)
    (hafter : List.Forall₂ Alike (t.after.filter (·.1 ≠ k)) u.after) {s s' : Session} (hs : s.Agrees s') :
    List.Forall₂ Alike ((t.before ++ t.after ++ [(t.chosen.1, s)]).filter (·.1 ≠ k))
      (u.before ++ u.after ++ [(u.chosen.1, s')]) := by
  have hlast : [(t.chosen.1, s)].filter (·.1 ≠ k) = [(t.chosen.1, s)] := by simp [hk]
  rw [List.filter_append, List.filter_append, hlast]
  exact List.rel_append (List.rel_append hbefore hafter) (.cons ⟨hnumber, hs⟩ .nil)

/-- The others take the same steps, whether a session is there or not, as long as they agree to begin with. -/
theorem runFor_without (happ : srv.app = srv'.app)
    (h : List.Forall₂ Alike (queue.filter (·.1 ≠ k)) queue') (steps : Nat) :
    ∃ steps', List.Forall₂ Alike ((srv.runFor steps queue).1.filter (·.1 ≠ k)) (srv'.runFor steps' queue').1 ∧
      history steps' srv' queue' = ofOthers k (history steps srv queue) := by
  induction steps generalizing srv srv' queue queue' with
  | zero => exact ⟨0, h, rfl⟩
  | succ steps ih =>
    cases ht : Turn.first? (fun q : Nat × Session => q.2.due?) queue with
    | none =>
      rw [(of_no_turn ht _).1, (of_no_turn ht _).2]
      exact ⟨0, h, rfl⟩
    | some t =>
      have happ' := app_advance srv t.due t.chosen.2
      rw [runFor_of_turn ht, history_of_turn ht]
      by_cases hk : t.chosen.1 = k
      · -- the step of the session that is left out changes nothing for the others
        have hfilter : (t.before ++ t.after ++ [(t.chosen.1, (t.chosen.2.step srv.app srv.metrics).1)]).filter
            (·.1 ≠ k) = queue.filter (·.1 ≠ k) :=
          filter_of_turn ht (p := fun i => i ≠ k) (by simp [hk]) _
        obtain ⟨steps', halike, hhistory⟩ := ih (happ'.trans happ) (hfilter ▸ h)
        exact ⟨steps', halike, hhistory.trans (parts_of_eq hk _).2.symm⟩
      · -- it is the same session's turn where the other one is left out
        have hothers : Turn.first? (fun q : Nat × Session => q.2.due?) (queue.filter (·.1 ≠ k)) =
            some ⟨t.before.filter (·.1 ≠ k), t.chosen, t.due, t.after.filter (·.1 ≠ k)⟩ :=
          Turn.first?_filter ht (by simpa using hk)
        obtain ⟨u, hu, -, hchosen, hbefore, hafter⟩ : ∃ u : Turn (Nat × Session),
            Turn.first? (fun q => q.2.due?) queue' = some u ∧ u.due = t.due ∧ Alike t.chosen u.chosen ∧
            List.Forall₂ Alike (t.before.filter (·.1 ≠ k)) u.before ∧
            List.Forall₂ Alike (t.after.filter (·.1 ≠ k)) u.after :=
          Turn.first?_forall₂ (fun x y hxy => hxy.2.due?_eq) h hothers
        obtain ⟨hagrees, heffects⟩ := hchosen.2.step (Turn.due?_chosen ht) srv.app srv.metrics srv'.metrics
        rw [happ] at hagrees heffects
        have hqueues := alike_of_turns hk hchosen.1 hbefore hafter hagrees
        have happ'' := app_advance srv' u.due u.chosen.2
        obtain ⟨steps', halike, hhistory⟩ := ih (happ'.trans (happ.trans happ''.symm)) hqueues
        refine ⟨steps' + 1, ?_, ?_⟩
        · rw [runFor_of_turn hu, happ]
          exact halike
        · rw [history_of_turn hu, hhistory, happ, ← heffects, ← hchosen.1]
          exact (parts_of_ne hk _).2.symm

/-! ### One session among others -/

/-- When it is the turn of the only session with a number, the queue still has no other session with it. -/
private theorem filter_of_own_turn {s : Session} {t : Turn (Nat × Session)}
    (ht : Turn.first? (fun q => q.2.due?) queue = some t) (h : queue.filter (·.1 = k) = [(k, s)])
    (hk : t.chosen.1 = k) :
    t.chosen.2 = s ∧ ∀ s', (t.before ++ t.after ++ [(t.chosen.1, s')]).filter (·.1 = k) = [(k, s')] := by
  rw [← Turn.put_chosen ht, Turn.put, List.filter_append, List.filter_cons_of_pos (by simpa using hk)] at h
  obtain ⟨hbefore, hchosen, hafter⟩ : t.before.filter (·.1 = k) = [] ∧ t.chosen = (k, s) ∧
      t.after.filter (·.1 = k) = [] := by
    cases hb : t.before.filter (·.1 = k) with
    | nil => simpa [hb] using h
    | cons x xs => simp [hb] at h
  refine ⟨congrArg Prod.snd hchosen, ?_⟩
  intro s'
  rw [List.filter_append, List.filter_append, hbefore, hafter]
  simp [hk]

/-- What a session does in a run is the trail of its steps. -/
theorem trail_runFor {s : Session} (h : queue.filter (·.1 = k) = [(k, s)]) (steps : Nat) :
    ∃ s', (srv.runFor steps queue).1.filter (·.1 = k) = [(k, s')] ∧
      Session.Trail srv.app s (effects (ofOne k (history steps srv queue))) s' := by
  induction steps generalizing srv queue s with
  | zero => exact ⟨s, h, .nil s⟩
  | succ steps ih =>
    cases ht : Turn.first? (fun q : Nat × Session => q.2.due?) queue with
    | none =>
      rw [(of_no_turn ht _).1, (of_no_turn ht _).2]
      exact ⟨s, h, .nil s⟩
    | some t =>
      have happ := app_advance srv t.due t.chosen.2
      rw [runFor_of_turn ht, history_of_turn ht]
      by_cases hk : t.chosen.1 = k
      · obtain ⟨rfl, hnext⟩ := filter_of_own_turn ht h hk
        obtain ⟨s', hs', htrail⟩ := @ih (srv.advance t.due t.chosen.2).2 _ _ (hnext _)
        rw [happ] at htrail
        refine ⟨s', hs', ?_⟩
        rw [(parts_of_eq hk _).1, effects_cons]
        have hdue : t.chosen.2.due? = some t.due := Turn.due?_chosen ht
        exact .cons hdue srv.metrics htrail
      · have hnext : (t.before ++ t.after ++ [(t.chosen.1, (t.chosen.2.step srv.app srv.metrics).1)]).filter
            (·.1 = k) = [(k, s)] :=
          (filter_of_turn ht (p := fun i => i = k) (by simp [hk]) _).trans h
        obtain ⟨s', hs', htrail⟩ := @ih (srv.advance t.due t.chosen.2).2 _ _ hnext
        rw [happ] at htrail
        refine ⟨s', hs', ?_⟩
        rw [(parts_of_ne hk _).1]
        exact htrail

end Server

end ChatRace
