import ChatRace.Proofs.Gateway.Ending
import ChatRace.Proofs.Gateway.History
import ChatRace.Proofs.Race.Connections

/-!
# Clients who leave

Until there is a head, a session tells the metrics of nothing but its coming and going, and holds exactly the
connections of its race (`unheard_step`, `Trail.unheard`).  So when a client has given its request up, nothing of it is
left: the metrics and the lines are as they would be without it, and all other sessions are where they would be
(`serve_departed`).
-/

namespace ChatRace

open Chat Metrics

/-! ### The gauge -/

/-- The observation concerns the requests under way only. -/
def Metrics.Observation.IsGauge (o : Observation) : Prop := o = .enter ∨ o = .leave

namespace Metrics

/-- The metrics without the number of requests under way. -/
def ungauged (m : Metrics) : Metrics := { m with inflight := 0 }

theorem ungauged_observe_of_isGauge (m : Metrics) {o : Observation} (h : o.IsGauge) :
    (m.observe o).ungauged = m.ungauged := by
  rcases h with rfl | rfl <;> rfl

theorem ungauged_foldl_of_isGauge (m : Metrics) {os : List Observation} (h : ∀ o ∈ os, o.IsGauge) :
    (os.foldl observe m).ungauged = m.ungauged := by
  induction os generalizing m with
  | nil => rfl
  | cons o os ih =>
    obtain ⟨ho, hos⟩ := List.forall_mem_cons.1 h
    rw [List.foldl_cons, ih (m.observe o) hos, ungauged_observe_of_isGauge m ho]

/-- The number of requests under way does not show in the other numbers. -/
theorem ungauged_foldl (m : Metrics) (os : List Observation) :
    (os.foldl observe m).ungauged = (os.foldl observe m.ungauged).ungauged := by
  induction os generalizing m with
  | nil => rfl
  | cons o os ih =>
    have hobserve : (m.observe o).ungauged = (m.ungauged.observe o).ungauged := by cases o <;> rfl
    rw [List.foldl_cons, List.foldl_cons, ih (m.observe o), ih (m.ungauged.observe o), hobserve]

/-- Metrics that differ at most in the number of requests under way. -/
theorem eq_of_ungauged_eq {m m' : Metrics} {n : Nat} (h : m.ungauged = m'.ungauged) (hn : m.inflight = n) :
    m = { m' with inflight := n } := by
  subst hn
  have hset (u : Metrics) : { u.ungauged with inflight := m.inflight } = { u with inflight := m.inflight } := rfl
  rw [← hset m', ← h, hset m]

end Metrics

/-! ### Sessions without a head -/

namespace Session

variable {app : App} {metrics : Metrics} {s : Session}

/-- The connections that the race for a request holds on a line. -/
def connections (line : Nat) (s : Session) : Int :=
  match s.stage with
  | .racing _ r => r.connections line
  | .waiting | .relaying _ _ _ | .answered _ | .aborted => 0

/-- A step that leads a session without a head to one without a head: it tells nothing but coming and going, and what
it opens and ends is the difference of the connections held. -/
structure Unheard (s : Session) (step : Session × List Effect) : Prop where
  before : s.stage.status? = none
  isGauge : ∀ o ∈ observations step.2, o.IsGauge
  balance : ∀ line, Traffic.balance line (traffic step.2) + s.connections line = step.1.connections line

private theorem unheard_receive (hs : s.stage = .waiting) {q : ClientRequest}
    (h : (s.receive app q).1.stage.status? = none) : s.Unheard (s.receive app q) := by
  have hbefore : s.stage.status? = none := by rw [hs]; rfl
  have hnone (line : Nat) : s.connections line = 0 := by simp only [connections, hs]
  cases hr : q.toRace s.client.identity.requestId with
  | error refusal =>
    simp only [receive, hr] at h
    cases h
  | ok request =>
    cases he : Race.enter app.registry app.limit s.client.sent request with
    | error e =>
      simp only [receive, hr, he] at h
      cases h
    | ok r =>
      obtain ⟨bs, -, -, rfl⟩ := Race.of_enter_eq_ok he
      simp only [receive, hr, he]
      split
      · refine ⟨hbefore, ?_, ?_⟩
        · intro o ho
          simpa [observations, Observation.IsGauge] using ho
        · intro line
          rw [hnone]
          rfl
      · have htraffic : traffic (.observe .enter ::
            (Race.between bs app.limit s.client.sent request).launch.2.map .line) =
            (Race.between bs app.limit s.client.sent request).launch.2 := traffic_line _
        have hobserved : observations (.observe .enter ::
            (Race.between bs app.limit s.client.sent request).launch.2.map .line) = [.enter] := by
          rw [← observations_line (Race.between bs app.limit s.client.sent request).launch.2]
          rfl
        refine ⟨hbefore, ?_, ?_⟩
        · intro o ho
          rw [hobserved, List.mem_singleton] at ho
          exact .inl ho
        · intro line
          rw [hnone, htraffic, Int.add_zero]
          exact (Race.balance_launch bs app.limit s.client.sent request line).1

private theorem unheard_arrive (hs : s.stage = .waiting) (h : (s.arrive app metrics).1.stage.status? = none) :
    s.Unheard (s.arrive app metrics) := by
  cases hf : Endpoint.find s.client.request with
  | error response =>
    simp only [arrive, hf] at h
    cases h
  | ok e =>
    cases e with
    | health | models | metrics =>
      simp only [arrive, hf] at h
      cases h
    | chat =>
      cases hb : ClientRequest.ofBody s.client.request with
      | error f =>
        simp only [arrive, hf, hb] at h
        cases h
      | ok q =>
        simp only [arrive, hf, hb] at h ⊢
        exact unheard_receive hs h

/-- A race is abandoned: what it holds is released. -/
private theorem unheard_abandon {stream : Bool} {r : Race} (hs : s.stage = .racing stream r) (hr : r.IsUnderWay) :
    s.Unheard ({ s with stage := .aborted }, r.abandon.map .line ++ [.observe .leave]) := by
  refine ⟨by rw [hs]; rfl, ?_, ?_⟩
  · intro o ho
    rw [observations_append, observations_line, List.nil_append] at ho
    exact .inr (List.mem_singleton.1 ho)
  · intro line
    have hleave : traffic [.observe .leave] = [] := rfl
    have hheld : s.connections line = r.connections line := by simp only [connections, hs]
    rw [traffic_append, traffic_line, hleave, List.append_nil, hheld]
    exact hr.balance_abandon line

/-- A race goes on. -/
private theorem unheard_goOn {stream : Bool} {r r' : Race} {log : List Traffic} (hs : s.stage = .racing stream r)
    (hr : r.IsUnderWay) (hstep : r.step = (.running r', log)) :
    s.Unheard ({ s with stage := .racing stream r' }, log.map .line) := by
  refine ⟨by rw [hs]; rfl, ?_, ?_⟩
  · intro o ho
    rw [observations_line] at ho
    cases ho
  · intro line
    have hheld : s.connections line = r.connections line := by simp only [connections, hs]
    have hbalance := hr.balance_step line
    rw [hstep] at hbalance
    rw [traffic_line, hheld]
    exact hbalance

/-- The race for a request goes on, or it is abandoned. -/
private theorem unheard_race {stream : Bool} {r : Race} (hs : s.stage = .racing stream r) (hr : r.IsUnderWay)
    (h : (s.step app metrics).1.stage.status? = none) : s.Unheard (s.step app metrics) := by
  cases hg : (s.givesUpAt? r).isSome with
  | true =>
    have habandon : s.step app metrics = ({ s with stage := .aborted }, r.abandon.map .line ++ [.observe .leave]) := by
      simp only [step, hs, hg, if_true]
    rw [habandon]
    exact unheard_abandon hs hr
  | false =>
    cases hstep : r.step with
    | mk p log =>
      cases p with
      | decided v =>
        obtain ⟨now, result⟩ := v
        simp only [step, hs, hg, hstep] at h
        cases result with
        | error e => cases h
        | ok w =>
          obtain ⟨-, hhead, -⟩ := s.accept_cases now w
          cases hhead.symm.trans h
      | running r' =>
        have hnext : s.step app metrics = ({ s with stage := .racing stream r' }, log.map .line ++ []) := by
          simp only [step, hs, hg, hstep]
          rfl
        rw [hnext, List.append_nil]
        exact unheard_goOn hs hr hstep

/-- What has been opened for a client who has left has been released. -/
theorem Unheard.balance_of_aborted {c : Client} {effects : List Effect}
    (h : Unheard ⟨c, .waiting⟩ (s, effects)) (haborted : s.stage = .aborted) (line : Nat) :
    Traffic.balance line (traffic effects) = 0 := by
  have hheld : s.connections line = 0 := by simp only [connections, haborted]
  have hnone : connections line ⟨c, .waiting⟩ = 0 := rfl
  have hopened := h.balance line
  simp only [hheld, hnone, Int.add_zero] at hopened
  exact hopened

/-- A step after which there is no head. -/
theorem unheard_step (hsound : s.IsSound) {d : Nat} (hdue : s.due? = some d)
    (h : (s.step app metrics).1.stage.status? = none) : s.Unheard (s.step app metrics) := by
  cases hs : s.stage with
  | waiting =>
    simp only [step, hs] at h ⊢
    exact unheard_arrive hs h
  | racing stream r =>
    obtain ⟨-, -, -, -, -, hr⟩ := hsound stream r hs
    exact unheard_race hs hr h
  | relaying headers headTime t =>
    cases ht : t.step with
    | mk f log => cases f <;> simp [step, hs, ht, Stage.status?] at h
  | answered a | aborted => simp [due?, hs] at hdue

/-- A trail to a session that has no head. -/
theorem Trail.unheard {s' : Session} {effects : List Effect} (h : Trail app s effects s') (hsound : s.IsSound)
    (hhead : s'.stage.status? = none) : s.Unheard (s', effects) := by
  induction h with
  | nil s =>
    refine ⟨hhead, ?_, ?_⟩
    · intro o ho
      nomatch ho
    · intro line
      exact Int.zero_add _
  | cons hdue metrics _ ih =>
    have hrest := ih (settles_step hsound app metrics).sound hhead
    have hstep := unheard_step hsound hdue hrest.before
    refine ⟨hstep.before, ?_, ?_⟩
    · intro o ho
      rw [observations_append] at ho
      rcases List.mem_append.1 ho with ho | ho
      · exact hstep.isGauge o ho
      · exact hrest.isGauge o ho
    · intro line
      have hfirst := hstep.balance line
      have hlater := hrest.balance line
      simp only [traffic_append, Traffic.balance_append] at hlater ⊢
      omega

theorem Trail.client_eq {s' : Session} {effects : List Effect} (h : Trail app s effects s') (hsound : s.IsSound) :
    s'.client = s.client ∧ s'.IsSound := by
  induction h with
  | nil s => exact ⟨rfl, hsound⟩
  | cons hdue metrics _ ih =>
    have hsettles := settles_step hsound app metrics
    obtain ⟨hclient, hsound'⟩ := ih hsettles.sound
    exact ⟨hclient.trans hsettles.client, hsound'⟩

/-- Who is over does nothing any more. -/
theorem Trail.of_over {s' : Session} {effects : List Effect} (h : Trail app s effects s') (hover : s.due? = none) :
    effects = [] ∧ s' = s := by
  cases h with
  | nil => exact ⟨rfl, rfl⟩
  | cons hdue => simp [hover] at hdue

/-- Sessions that agree have the same share in the accounts. -/
theorem Agrees.share_eq {s t : Session} (h : s.Agrees t) (a : Account) : s.share a = t.share a := by
  rcases h with rfl | ⟨hclient, hmetrics, ⟨x, hx⟩, ⟨y, hy⟩⟩
  · rfl
  · have hasked : s.client.asked? = none := by simp [Client.asked?, hmetrics]
    have hshare (u : Session) {z : Answer} (hu : u.stage = .answered z) (hasked : u.client.asked? = none) :
        u.share a = 0 :=
      share_of_not_replied (by simp [isRacing, hu]) (by simp [reply?, hasked]) a
    rw [hshare s hx hasked, hshare t hy (hclient ▸ hasked)]

/-- A session without a head has a share in the gauge while its race goes on. -/
theorem share_inflight (h : s.stage.status? = none) : s.share .inflight = if s.isRacing then 1 else 0 := by
  have hreply : s.reply? = none := by simp [reply?, h]
  cases hracing : s.isRacing with
  | true => simp [share_of_isRacing hracing, Observation.credit]
  | false => simp [share_of_not_replied hracing hreply]

end Session

/-! ### With a session and without it -/

namespace Server

variable {app : App} {queue : List (Nat × Session)} {k : Nat}

theorem filter_eq_singleton {s : Session} (h : (queue.map (·.1)).Nodup) (hs : (k, s) ∈ queue) :
    queue.filter (·.1 = k) = [(k, s)] := by
  induction queue with
  | nil => nomatch hs
  | cons x queue ih =>
    rw [List.map_cons, List.nodup_cons] at h
    rcases List.mem_cons.1 hs with rfl | hs
    · have hrest : queue.filter (·.1 = k) = [] := by
        rw [List.filter_eq_nil_iff]
        intro y hy
        have hne : y.1 ≠ k := fun heq => h.1 (List.mem_map.2 ⟨y, hy, heq⟩)
        simpa using hne
      rw [List.filter_cons_of_pos (by simp), hrest]
    · have hne : x.1 ≠ k := fun heq => h.1 (List.mem_map.2 ⟨(k, s), hs, heq.symm⟩)
      rw [List.filter_cons_of_neg (by simpa using hne), ih h.2 hs]

/-- Every client has one session. -/
theorem filter_enqueue {clients : List Client} {c : Client} (hc : clients[k]? = some c) :
    (enqueue clients).filter (·.1 = k) = [(k, ⟨c, .waiting⟩)] := by
  apply filter_eq_singleton
  · have hkeys : (enqueue clients).map (·.1) = List.range clients.length := by
      simp [enqueue, List.map_fst_zip]
    rw [hkeys]
    exact List.nodup_range
  · have hk : k < clients.length := (List.getElem?_eq_some_iff.1 hc).1
    refine List.mem_of_getElem? (i := k) (List.getElem?_zip_eq_some.2 ⟨?_, ?_⟩)
    · rw [List.getElem?_range (by simpa using hk)]
    · rw [List.getElem?_map, hc, Option.map_some]

private theorem sum_share_filter (k : Nat) (a : Account) (queue : List (Nat × Session)) :
    (queue.map (·.2.share a)).sum = ((queue.filter (·.1 = k)).map (·.2.share a)).sum +
      ((queue.filter (·.1 ≠ k)).map (·.2.share a)).sum := by
  induction queue with
  | nil => rfl
  | cons x queue ih =>
    by_cases hx : x.1 = k
    · rw [List.filter_cons_of_pos (by simpa using hx), List.filter_cons_of_neg (by simpa using hx), List.map_cons,
        List.map_cons, List.sum_cons, List.sum_cons, ih]
      omega
    · rw [List.filter_cons_of_neg (by simpa using hx), List.filter_cons_of_pos (by simpa using hx), List.map_cons,
        List.map_cons, List.sum_cons, List.sum_cons, ih]
      omega

private theorem sum_share_of_alike {xs ys : List (Nat × Session)} (h : List.Forall₂ Alike xs ys) (a : Account) :
    (xs.map (·.2.share a)).sum = (ys.map (·.2.share a)).sum := by
  induction h with
  | nil => rfl
  | cons hxy _ ih => rw [List.map_cons, List.map_cons, List.sum_cons, List.sum_cons, ih, hxy.2.share_eq]

/-- Leaving out a session that has told of nothing but its coming and going leaves the other numbers as they are. -/
private theorem ungauged_ofOthers {m m' : Metrics} (hm : m.ungauged = m'.ungauged) {h : List (Nat × List Effect)}
    (hgauge : ∀ o ∈ observations (effects (ofOne k h)), o.IsGauge) :
    ((observations (effects h)).foldl Metrics.observe m).ungauged =
      ((observations (effects (ofOthers k h))).foldl Metrics.observe m').ungauged := by
  induction h generalizing m m' with
  | nil => exact hm
  | cons x h ih =>
    by_cases hx : x.1 = k
    · obtain ⟨hone, hothers⟩ := parts_of_eq hx h
      rw [hone, effects_cons, observations_append] at hgauge
      obtain ⟨hfirst, hrest⟩ := List.forall_mem_append.1 hgauge
      rw [effects_cons, observations_append, List.foldl_append, hothers]
      exact ih ((Metrics.ungauged_foldl_of_isGauge m hfirst).trans hm) hrest
    · obtain ⟨hone, hothers⟩ := parts_of_ne hx h
      rw [hone] at hgauge
      rw [hothers, effects_cons, effects_cons, observations_append, observations_append, List.foldl_append,
        List.foldl_append]
      refine ih ?_ hgauge
      rw [Metrics.ungauged_foldl m, Metrics.ungauged_foldl m', hm]

private theorem balance_ofOthers (k line : Nat) (h : List (Nat × List Effect)) :
    Traffic.balance line (traffic (effects h)) = Traffic.balance line (traffic (effects (ofOne k h))) +
      Traffic.balance line (traffic (effects (ofOthers k h))) := by
  induction h with
  | nil => rfl
  | cons x h ih =>
    by_cases hx : x.1 = k
    · obtain ⟨hone, hothers⟩ := parts_of_eq hx h
      rw [hone, hothers, effects_cons, effects_cons, traffic_append, traffic_append, Traffic.balance_append,
        Traffic.balance_append, ih]
      omega
    · obtain ⟨hone, hothers⟩ := parts_of_ne hx h
      rw [hone, hothers, effects_cons, effects_cons, traffic_append, traffic_append, Traffic.balance_append,
        Traffic.balance_append, ih]
      omega

/-- The gauge shows one request more while the race goes on, and all other numbers are the same. -/
private theorem metrics_of_unheard {s : Session} {steps steps' : Nat} (hwaiting : ∀ x ∈ queue, x.2.stage = .waiting)
    (hs : ((fresh app).runFor steps queue).1.filter (·.1 = k) = [(k, s)]) (hhead : s.stage.status? = none)
    (hgauge : ∀ o ∈ observations (effects (ofOne k (history steps (fresh app) queue))), o.IsGauge)
    (hhistory : history steps' (fresh app) (queue.filter (·.1 ≠ k)) = ofOthers k (history steps (fresh app) queue))
    (halike : List.Forall₂ Alike (((fresh app).runFor steps queue).1.filter (·.1 ≠ k))
      ((fresh app).runFor steps' (queue.filter (·.1 ≠ k))).1) :
    ((fresh app).runFor steps queue).2.metrics =
      { ((fresh app).runFor steps' (queue.filter (·.1 ≠ k))).2.metrics with
        inflight := ((fresh app).runFor steps' (queue.filter (·.1 ≠ k))).2.metrics.inflight +
          if s.isRacing then 1 else 0 } := by
  have hwaiting' (x : Nat × Session) (hx : x ∈ queue.filter (·.1 ≠ k)) : x.2.stage = .waiting :=
    hwaiting x (List.mem_filter.1 hx).1
  have hfull := ((isAccounted_of_waiting app hwaiting).runFor steps).1.balance .inflight
  have hrest := ((isAccounted_of_waiting app hwaiting').runFor steps').1.balance .inflight
  apply Metrics.eq_of_ungauged_eq
  · rw [metrics_runFor, metrics_runFor, hhistory]
    exact ungauged_ofOthers rfl hgauge
  · have hshare := Session.share_inflight hhead
    rw [sum_share_filter k, hs, sum_share_of_alike halike, ← hrest] at hfull
    simp only [List.map_cons, List.map_nil, List.sum_cons, List.sum_nil, hshare, Metrics.balance] at hfull
    split at hfull
    · rename_i hracing
      rw [if_pos hracing]
      omega
    · rename_i hracing
      rw [if_neg hracing]
      omega

private theorem openOn_eq_toNat (srv : Server) (line : Nat) :
    srv.openOn line = (Traffic.balance line srv.log).toNat := by
  simp only [openOn, Traffic.openOn, Traffic.balance]
  omega

/-- A moment of serving some clients, after `steps` steps, at which client `k` has no head; and the same moment of
serving the others only, after `steps'` steps. -/
structure LeavesNoTrace (app : App) (clients : List Client) (k : Nat) (c : Client) (stage : Stage)
    (steps steps' : Nat) : Prop where
  present : (k, ⟨c, stage⟩) ∈ ((fresh app).runFor steps (enqueue clients)).1
  noHead : stage.status? = none
  /-- The others have done the same, in the same order. -/
  history : history steps' (fresh app) ((enqueue clients).filter (·.1 ≠ k)) =
    ofOthers k (history steps (fresh app) (enqueue clients))
  /-- They are as far, and have the same answers, except for the metrics that somebody may have asked for. -/
  others : List.Forall₂ Alike (((fresh app).runFor steps (enqueue clients)).1.filter (·.1 ≠ k))
    ((fresh app).runFor steps' ((enqueue clients).filter (·.1 ≠ k))).1
  /-- The metrics are the same, but for one more request under way as long as the race goes on. -/
  metrics : ((fresh app).runFor steps (enqueue clients)).2.metrics =
    { ((fresh app).runFor steps' ((enqueue clients).filter (·.1 ≠ k))).2.metrics with
      inflight := ((fresh app).runFor steps' ((enqueue clients).filter (·.1 ≠ k))).2.metrics.inflight +
        if Session.isRacing ⟨c, stage⟩ then 1 else 0 }
  /-- When the client has left, every connection that was made for it has ended. -/
  released : stage = .aborted → ∀ line,
    Traffic.releases line (traffic (effects (ofOne k (Server.history steps (fresh app) (enqueue clients))))) =
      (Traffic.calls line (traffic (effects (ofOne k (Server.history steps (fresh app) (enqueue clients)))))).length
  /-- The connections that are open are those of the others. -/
  openOn : stage = .aborted → ∀ line, ((fresh app).runFor steps (enqueue clients)).2.openOn line =
    ((fresh app).runFor steps' ((enqueue clients).filter (·.1 ≠ k))).2.openOn line
  /-- Nothing is done for the client any more: no call, no item that is pulled, nothing that is told the metrics. -/
  silent : stage = .aborted → ∀ more,
    effects (ofOne k (Server.history (steps + more) (fresh app) (enqueue clients))) =
      effects (ofOne k (Server.history steps (fresh app) (enqueue clients)))

/-- A session that is over does nothing in what follows. -/
private theorem effects_of_over {srv : Server} {s : Session} {steps : Nat}
    (hs : (srv.runFor steps queue).1.filter (·.1 = k) = [(k, s)]) (hover : s.due? = none) (more : Nat) :
    effects (ofOne k (history (steps + more) srv queue)) = effects (ofOne k (history steps srv queue)) := by
  obtain ⟨s', -, htrail⟩ := @trail_runFor (srv.runFor steps queue).2 (srv.runFor steps queue).1 k s hs more
  have hnothing := (htrail.of_over hover).1
  rw [ofOne] at hnothing
  rw [(runFor_add ..).2, ofOne, List.filter_append, effects_append, hnothing, List.append_nil]
  rfl

/-- A session that has no head leaves no trace but for the race that may still go on. -/
theorem leavesNoTrace_of_no_head {clients : List Client} {c : Client} (hc : clients[k]? = some c) {s : Session}
    {steps : Nat} (hs : ((fresh app).runFor steps (enqueue clients)).1.filter (·.1 = k) = [(k, s)])
    (hhead : s.stage.status? = none) : ∃ steps', LeavesNoTrace app clients k c s.stage steps steps' := by
  have hwaiting : Session.IsSound ⟨c, .waiting⟩ := Session.isSound_of_not_racing rfl
  obtain ⟨s₁, hs₁, htrail⟩ := @trail_runFor (fresh app) (enqueue clients) k _ (filter_enqueue hc) steps
  obtain rfl : s₁ = s := by
    rw [hs] at hs₁
    exact (Prod.mk.inj (List.cons.inj hs₁).1).2.symm
  obtain ⟨hclient, -⟩ := htrail.client_eq hwaiting
  have hunheard := htrail.unheard hwaiting hhead
  obtain ⟨steps', halike, hhistory⟩ := @runFor_without (fresh app) (fresh app) (enqueue clients) _ k rfl
    (alike_refl _) steps
  have hstage : s₁ = ⟨c, s₁.stage⟩ := by
    obtain ⟨client, stage⟩ := s₁
    rw [show client = c from hclient]
  refine ⟨steps', ?_, hhead, hhistory, halike, ?_, ?_, ?_, ?_⟩
  · have hmem : (k, s₁) ∈ ((fresh app).runFor steps (enqueue clients)).1.filter (·.1 = k) := by
      rw [hs]
      exact List.mem_singleton_self _
    rw [← hstage]
    exact (List.mem_filter.1 hmem).1
  · rw [← hstage]
    exact metrics_of_unheard (fun x => stage_of_mem_enqueue) hs hhead hunheard.isGauge hhistory halike
  · intro haborted line
    have hzero := hunheard.balance_of_aborted haborted line
    simp only [Traffic.balance] at hzero
    omega
  · intro haborted line
    rw [openOn_eq_toNat, openOn_eq_toNat, log_runFor, log_runFor, hhistory, Traffic.balance_append,
      Traffic.balance_append, balance_ofOthers k, hunheard.balance_of_aborted haborted, Int.zero_add]
  · intro haborted more
    have hover : s₁.due? = none := by simp only [Session.due?, haborted]
    exact effects_of_over hs hover more

/-- With enough steps everybody comes to the end of its session. -/
private theorem stage_of_endsAs {s s' : Session} {e : Stage} (hs : queue.filter (·.1 = k) = [(k, s)])
    (hends : s.EndsAs app e) {steps : Nat} (hwork : queueWork app queue ≤ steps)
    (hs' : ((fresh app).runFor steps queue).1.filter (·.1 = k) = [(k, s')]) : s'.stage = e := by
  have hmem : (k, s) ∈ queue := (List.mem_filter.1 (hs ▸ List.mem_singleton_self (k, s))).1
  obtain ⟨s₁, hmem₁, hstage⟩ := @runFor_endsAs (fresh app) steps k queue s e hmem hends hwork
  have hmem₂ : (k, s₁) ∈ [(k, s')] := by
    rw [← hs', List.mem_filter]
    exact ⟨hmem₁, by simp⟩
  obtain rfl : s₁ = s' := (Prod.mk.inj (List.mem_singleton.1 hmem₂)).2
  exact hstage

/-- Who has given up in the end has no head at any time. -/
private theorem status?_of_endsAs_aborted {s s' : Session} (hs : queue.filter (·.1 = k) = [(k, s)])
    (hsound : s.IsSound) (hends : s.EndsAs app .aborted) {steps : Nat}
    (hs' : ((fresh app).runFor steps queue).1.filter (·.1 = k) = [(k, s')])
    (htrail : Session.Trail app s (effects (ofOne k (history steps (fresh app) queue))) s') :
    s'.stage.status? = none := by
  obtain ⟨s₂, hs₂, htrail₂⟩ := @trail_runFor ((fresh app).runFor steps queue).2
    ((fresh app).runFor steps queue).1 k s' hs' (queueWork app queue)
  rw [← (runFor_add ..).1] at hs₂
  have hhead : s₂.stage.status? = none := by
    rw [stage_of_endsAs hs hends (Nat.le_add_left ..) hs₂]
    rfl
  exact (htrail₂.unheard (htrail.client_eq hsound).2 hhead).before

/-- A client whose patience is over before its race is gives its request up.  Whenever a request is given up, the
others are at every moment where they would be without it, and when the client has left, nothing of it remains. -/
theorem serve_departed (app : App) {clients : List Client} {k : Nat} {c : Client} {q : ClientRequest}
    {request : RaceRequest} (hc : clients[k]? = some c) (hasks : c.Asks q request) :
    (∀ p, c.patience = some p → c.sent + p < (Race.decide app.registry app.limit c.sent request).1.time →
      ((fresh app).serve clients).1[k]? = some .aborted) ∧
    (((fresh app).serve clients).1[k]? = some .aborted →
      ∀ steps, ∃ stage steps', LeavesNoTrace app clients k c stage steps steps' ∧
        (queueWork app (enqueue clients) ≤ steps → stage = .aborted)) := by
  have houtcome : ((fresh app).serve clients).1[k]? = some (c.outcome app) := serve_outcome hc hasks.endpoint
  refine ⟨?_, ?_⟩
  · intro p hp hlt
    rw [houtcome, hasks.outcome_eq, Client.conclusion_of_lt hp hlt]
  · intro haborted steps
    have hends : Session.EndsAs app (c.outcome app) ⟨c, .waiting⟩ := Session.endsAs_outcome hasks.endpoint
    rw [Option.some.inj (houtcome.symm.trans haborted)] at hends
    have hstart := filter_enqueue hc
    obtain ⟨s, hs, htrail⟩ := @trail_runFor (fresh app) (enqueue clients) k _ hstart steps
    have hhead := status?_of_endsAs_aborted hstart (Session.isSound_of_not_racing rfl) hends hs htrail
    obtain ⟨steps', htrace⟩ := leavesNoTrace_of_no_head hc hs hhead
    exact ⟨s.stage, steps', htrace, fun hwork => stage_of_endsAs hstart hends hwork hs⟩

/-- A backend that fails at 5, one whose stream begins at 10 with an empty chunk, and one that answers at 30. -/
private def trio : App where
  registry := ⟨[.scripted "down" 0 5 .crash (.failure (.timeout "down")),
    .scripted "empty" 1 10 .crash (.value [⟨0, .value (.content "")⟩, ⟨40, .value (.content "late")⟩]),
    .scripted "fast" 2 30 .crash (.value [⟨0, .value (.content "hi")⟩])]⟩
  limit := 100

private def toTrio : ClientRequest := ⟨"down,empty,fast", [⟨.user, "hi"⟩], .free, true, true, none⟩

/-- A client who asks all three at once. -/
private def runner (requestId : String) (patience : Option Nat) : Client where
  request := toTrio.post
  identity := ⟨requestId, "chatcmpl-1", 7⟩
  sent := 0
  patience := patience
  room := none

private theorem asks_runner : (runner "req_1" (some 20)).Asks toTrio
    ⟨"req_1", ["down", "empty", "fast"], [⟨.user, "hi"⟩], .free, true⟩ :=
  Client.asks_post rfl rfl rfl (by decide +kernel) rfl

/-- A client who leaves at 20, with one candidate failed, one streaming and one not there yet, leaves no trace for one
who stays. -/
theorem serve_runner_departed :
    ((fresh trio).serve [runner "req_1" (some 20), runner "req_2" none]).1[0]? = some .aborted ∧
      ∃ steps steps', LeavesNoTrace trio [runner "req_1" (some 20), runner "req_2" none] 0 (runner "req_1" (some 20))
        .aborted steps steps' := by
  have htime : (Race.decide trio.registry trio.limit 0
      ⟨"req_1", ["down", "empty", "fast"], [⟨.user, "hi"⟩], .free, true⟩).1.time = 30 := rfl
  obtain ⟨hgives, htraces⟩ := @serve_departed trio [runner "req_1" (some 20), runner "req_2" none] 0 _ _ _ rfl
    asks_runner
  have hend := hgives 20 rfl (by rw [show (runner "req_1" (some 20)).sent = 0 from rfl, htime]; decide)
  obtain ⟨stage, steps', htrace, hstage⟩ :=
    htraces hend (queueWork trio (enqueue [runner "req_1" (some 20), runner "req_2" none]))
  obtain rfl := hstage (Nat.le_refl _)
  exact ⟨hend, _, steps', htrace⟩

end Server

end ChatRace
