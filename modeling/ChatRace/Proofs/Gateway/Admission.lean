import ChatRace.Proofs.Chat.Contents
import ChatRace.Proofs.Gateway.Attempts

/-!
# How much backends are asked

A body that is too long is not read, so the messages of a request that has been read have no more characters than a
body may have octets (`ClientRequest.contentLength_le_of_ofBody`).  All calls of a session are made for the request of
its client (`Session.countP_step`), so this is the most that any backend is asked while clients are served
(`contentLength_le_of_call`).
-/

namespace ChatRace

open Chat

/-- The messages of a request from a client have no more characters than its body may have octets. -/
theorem Chat.ClientRequest.contentLength_le_of_ofBody {r : Http.Request} {q : ClientRequest}
    (h : ClientRequest.ofBody r = .ok q) : contentLength q.messages ≤ BodyFault.maxBody := by
  unfold ofBody at h
  split at h
  · cases h
  split at h
  · cases h
  · rename_i hshort
    split at h
    · rename_i c hc
      obtain rfl := Except.ok.inj h
      have hread : contentLength c.messages ≤ (Json.Document.ofBytes r.body).root.textSize := isBounded_reader _ _ hc
      have hdocument := Json.Document.textSize_ofBytes r.body
      omega
    · cases h

namespace Traffic

/-- A call that asks a backend more than can be in a body. -/
def isOversize : Traffic → Bool
  | .called _ r => BodyFault.maxBody < contentLength r.messages
  | .pulled _ | .released _ => false

/-- Where no calls are made, none asks too much. -/
private theorem countP_isOversize_of_launched {log : List Traffic} (h : launched log = 0) :
    log.countP isOversize = 0 := by
  refine Nat.le_zero.1 (h ▸ List.countP_mono_left ?_)
  intro t _ ht
  cases t with
  | called line r => rfl
  | pulled line | released line => cases ht

end Traffic

namespace Session

variable {app : App} {metrics : Metrics} {s : Session} {q : ClientRequest}

private theorem countP_receive (hq : contentLength q.messages ≤ BodyFault.maxBody) :
    (traffic (s.receive app q).2).countP Traffic.isOversize = 0 := by
  have hrefuse (p : Problem) :
      (traffic (.observe .enter :: (s.refuse s.client.sent q.stream p).2)).countP Traffic.isOversize = 0 :=
    congrArg (List.countP Traffic.isOversize) (effects_refuse s s.client.sent q.stream p).1
  cases hr : q.toRace s.client.identity.requestId with
  | error refusal =>
    simp only [receive, hr]
    exact hrefuse _
  | ok request =>
    cases he : Race.enter app.registry app.limit s.client.sent request with
    | error e =>
      simp only [receive, hr, he]
      exact hrefuse _
    | ok race =>
      obtain rfl := ClientRequest.of_toRace_eq_ok hr
      obtain ⟨bs, -, -, rfl⟩ := Race.of_enter_eq_ok he
      simp only [receive, hr, he]
      split
      · rfl
      · -- each candidate is asked what the client has asked
        refine (congrArg (List.countP Traffic.isOversize) (traffic_line _)).trans ?_
        rw [Race.log_launch, List.countP_map, List.countP_eq_zero]
        intro b _
        simpa [Traffic.isOversize, RaceRequest.forBackend] using hq

private theorem countP_arrive : (traffic (s.arrive app metrics).2).countP Traffic.isOversize = 0 := by
  cases hf : Endpoint.find s.client.request with
  | error response =>
    simp only [arrive, hf]
    rfl
  | ok e =>
    cases e with
    | health | metrics | models =>
      simp only [arrive, hf]
      rfl
    | chat =>
      cases hb : ClientRequest.ofBody s.client.request with
      | error f =>
        simp only [arrive, hf, hb]
        rfl
      | ok q =>
        simp only [arrive, hf, hb]
        exact countP_receive (ClientRequest.contentLength_le_of_ofBody hb)

private theorem traffic_afterRace (s : Session) (stream : Bool) (p : Progress) :
    traffic (s.afterRace stream p).2 = [] := by
  cases p with
  | running r => rfl
  | decided verdict =>
    obtain ⟨now, result⟩ := verdict
    cases result with
    | error e => exact (effects_refuse s now stream e.problem).1
    | ok v => exact traffic_accept s now v

/-- No step of a session asks a backend more than can be in a body. -/
theorem countP_step (h : s.IsSound) (app : App) (metrics : Metrics) :
    (traffic (s.step app metrics).2).countP Traffic.isOversize = 0 := by
  -- calls are made by the first step only
  cases hs : s.stage with
  | waiting =>
    simp only [step, hs]
    exact countP_arrive
  | racing stream r =>
    obtain ⟨-, -, -, -, -, hr⟩ := h stream r hs
    have hlines {log : List Traffic} {effects : List Effect} (hlog : ∀ line, Traffic.calls line log = [])
        (heffects : traffic effects = []) : (traffic (log.map .line ++ effects)).countP Traffic.isOversize = 0 := by
      rw [traffic_append, traffic_line, heffects, List.append_nil]
      exact Traffic.countP_isOversize_of_launched (Traffic.launched_eq_zero hlog)
    simp only [step, hs]
    split
    · exact hlines (Race.calls_cancelAll r.entrants) rfl
    · exact hlines hr.calls_step (traffic_afterRace s stream r.step.1)
  | relaying headers headTime t =>
    have hlaunched := Transmission.launched_step t
    cases ht : t.step with
    | mk f log =>
      rw [ht] at hlaunched
      cases f <;> simp only [step, hs, ht, traffic_line] <;>
        exact Traffic.countP_isOversize_of_launched hlaunched
  | answered a | aborted =>
    simp only [step, hs]
    rfl

end Session

namespace Server

/-- Whoever asks for what, no backend is ever asked more than can be in a body. -/
theorem contentLength_le_of_call (app : App) (clients : List Client) (steps line : Nat) {r : BackendRequest}
    (h : r ∈ Traffic.calls line ((fresh app).runFor steps (enqueue clients)).2.log) :
    contentLength r.messages ≤ BodyFault.maxBody := by
  have hsound (x : Nat × Session) (hx : x ∈ enqueue clients) : x.2.IsSound := by
    refine Session.isSound_of_not_racing ?_
    rw [Session.isRacing, stage_of_mem_enqueue hx]
  -- no step makes an oversize call, so there are none in the history
  obtain ⟨-, hnone⟩ := sum_runFor (fresh app) Session.IsSound (fun _ => 0)
    (fun effects => (traffic effects).countP Traffic.isOversize) rfl
    (fun xs ys => by rw [traffic_append, List.countP_append])
    (fun s metrics hs => ⟨(Session.settles_step hs app metrics).sound, by
      rw [Nat.zero_add]
      exact Session.countP_step hs app metrics⟩) hsound steps
  have hlog : ((fresh app).runFor steps (enqueue clients)).2.log.countP Traffic.isOversize = 0 := by
    rw [log_runFor]
    simpa [fresh] using hnone
  obtain ⟨t, ht, hcall⟩ := List.mem_filterMap.1 h
  have hsize := List.countP_eq_zero.1 hlog t ht
  cases t with
  | called line' r' =>
    obtain rfl : r' = r := by
      simp only [Option.ite_none_right_eq_some, Option.some.injEq] at hcall
      exact hcall.2
    simpa [Traffic.isOversize] using hsize
  | pulled line' | released line' => cases hcall

end Server

end ChatRace
