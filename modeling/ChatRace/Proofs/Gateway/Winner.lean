import ChatRace.Proofs.Gateway.Ending

/-!
# Answers by winners

What the client of a won race gets is told by the winner's unit and the time at which the winner has it, and
nothing else of the race goes into it (`outcome_of_leads`).  So in two runs that agree in the winner and its time the
clients have the same answer, whatever the other candidates are and do (`serve_losers_invisible`).
-/

namespace ChatRace

open Chat

/-! ### Clients that are alike -/

/-- Two clients who send at the same time, wait and read alike, and whose answers get the same identifier and the
same time of creation. -/
structure Client.IsLike (c d : Client) : Prop where
  sent : c.sent = d.sent
  patience : c.patience = d.patience
  room : c.room = d.room
  answerId : c.identity.answerId = d.identity.answerId
  created : c.identity.created = d.identity.created

/-- The line on which the winner is reached does not show. -/
theorem Client.IsLike.ending_eq {c d : Client} (h : c.IsLike d) (winner : String) (line line' w : Nat)
    (u : FirstUnit) : c.ending winner line w u = d.ending winner line' w u := by
  have hstamp : c.identity.stamp winner = d.identity.stamp winner := by
    simp only [Identity.stamp, h.answerId, h.created]
  have hleaves : c.leavesBy w = d.leavesBy w := by simp only [leavesBy, h.sent, h.patience]
  cases u with
  | buffered reply => simp only [ending, WinnerResponse.ofUnit, hleaves, h.sent, h.room, hstamp]
  | streamed first rest =>
    have hstart : Transmission.start line w d.room (Relay.beats (d.identity.stamp winner) first rest) =
        (Transmission.start line' w d.room (Relay.beats (d.identity.stamp winner) first rest)).onLine line := by
      cases Relay.beats (d.identity.stamp winner) first rest <;> rfl
    simp only [ending, WinnerResponse.ofUnit, hleaves, h.sent, h.room, hstamp, hstart, Transmission.run_onLine]
    rfl

/-! ### Led races -/

/-- All candidates of a request are registered, and `id` has the unit `u` at `w`, in time, before any other has one,
and when no other becomes ready in any way. -/
structure Race.Leads (registry : Registry) (limit now : Nat) (request : RaceRequest) (id : String) (w : Nat)
    (u : FirstUnit) : Prop where
  known : ∀ a ∈ request.candidates, (registry.get? a).isSome
  answers : Answers registry limit now request id w u
  others : ∀ a ∈ request.candidates, a ≠ id → ∀ t x, aloneOf registry now request a = some (t, x) →
    t ≠ w ∧ ∀ u', x = .ok u' → w < t

/-- A client whose race has a leader ends with the answer that is made of the leader's unit. -/
theorem Client.outcome_of_leads {app : App} {c : Client} {q : ClientRequest} {request : RaceRequest} {id : String}
    {b : Backend} {w : Nat} {u : FirstUnit} (hasks : c.Asks q request)
    (hleads : Race.Leads app.registry app.limit c.sent request id w u) (hb : app.registry.get? id = some b) :
    c.outcome app = c.ending id b.line w u := by
  obtain ⟨bs, hbs⟩ := Race.exists_resolve hleads.known
  have hnodup : request.candidates.Nodup := by
    rw [ClientRequest.of_toRace_eq_ok hasks.accepted]
    exact nodup_candidates q.model
  have hlimit : app.limit ≠ 0 := by
    have hnow := Race.now_le_of_aloneOf hleads.answers.2.1
    have hlt := hleads.answers.2.2
    omega
  have hled := Race.ledBy_launched hbs hnodup hb hleads.answers hleads.others
  rw [hasks.outcome_eq, Race.decide_eq_run (List.ne_nil_of_mem hleads.answers.1) hbs hlimit, hled.run_eq]
  show c.ending b.name b.line w u = c.ending id b.line w u
  rw [Registry.name_of_get? hb]

/-! ### Two runs -/

/-- Two backends do the same with a call each. -/
structure Backend.ActsLike (b c : Backend) (q r : BackendRequest) : Prop where
  buffered : b.buffered q = c.buffered r
  streamed : b.streamed q = c.streamed r

private theorem isLike_attempt {b c : Backend} {q r : RaceRequest} (hname : b.name = c.name)
    (hstream : q.stream = r.stream) (h : b.ActsLike c (q.forBackend b.name) (r.forBackend c.name)) (now : Nat) :
    (Race.attempt b now q).IsLike (Race.attempt c now r) := by
  have hlatency : (Attempt.create b (q.forBackend b.name)).latency =
      (Attempt.create c (r.forBackend c.name)).latency := by
    have hstream' : (q.forBackend b.name).stream = (r.forBackend c.name).stream := hstream
    simp only [Attempt.latency, Attempt.create, hstream', h.buffered, h.streamed]
    congr
  refine ⟨hname, hstream, h.buffered, h.streamed, ?_⟩
  simp only [Race.attempt, Attempt.launch, hlatency]
  rfl

/-- Take two servers and whatever clients they serve, and on each a client whose request is accepted; the requests
differ at most in their candidates, and the clients send, wait and read alike.  If the same backend leads both races
and has its unit at the same time, both clients end with the same answer, frames and times included, whatever the
other candidates are and do. -/
theorem Server.serve_losers_invisible {srv₁ srv₂ : Server} {cs₁ cs₂ : List Client} {k₁ k₂ : Nat} {c₁ c₂ : Client}
    {q₁ q₂ : ClientRequest} {r₁ r₂ : RaceRequest} {id : String} {b₁ b₂ : Backend} {w : Nat} {u₁ u₂ : FirstUnit}
    (hc₁ : cs₁[k₁]? = some c₁) (hc₂ : cs₂[k₂]? = some c₂) (hlike : c₁.IsLike c₂)
    (hasks₁ : c₁.Asks q₁ r₁) (hasks₂ : c₂.Asks q₂ r₂)
    (hq : q₂ = { q₁ with model := q₂.model, fastestResponse := q₂.fastestResponse })
    (hleads₁ : Race.Leads srv₁.app.registry srv₁.app.limit c₁.sent r₁ id w u₁)
    (hleads₂ : Race.Leads srv₂.app.registry srv₂.app.limit c₂.sent r₂ id w u₂)
    (hb₁ : srv₁.app.registry.get? id = some b₁) (hb₂ : srv₂.app.registry.get? id = some b₂)
    (hsame : b₁.ActsLike b₂ (r₁.forBackend id) (r₂.forBackend id)) :
    ∃ e, (srv₁.serve cs₁).1[k₁]? = some e ∧ (srv₂.serve cs₂).1[k₂]? = some e ∧
      (c₁.patience = none → ∃ a, e = .answered a ∧ a.status = 200) := by
  have hname₁ := Registry.name_of_get? hb₁
  have hname₂ := Registry.name_of_get? hb₂
  have hstream : r₁.stream = r₂.stream := by
    rw [ClientRequest.of_toRace_eq_ok hasks₁.accepted, ClientRequest.of_toRace_eq_ok hasks₂.accepted, hq]
  have hunits : u₁ = u₂ := by
    have hcourse := isLike_attempt (hname₁.trans hname₂.symm) hstream (hname₁ ▸ hname₂ ▸ hsame) c₁.sent
    have halone := hcourse.alone_eq c₁.sent
    have hu₁ := (Race.aloneOf_eq hb₁).symm.trans hleads₁.answers.2.1
    have hu₂ := (Race.aloneOf_eq hb₂).symm.trans hleads₂.answers.2.1
    rw [← hlike.sent, ← halone, hu₁] at hu₂
    simpa using hu₂
  have hend₁ : (srv₁.serve cs₁).1[k₁]? = some (c₁.outcome srv₁.app) := serve_outcome hc₁ hasks₁.endpoint
  have hend₂ : (srv₂.serve cs₂).1[k₂]? = some (c₂.outcome srv₂.app) := serve_outcome hc₂ hasks₂.endpoint
  rw [Client.outcome_of_leads hasks₁ hleads₁ hb₁] at hend₁
  rw [Client.outcome_of_leads hasks₂ hleads₂ hb₂] at hend₂
  refine ⟨c₁.ending id b₁.line w u₁, hend₁, ?_, ?_⟩
  · rw [hlike.ending_eq id b₁.line b₂.line w u₁, hunits]
    exact hend₂
  · intro hpatience
    have hstays : c₁.leavesBy w = false := by simp only [Client.leavesBy, hpatience, Option.any_none]
    cases u₁ <;> exact ⟨_, by simp only [Client.ending, hstays]; rfl, rfl⟩

/-- A backend on some line that streams a word at 35, after an empty chunk, and breaks off later. -/
private def winner (line : Nat) : Backend := .scripted "fast" line 30 .crash
  (.value [⟨0, .value (.content "")⟩, ⟨5, .value (.content "hi")⟩, ⟨20000, .failure (.timeout "gone")⟩])

/-- A server whose only backend is the winner, and one on which others crash at 10 and answer at 80. -/
private def quiet : Server := .fresh { registry := .ofList [winner 0], limit := 100 }

private def crowded : Server := .fresh {
  registry := .ofList [
    .scripted "down" 0 10 .crash .crash,
    .scripted "slow" 1 80 .crash (.value [⟨0, .value (.content "late")⟩]),
    winner 2]
  limit := 60 }

private def question (model : String) (fastestResponse : Bool) : ClientRequest :=
  ⟨model, [⟨.user, "hi"⟩], .free, true, fastestResponse, none⟩

/-- A client who asks a question at once. -/
private def sender (requestId : String) (q : ClientRequest) : Client where
  request := q.post
  identity := ⟨requestId, "chatcmpl-1", 7⟩
  sent := 0
  patience := none
  room := none

private def alone : Client := sender "req_1" (question "fast" false)

private def amongOthers : Client := sender "req_2" (question "slow,down,fast" true)

private def unit : FirstUnit := .streamed (.content "hi") [⟨20000, .failure (.timeout "gone")⟩]

private def raced (requestId : String) (ids : List String) : RaceRequest :=
  ⟨requestId, ids, [⟨.user, "hi"⟩], .free, true⟩

private theorem asks_alone : alone.Asks (question "fast" false) (raced "req_1" ["fast"]) :=
  Client.asks_post rfl rfl rfl (by decide +kernel) rfl

private theorem asks_amongOthers :
    amongOthers.Asks (question "slow,down,fast" true) (raced "req_2" ["slow", "down", "fast"]) :=
  Client.asks_post rfl rfl rfl (by decide +kernel) rfl

private theorem leads_quiet :
    Race.Leads quiet.app.registry quiet.app.limit 0 (raced "req_1" ["fast"]) "fast" 35 unit := by
  refine ⟨by decide +kernel, ⟨by decide, rfl, by decide⟩, ?_⟩
  intro a ha hne
  exact absurd (List.mem_singleton.1 ha) hne

private theorem leads_crowded : Race.Leads crowded.app.registry crowded.app.limit 0
    (raced "req_2" ["slow", "down", "fast"]) "fast" 35 unit := by
  refine ⟨by decide +kernel, ⟨by decide, rfl, by decide⟩, ?_⟩
  have hlate : Race.aloneOf crowded.app.registry 0 (raced "req_2" ["slow", "down", "fast"]) "slow" =
      some (80, .ok (.streamed (.content "late") [])) := rfl
  have hdown : Race.aloneOf crowded.app.registry 0 (raced "req_2" ["slow", "down", "fast"]) "down" =
      some (10, .error (.unavailable "attempt against down ended without a result")) := rfl
  intro a ha hne t x hx
  simp only [raced, List.mem_cons, List.not_mem_nil, or_false] at ha
  rcases ha with rfl | rfl | rfl
  · obtain ⟨rfl, -⟩ : 80 = t ∧ .ok (.streamed (.content "late") []) = x := by simpa using hlate.symm.trans hx
    exact ⟨by decide, fun _ _ => by decide⟩
  · obtain ⟨rfl, rfl⟩ : 10 = t ∧ .error _ = x := by simpa using hdown.symm.trans hx
    exact ⟨by decide, by simp⟩
  · exact absurd rfl hne

/-- The client who asks for the winner alone and the one who asks for others too have the same answer. -/
theorem Server.serve_alone_or_among_others : ∃ e a, (quiet.serve [alone]).1[0]? = some e ∧
    (crowded.serve [alone, amongOthers]).1[1]? = some e ∧ e = .answered a ∧ a.status = 200 := by
  have hc₁ : [alone][0]? = some alone := rfl
  have hc₂ : [alone, amongOthers][1]? = some amongOthers := rfl
  obtain ⟨e, h₁, h₂, ha⟩ := serve_losers_invisible hc₁ hc₂ ⟨rfl, rfl, rfl, rfl, rfl⟩ asks_alone asks_amongOthers
    rfl leads_quiet leads_crowded rfl rfl ⟨rfl, rfl⟩
  obtain ⟨a, he, hstatus⟩ := ha rfl
  exact ⟨e, a, h₁, h₂, he, hstatus⟩

end ChatRace
