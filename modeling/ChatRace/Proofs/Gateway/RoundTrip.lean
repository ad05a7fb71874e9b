import ChatRace.Gateway.Answer
import ChatRace.Proofs.Provider.Events

/-!
# Answers as a provider's

What this program streams is what it reads from a provider: if the body that a client gets of a winner's chunks
comes from a provider, in whatever frames and with whatever comments between the events, the items are the texts of
the chunks up to the one that ends the answer, and a terminal chunk with its finish reason and usage
(`streamed_of_relayed`).
-/

namespace ChatRace.Provider

open Chat

/-- What the items come to that are read from the events for some chunks. -/
def echo (cs : List Chunk) : List (Outcome Chunk) :=
  ((Relay.heard cs).filterMap (·.text?)).map (fun t => .value (.content t)) ++
    [.value (.terminal (Relay.finishReason cs) (Relay.usage? cs))]

/-- What an item comes to that is read from an event.  Nothing is read from an error, and behind it the answer ends
like one that has said everything. -/
def echoed : Relay.Event → List (Outcome Chunk)
  | .text t => [.value (.content t)]
  | .finish reason usage => [.value (.terminal reason usage)]
  | .error _ => [.value (.terminal "stop" none)]
  | .role | .done => []

private theorem told_texts (ending : Ending) {ts : List String} (hts : ∀ t ∈ ts, t.isEmpty = false)
    (ms : List Remark) :
    told ending none none ((ts.map Relay.Event.text).map remarkOf ++ ms) =
      (ts.map Relay.Event.text).flatMap echoed ++ told ending none none ms := by
  induction ts with
  | nil => rfl
  | cons t ts ih =>
    have ht := hts t (List.mem_cons_self ..)
    have hrest := ih fun u hu => hts u (List.mem_cons_of_mem t hu)
    have htext : Completion.text? ⟨[⟨some t, none⟩], none⟩ = some t := by
      simp [Completion.text?, ht]
    rw [List.map_cons, List.map_cons, List.cons_append, remarkOf, told, htext]
    exact congrArg _ hrest

private theorem told_closing (ending : Ending) (x : Option (Except BackendError Chunk)) :
    told ending none none ([Relay.closing x, .done].map remarkOf) = [Relay.closing x, .done].flatMap echoed := by
  rcases x with _ | e | c
  · rfl
  · rfl
  · cases hu : c.usage <;> simp [Relay.closing, remarkOf, told, echoed, hu, terminalOf, Completion.text?,
      Completion.finishReason?]

/-- The events of an answer tell its texts, and how it ends. -/
theorem told_script (ending : Ending) (xs : List (Except BackendError Chunk)) :
    told ending none none ((Relay.script xs).map remarkOf) = (Relay.script xs).flatMap echoed := by
  have hts : ∀ t ∈ (Relay.relayed xs).filterMap Relay.text?, t.isEmpty = false := by
    intro t ht
    obtain ⟨x, -, hx⟩ := List.mem_filterMap.1 ht
    cases x with
    | ok c =>
      have hkept := (Option.filter_eq_some_iff.1 hx).2
      simpa using hkept
    | error e => simp [Relay.text?] at hx
  have hrole (ms : List Remark) : told ending none none (remarkOf .role :: ms) = told ending none none ms := rfl
  rw [Relay.script, Relay.scriptTail, List.map_cons, hrole, List.map_append, told_texts ending hts, told_closing,
    ← List.flatMap_append]
  rfl

section

variable {i : Identity} {winner : String} {line now : Nat} {first : Chunk} {headers : Http.Headers}
  {t : Transmission} {texts : List String} {s : Settings} {r : BackendRequest} {o : Outgoing} {network : Network}
  {delay status endDelay : Nat} {frames : List Frame} {ending : Ending}

/-- If the body of the answer to what has come comes from a provider, in whatever frames and with whatever comments
between the events, the items are what is read from its events. -/
theorem outcomes_of_relayed {later : List (Nat × Except BackendError Chunk)}
    (hanswer : WinnerResponse.ofUnit i winner line now none (.streamed first (Relay.arrivals later)) =
      .streamed headers t)
    (htexts : texts.filter (· ≠ Relay.keepAlive) = t.run.1.1.texts.filter (· ≠ Relay.keepAlive))
    (ho : s.outgoing r true = .ok o) (hstatus : isSuccess status = true)
    (hnetwork : network o = .answered delay status frames ending endDelay)
    (hbody : bodyBytes frames = Text.toUtf8 (String.join texts)) (line' : Nat) (locate : Json.Locator) :
    ∃ items, ((backend network s line' locate).streamed r).outcome = .value items ∧
      items.map (·.outcome) = (Relay.script (.ok first :: later.map (·.2))).flatMap echoed := by
  obtain ⟨-, rfl⟩ := WinnerResponse.streamed.inj hanswer
  have hevents : texts.filter (· ≠ Relay.keepAlive) =
      (Relay.payloads (i.stamp winner) first (Relay.arrivals later)).map Relay.frame :=
    htexts.trans (Transmission.events_run_start ..)
  refine ⟨_, outcome_streamed ho hnetwork hstatus line' locate, ?_⟩
  have hsaid : (Relay.payloads (i.stamp winner) first (Relay.arrivals later)).map (saying locate) =
      (Relay.script (.ok first :: later.map (·.2))).map remarkOf := by
    rw [Relay.payloads_eq_script, List.map_map]
    exact List.map_congr_left fun e _ => saying_data (i.stamp winner) e
  rw [outcomes_eq_told, hbody, ← told_filter, remarks_of_frames (fun d hd => newline_notMem_payload hd) hevents,
    told_filter, hsaid, told_script]

end

/-- If the body of the answer with a winner's chunks comes from a provider, in whatever frames and with whatever
comments between the events, the items are the texts of the chunks up to the one that ends the answer, and one
terminal chunk with its finish reason and usage. -/
theorem streamed_of_relayed {i : Identity} {winner : String} {line now : Nat} {first : Chunk}
    {later : List (Nat × Chunk)} {headers : Http.Headers} {t : Transmission}
    (hanswer : WinnerResponse.ofUnit i winner line now none (.streamed first (Relay.itemsOf later)) =
      .streamed headers t)
    {texts : List String}
    (htexts : texts.filter (· ≠ Relay.keepAlive) = t.run.1.1.texts.filter (· ≠ Relay.keepAlive))
    {s : Settings} {r : BackendRequest} {o : Outgoing} {network : Network} {delay status endDelay : Nat}
    {frames : List Frame} {ending : Ending} (ho : s.outgoing r true = .ok o) (hstatus : isSuccess status = true)
    (hnetwork : network o = .answered delay status frames ending endDelay)
    (hbody : bodyBytes frames = Text.toUtf8 (String.join texts)) (line' : Nat) (locate : Json.Locator) :
    ∃ items, ((backend network s line' locate).streamed r).outcome = .value items ∧
      items.map (·.outcome) = echo (first :: later.map (·.2)) := by
  have hecho (cs : List Chunk) : (Relay.script (cs.map .ok)).flatMap echoed = echo cs := by
    rw [Relay.script_chunks, echo, List.cons_append, List.flatMap_cons, List.flatMap_append, List.flatMap_map,
      List.map_eq_flatMap]
    rfl
  rw [Relay.itemsOf_eq] at hanswer
  rw [← hecho, ← Relay.map_snd_chunks]
  exact outcomes_of_relayed hanswer htexts ho hstatus hnetwork hbody line' locate

private def verse : Chunk := .content "\"é\"\r\n\\\x01"

/-- A chunk without text that ends the answer after a pause, and one behind it. -/
private def coda : List (Nat × Chunk) := [(12000, ⟨some "", some "length", none, true⟩), (0, .content "lost")]

private def relayed : Transmission :=
  .start 0 0 none (Relay.beats (Identity.stamp ⟨"req", "chatcmpl-1", 1700000000⟩ "bäckend")
    verse (Relay.itemsOf coda))

/-- The frames of the answer, in which there is a comment already, with one more in front. -/
private def commented : List String := Relay.keepAlive :: relayed.run.1.1.texts

private def echoing : Network := fun _ =>
  .answered 0 200 [⟨0, []⟩, ⟨3, Text.toUtf8 (String.join commented)⟩] .cut 0

/-- Quotes, line ends and a control character come back, and what stands behind the end of the answer does not. -/
theorem streamed_of_relayed_verse : ∃ items,
    ((backend echoing loopback 0).streamed greeting).outcome = .value items ∧
      items.map (·.outcome) =
        [.value (.content "\"é\"\r\n\\\x01"), .value (.terminal "length" none)] := by
  have hanswer : WinnerResponse.ofUnit ⟨"req", "chatcmpl-1", 1700000000⟩ "bäckend" 0 0 none
      (.streamed verse (Relay.itemsOf coda)) = .streamed (WinnerResponse.streamHeaders "bäckend") relayed := rfl
  have hstatus : isSuccess 200 = true := by decide
  have htexts : commented.filter (· ≠ Relay.keepAlive) = relayed.run.1.1.texts.filter (· ≠ Relay.keepAlive) := by
    simp [commented]
  have hbody : bodyBytes [⟨0, []⟩, ⟨3, Text.toUtf8 (String.join commented)⟩] =
      Text.toUtf8 (String.join commented) := by
    simp [bodyBytes]
  have hecho : echo [verse, ⟨some "", some "length", none, true⟩, .content "lost"] =
      [.value (.content "\"é\"\r\n\\\x01"), .value (.terminal "length" none)] := by
    decide +kernel
  rw [← hecho]
  exact streamed_of_relayed hanswer htexts outgoing_loopback hstatus rfl hbody 0 .mute

end ChatRace.Provider
