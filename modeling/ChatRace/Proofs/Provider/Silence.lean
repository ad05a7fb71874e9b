import ChatRace.Proofs.Attempt.FirstUnit
import ChatRace.Proofs.Provider.Remarks
import ChatRace.Race.Basic

/-!
# Providers that say nothing

A provider may answer with success and yet say nothing: no line of the body carries a choice or ends the answer.
An attempt at it fails if a line is faulty or the body breaks off, and then with the first error
(`alone_of_silence`).  Otherwise the end of the body makes a terminal chunk, which is a unit like any other, and
can win a race against a backend that has something to say (`decide_of_empty_body`).
-/

namespace ChatRace.Provider

open Chat

namespace Remark

/-- Whether a line carries no choice and does not end the answer with its mark. -/
def IsSilent : Remark → Prop
  | .done => False
  | .event c => c.choices = []
  | .nothing | .malformed _ | .garbled _ => True

/-- The error that a line makes. -/
def error? : Remark → Option BackendError
  | .malformed e | .garbled e => some e
  | .nothing | .event _ | .done => none

/-- The usage that a line carries. -/
def usage? : Remark → Option Usage
  | .event c => c.usage
  | .nothing | .malformed _ | .garbled _ | .done => none

end Remark

/-- The first error that a body makes whose lines say nothing: that of a line, or the one that breaks it off. -/
def firstError? (ending : Ending) (ms : List Remark) : Option BackendError :=
  (ms.findSome? (·.error?)).or ending.error?

/-- The last usage that the lines of a body carry, or else the one that was there before. -/
def lastUsage (before : Option Usage) (ms : List Remark) : Option Usage :=
  ms.foldl (fun usage m => m.usage? <|> usage) before

/-! ### What is told -/

variable {ending : Ending} {finishReason : Option String} {usage : Option Usage} {ms : List Remark}

private theorem told_cons_of_silent {m : Remark} (hm : m.IsSilent) (he : m.error? = none) :
    told ending finishReason usage (m :: ms) = told ending finishReason (m.usage? <|> usage) ms := by
  cases m with
  | nothing => rfl
  | event c =>
    have hc : c.choices = [] := hm
    simp [told, Completion.text?, Completion.finishReason?, hc, Remark.usage?]
  | malformed e | garbled e => cases he
  | done => exact hm.elim

private theorem told_cons_of_error {m : Remark} {e : BackendError} (he : m.error? = some e) :
    ∃ rest, told ending finishReason usage (m :: ms) = .failure e :: rest := by
  cases m with
  | nothing | event c | done => cases he
  | malformed e' =>
    obtain rfl : e' = e := Option.some.inj he
    exact ⟨_, rfl⟩
  | garbled e' =>
    obtain rfl : e' = e := Option.some.inj he
    exact ⟨_, rfl⟩

/-- Lines that say nothing come to the first error, or else to the terminal chunk alone. -/
theorem told_of_silent (h : ∀ m ∈ ms, m.IsSilent) :
    match firstError? ending ms with
    | some e => ∃ rest, told ending finishReason usage ms = .failure e :: rest
    | none => told ending finishReason usage ms = [terminalOf finishReason (lastUsage usage ms)] := by
  induction ms generalizing usage with
  | nil => cases he : ending.error? <;> simp [firstError?, told, lastUsage, he]
  | cons m ms ih =>
    cases he : m.error? with
    | none =>
      have hrest := @ih (m.usage? <|> usage) fun m' hm' => h m' (List.mem_cons_of_mem m hm')
      simpa only [firstError?, List.findSome?_cons, he, lastUsage, List.foldl_cons,
        told_cons_of_silent (h m (List.mem_cons_self ..)) he] using hrest
    | some e =>
      have hfirst : firstError? ending (m :: ms) = some e := by simp [firstError?, he]
      rw [hfirst]
      exact told_cons_of_error he

/-! ### Attempts -/

/-- An attempt at a provider that says nothing fails with the first error that a line of the body or its end makes;
if there is none, a terminal chunk is its unit. -/
theorem alone_of_silence {s : Settings} {r : BackendRequest} {o : Outgoing} {network : Network}
    {delay status endDelay : Nat} {frames : List Frame} {locate : Json.Locator} (hr : r.stream = true)
    (ho : s.outgoing r true = .ok o) (hstatus : isSuccess status = true)
    (hanswer : network o = .answered delay status frames ending endDelay)
    (hsilent : ∀ m ∈ remarks locate (bodyBytes frames), m.IsSilent) (line now : Nat) :
    ∃ t, ((Attempt.create (backend network s line locate) r).launch now).1.alone now = some (t,
      match firstError? ending (remarks locate (bodyBytes frames)) with
      | some e => .error e
      | none => .ok (.streamed (.terminal "stop" (lastUsage none (remarks locate (bodyBytes frames)))) [])) := by
  have hitems := outcome_streamed ho hanswer hstatus line locate
  have htold := outcomes_eq_told locate 0 ending endDelay frames
  have hsaid := @told_of_silent ending none none _ hsilent
  rw [← htold] at hsaid
  cases he : firstError? ending (remarks locate (bodyBytes frames)) with
  | some e =>
    rw [he] at hsaid
    obtain ⟨rest, hrest⟩ := hsaid
    obtain ⟨i, items, hread, hi, -⟩ := List.map_eq_cons_iff.1 hrest
    rw [hread] at hitems
    have hunit : ((backend network s line locate).firstUnit r).outcome = .failure e := by
      simp [Backend.firstUnit, hr, hitems, firstOfUse, hi]
    exact ⟨_, by rw [Attempt.alone_launch, hunit]; rfl⟩
  | none =>
    rw [he] at hsaid
    obtain ⟨i, items, hread, hi, hnil⟩ := List.map_eq_cons_iff.1 hsaid
    rw [hread] at hitems
    rw [List.map_eq_nil_iff] at hnil
    have husable (usage : Option Usage) : (Chunk.terminal "stop" usage).isUsable = true := rfl
    have hunit : ((backend network s line locate).firstUnit r).outcome =
        .value (.streamed (.terminal "stop" (lastUsage none (remarks locate (bodyBytes frames)))) []) := by
      simp [Backend.firstUnit, hr, hitems, firstOfUse, hi, hnil, terminalOf, husable]
    exact ⟨_, by rw [Attempt.alone_launch, hunit]; rfl⟩

/-- A web page in two frames. -/
private def page : List Frame :=
  [⟨0, Text.toUtf8 "<html>\r\n<body>"⟩, ⟨5, Text.toUtf8 "Sorry</body>\n</html>"⟩]

private def pageNetwork : Network := fun _ => .answered 0 200 page .complete 0

/-- An attempt at a provider that answers with a web page has an empty answer as its unit. -/
theorem alone_of_web_page : ∃ t,
    ((Attempt.create (backend pageNetwork loopback 0) greeting).launch 0).1.alone 0 =
      some (t, .ok (.streamed (.terminal "stop" none) [])) := by
  have hsaid : remarks .mute (bodyBytes page) = [.nothing, .nothing] := by decide +kernel
  have hanswer (o : Outgoing) : pageNetwork o = .answered 0 200 page .complete 0 := rfl
  have hstatus : isSuccess 200 = true := by decide
  have hsilent : ∀ m ∈ remarks .mute (bodyBytes page), m.IsSilent := by simp [hsaid, Remark.IsSilent]
  have h := alone_of_silence rfl outgoing_loopback hstatus (hanswer _) hsilent 0 0
  rwa [hsaid] at h

private def emptyNetwork : Network := fun _ => .answered 5 200 [] .complete 0

/-- A provider with an empty body, and a backend that streams a word after 300. -/
private def hasty : Registry := .ofList [
  backend emptyNetwork loopback 0,
  .scripted "talker" 1 300 .crash (.value [⟨0, .value (.content "hi")⟩, ⟨5, .value (.terminal "stop" none)⟩])]

/-- The empty body wins the race, with nothing to say. -/
theorem decide_of_empty_body :
    (Race.decide hasty 1000 0 ⟨"req", ["local", "talker"], [⟨.user, "hi"⟩], .free, true⟩).1.result.toOption.map
      (fun v => (v.winner, v.latency, v.unit)) = some ("local", 5, .streamed (.terminal "stop" none) []) := by
  decide +kernel

end ChatRace.Provider
