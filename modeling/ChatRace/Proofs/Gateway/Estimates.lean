import ChatRace.Proofs.Chat.Usage
import ChatRace.Backend.Mock
import ChatRace.Proofs.Gateway.Admission
import ChatRace.Proofs.Provider.Framing

/-!
# Estimates of backends

A mock estimates the usage of its greeting, and of a provider's reply it is estimated if the provider does not tell it.
Both come to the same usage for the same texts, and it counts the words of the texts if they have fewer than `2 ^ 32`
characters, which the messages of all requests from clients have (`estimates_exact`).
-/

namespace ChatRace

open Chat Chat.Usage

namespace Provider

/-- A provider answers a request for a whole reply with a document. -/
def AnswersWith (network : Network) (s : Settings) (r : BackendRequest) (c : Completion) (latency : Nat) : Prop :=
  ∃ o delay status body endDelay, s.outgoing r false = .ok o ∧
    network o = .answered delay status body .complete endDelay ∧ isSuccess status = true ∧
    Json.decode answer.reader (bodyBytes body) = .ok c ∧ latency = delay + bodyTime body endDelay

/-- A provider that does not tell the usage is taken to have used what is estimated. -/
theorem AnswersWith.buffered {network : Network} {s : Settings} {r : BackendRequest} {c : Completion} {latency : Nat}
    (h : AnswersWith network s r c latency) {choice : Choice} (hchoice : c.choices.head? = some choice)
    (husage : c.usage = none) (line : Nat) (locate : Json.Locator) :
    (backend network s line locate).buffered r = ⟨latency, .value ⟨choice.content.getD "", choice.finishReason.getD "stop",
      estimate r.messages (choice.content.getD "")⟩⟩ := by
  obtain ⟨o, delay, status, body, endDelay, ho, hnetwork, hstatus, hdecode, rfl⟩ := h
  simp only [backend, course, ho, hnetwork, hstatus, if_true, readReply, hdecode, replyOf, hchoice, husage,
    Option.getD_none]

end Provider

namespace Mock

variable {m : Mock}

theorem buffered_of_healthy (hm : m.failure = .healthy) (line : Nat) (r : BackendRequest) :
    (m.backend line).buffered r = ⟨m.latency, .value ⟨m.content, "stop", estimate r.messages m.content⟩⟩ := by
  simp only [backend, hm, if_true, reply]

/-- The stream of a mock ends with the usage of its whole reply. -/
theorem streamed_of_healthy (hm : m.failure = .healthy) (line : Nat) (r : BackendRequest) :
    ∃ items, (m.backend line).streamed r = ⟨m.latency,
      .value (items ++ [⟨0, .value (.terminal "stop" (some (estimate r.messages m.content)))⟩])⟩ := by
  have hitems : ∃ items, m.items r = items ++ [m.lastItem r] := by
    unfold items
    split
    · exact ⟨[], rfl⟩
    · rw [hm]
      exact ⟨_, rfl⟩
  obtain ⟨items, hitems⟩ := hitems
  refine ⟨items, ?_⟩
  simp only [backend, hm, hitems]
  rfl

end Mock

/-- No backend is ever asked more by clients than `2 ^ 21` characters.  For messages and an answer of fewer than
`2 ^ 32` characters, no count of words is cut off and no sum on the way wraps, and there is one usage, which counts the
words of these texts, that a mock tells for its answer, whole or at the end of a stream, and that is put in the place of
the usage that a provider does not tell for the same answer. -/
theorem estimates_exact :
    (∀ (app : App) (clients : List Client) (steps line : Nat),
      ∀ r ∈ Traffic.calls line ((Server.fresh app).runFor steps (Server.enqueue clients)).2.log,
        contentLength r.messages ≤ 2 ^ 21) ∧
    ∀ (messages : List Message) (answer : String), contentLength messages < 2 ^ 32 → answer.length < 2 ^ 32 →
      (∀ before m after, messages = before ++ m :: after →
        (promptTokensOf before).toNat = wordTotal before ∧ (tokens m.content).toNat = Text.wordCount m.content ∧
          (promptTokensOf before).toNat + (tokens m.content).toNat < 2 ^ 32) ∧
      ∃ u : Usage, u.CountsWords messages answer ∧
        (∀ (m : Mock) (line : Nat) (r : BackendRequest), m.failure = .healthy → m.content = answer →
          r.messages = messages →
          (m.backend line).buffered r = ⟨m.latency, .value ⟨answer, "stop", u⟩⟩ ∧
          ∃ items, (m.backend line).streamed r =
            ⟨m.latency, .value (items ++ [⟨0, .value (.terminal "stop" (some u))⟩])⟩) ∧
        ∀ (network : Provider.Network) (s : Provider.Settings) (line : Nat) (r : BackendRequest)
          (c : Provider.Completion) (choice : Provider.Choice) (latency : Nat) (locate : Json.Locator),
          Provider.AnswersWith network s r c latency → r.messages = messages → c.choices.head? = some choice →
          choice.content.getD "" = answer → c.usage = none →
          (Provider.backend network s line locate).buffered r =
            ⟨latency, .value ⟨answer, choice.finishReason.getD "stop", u⟩⟩ := by
  refine ⟨?_, ?_⟩
  · intro app clients steps line r hr
    exact Server.contentLength_le_of_call app clients steps line hr
  · intro messages answer hmessages hanswer
    refine ⟨?_, estimate messages answer, countsWords_estimate hmessages hanswer, ?_, ?_⟩
    · rintro before m after rfl
      exact partialSum_exact hmessages
    · rintro m line r hm rfl rfl
      exact ⟨Mock.buffered_of_healthy hm line r, Mock.streamed_of_healthy hm line r⟩
    · rintro network s line r c choice latency locate h rfl hchoice rfl husage
      exact h.buffered hchoice husage line locate

/-- A request with three words in three messages. -/
private def threeWords : BackendRequest :=
  ⟨"req", "local", [⟨.system, " a\u3000b "⟩, ⟨.user, "\n"⟩, ⟨.user, "c"⟩], .free, false⟩

/-- The greeting of a mock as a provider sends it that does not tell the usage. -/
private def bareGreeting : List UInt8 :=
  Text.toUtf8 "\x7b\"choices\":[\x7b\"message\":\x7b\"content\":\"Hello from fast!\"\x7d\x7d]\x7d"

private def greetingNetwork : Provider.Network := fun _ => .answered 10 200 [⟨2, bareGreeting⟩] .complete 1

/-- The mock and the provider come to the same usage. -/
theorem estimates_of_greetings :
    ((Mock.backend { name := "fast", latency := 5 } 0).buffered threeWords).outcome =
        .value ⟨"Hello from fast!", "stop", ⟨3, 3, 6⟩⟩ ∧
      ((Provider.backend greetingNetwork Provider.loopback 1).buffered threeWords).outcome =
        .value ⟨"Hello from fast!", "stop", ⟨3, 3, 6⟩⟩ := by
  have hmessages : contentLength threeWords.messages < 2 ^ 32 := by decide
  have hanswer : "Hello from fast!".length < 2 ^ 32 := by decide
  obtain ⟨-, u, hu, hmock, hprovider⟩ := estimates_exact.2 threeWords.messages "Hello from fast!" hmessages hanswer
  have hprompt : wordTotal threeWords.messages = 3 := by decide +kernel
  have hwords : Text.wordCount "Hello from fast!" = 3 := by decide +kernel
  have hcounts : (⟨3, 3, 6⟩ : Usage).CountsWords threeWords.messages "Hello from fast!" :=
    ⟨hprompt.symm, hwords.symm, by rw [hprompt, hwords]; rfl⟩
  obtain rfl : u = ⟨3, 3, 6⟩ := hu.unique hcounts
  have hsaid : Mock.content { name := "fast", latency := 5 } = "Hello from fast!" := by decide
  have hdecode : Json.decode Provider.answer.reader (Provider.bodyBytes [⟨2, bareGreeting⟩]) =
      .ok ⟨[⟨some "Hello from fast!", none⟩], none⟩ := by decide +kernel
  have hanswers : Provider.AnswersWith greetingNetwork Provider.loopback threeWords
      ⟨[⟨some "Hello from fast!", none⟩], none⟩ 13 :=
    ⟨_, 10, 200, _, 1, Provider.outgoing_to_loopback threeWords, rfl, by decide, hdecode, rfl⟩
  refine ⟨?_, ?_⟩
  · rw [(hmock { name := "fast", latency := 5 } 0 threeWords rfl hsaid rfl).1]
  · rw [hprovider greetingNetwork Provider.loopback 1 threeWords _ _ 13 .mute hanswers rfl rfl rfl rfl]
    rfl

end ChatRace
