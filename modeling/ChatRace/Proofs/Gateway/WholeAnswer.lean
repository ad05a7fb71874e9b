import ChatRace.Gateway.Answer
import ChatRace.Proofs.Provider.Events

/-!
# Whole answers as a provider's

What this program answers with a whole reply is what it reads from a provider: if the body that a client gets of a
reply comes from a provider, in whatever frames, the reply is the same, with its own text, finish reason and usage
(`buffered_of_ofUnit`).  The document has everything that a reader may miss, so nothing is put in its place
(`decode_completion`).
-/

namespace ChatRace.Provider

open Chat Json

/-! ### The document of a reply -/

private abbrev wholeChoice : Record ChoiceDraft Choice :=
  choiceSchema "OpenAiChoice" "message" "OpenAiMessage" true

private theorem read_message (role t : String) :
    (contentSchema "OpenAiMessage").reader (Value.object [("role", .text role), ("content", .text t)]).node =
      .ok (some t) := by
  have hcontent : (contentSchema "OpenAiMessage").Fills ⟨none⟩ [("content", .text t)] ⟨some (some t)⟩ :=
    .field rfl rfl (.text t) (congrArg (Except.map _) (Reader.optional_text_node t)) (.nil ..)
  have hfills : (contentSchema "OpenAiMessage").Fills ⟨none⟩ [("role", .text role), ("content", .text t)]
      ⟨some (some t)⟩ :=
    .unknown rfl (.text role) hcontent
  exact Record.reader_node hfills

private theorem read_wholeChoice (role t reason : String) :
    wholeChoice.reader (Value.object [
        ("index", .int 0),
        ("message", .object [("role", .text role), ("content", .text t)]),
        ("finish_reason", .text reason)]).node = .ok ⟨some t, some reason⟩ := by
  have hfills : wholeChoice.Fills ⟨none, none⟩ [
      ("index", .int 0),
      ("message", .object [("role", .text role), ("content", .text t)]),
      ("finish_reason", .text reason)] ⟨some (some t), some (some reason)⟩ := by
    refine .unknown rfl (.int 0) ?_
    refine .field rfl rfl (by simp) (congrArg (Except.map _) (read_message role t)) ?_
    exact .field rfl rfl (.text reason) (congrArg (Except.map _) (Reader.optional_text_node reason)) (.nil ..)
  exact Record.reader_node hfills

/-- The document of a reply is read as one choice with the text and the finish reason, and the usage. -/
private theorem read_completion (s : Stamp) (reply : Reply) :
    answer.reader (s.completion reply).node =
      .ok ⟨[⟨some reply.content, some reply.finishReason⟩], some reply.usage⟩ := by
  have hchoices := Reader.list_node (.cons (read_wholeChoice "assistant" reply.content reply.finishReason) .nil)
  have husage : Reader.optional usageSchema.reader reply.usage.toJson.node = .ok (some reply.usage) :=
    congrArg (Except.map some) (read_usage reply.usage)
  -- with both fields filled in, the record ends in the document that is claimed
  show answer.reader (s.completion reply).node = atRoot (answer.finish
    ⟨some [⟨some reply.content, some reply.finishReason⟩], some (some reply.usage)⟩)
  refine Record.reader_node ?_
  refine .unknown rfl (.text s.id) ?_
  refine .unknown rfl (.text "chat.completion") ?_
  refine .unknown rfl (.int s.created) ?_
  refine .unknown rfl (.text s.model) ?_
  refine .field rfl rfl (by simp) (congrArg (Except.map _) hchoices) ?_
  exact .field rfl rfl (by simp [Usage.toJson]) (congrArg (Except.map _) husage) (.nil ..)

theorem decode_completion (s : Stamp) (reply : Reply) :
    Json.decode answer.reader (Text.toUtf8 (s.completion reply).render) =
      .ok ⟨[⟨some reply.content, some reply.finishReason⟩], some reply.usage⟩ := by
  have hexact : (s.completion reply).IsExact := by simp [Stamp.completion, Usage.toJson]
  rw [decode_render answer.reader hexact, read_completion]

/-! ### Replies -/

/-- A reply that is read from its own document lacks nothing, whatever has been asked. -/
theorem readReply_completion {frames : List Frame} {s : Stamp} {reply : Reply}
    (hbody : bodyBytes frames = Text.toUtf8 (s.completion reply).render) (r : BackendRequest) :
    readReply r frames .complete = .value reply := by
  simp only [readReply, hbody, decode_completion]
  rfl

/-- If the body of the answer with a winner's reply comes from a provider under the status of the answer, in whatever
frames, the reply to any request is the winner's. -/
theorem buffered_of_ofUnit {i : Identity} {winner : String} {line now : Nat} {room : Option Nat} {reply : Reply}
    {response : Http.Response}
    (hanswer : WinnerResponse.ofUnit i winner line now room (.buffered reply) = .whole response)
    {s : Settings} {r : BackendRequest} {o : Outgoing} {network : Network} {delay endDelay : Nat}
    {frames : List Frame} (ho : s.outgoing r false = .ok o)
    (hnetwork : network o = .answered delay response.status frames .complete endDelay)
    (hbody : bodyBytes frames = Text.toUtf8 response.body) (line' : Nat) (locate : Json.Locator) :
    response.status = 200 ∧
      (backend network s line' locate).buffered r = ⟨delay + bodyTime frames endDelay, .value reply⟩ := by
  obtain rfl := WinnerResponse.whole.inj hanswer
  have hreply : readReply r frames .complete = .value reply := readReply_completion hbody r
  have hsuccess : isSuccess 200 = true := by decide
  refine ⟨rfl, ?_⟩
  simp only [backend, course, ho, hnetwork, hsuccess, if_true, hreply]

/-- A reply without text or finish reason, whose counts do not add up. -/
private def curt : Reply := ⟨"", "", ⟨0, 4294967295, 7⟩⟩

/-- The document of the reply in two frames, cut within a key. -/
private def halves : List Frame :=
  let octets := Text.toUtf8 ((Stamp.completion ⟨"chatcmpl-1", 1700000000, "bäckend"⟩ curt).render)
  [⟨4, octets.take 40⟩, ⟨0, octets.drop 40⟩]

private def answering : Network := fun _ => .answered 10 200 halves .complete 2

/-- Nothing is put in the place of what is empty, nor of the total. -/
theorem buffered_of_ofUnit_curt :
    (backend answering loopback 0).buffered greeting = ⟨16, .value ⟨"", "", ⟨0, 4294967295, 7⟩⟩⟩ := by
  have hanswer : WinnerResponse.ofUnit ⟨"req", "chatcmpl-1", 1700000000⟩ "bäckend" 3 5 none (.buffered curt) =
      .whole ⟨200, WinnerResponse.headers "application/json" "bäckend",
        (Stamp.completion ⟨"chatcmpl-1", 1700000000, "bäckend"⟩ curt).render⟩ := rfl
  have hnetwork (o : Outgoing) : answering o = .answered 10 200 halves .complete 2 := rfl
  have hbody : bodyBytes halves =
      Text.toUtf8 (Stamp.completion ⟨"chatcmpl-1", 1700000000, "bäckend"⟩ curt).render := by
    simp [bodyBytes, halves]
  exact (buffered_of_ofUnit hanswer outgoing_loopback (hnetwork _) hbody 0 .mute).2

end ChatRace.Provider
