import ChatRace.Proofs.Chat.Requests
import ChatRace.Proofs.Provider.Framing

/-!
# From one gateway to another

What is sent to a provider is a request that this program takes itself: the document of a request without sampling
parameters is read as the same request (`decode_payload`).  The writer has a list of entries with `null` for what is
absent, the reader a record with fields that may be missing; they are compared entry by entry, a message being read
from its own two (`reader_message`).
-/

namespace ChatRace

open Chat Json

namespace Provider

private theorem reader_message (m : Message) : Message.reader (message m).node = .ok m := by
  have hfills : Message.schema.Fills ⟨none, none⟩
      [("content", .text m.content), ("role", .text m.role.name)] ⟨some m.role, some m.content⟩ := by
    refine .field rfl rfl (.text m.content) (congrArg (Except.map _) (Reader.text_node m.content)) ?_
    exact .field rfl rfl (.text m.role.name) (congrArg (Except.map _) m.role.reader_node) (.nil ..)
  exact Record.reader_node hfills

variable {r : BackendRequest}

private theorem isExact_payload (htemperature : r.generation.temperature = none)
    (htopP : r.generation.topP = none) (stream : Bool) : (payload r stream).IsExact := by
  have hlimit := isExact_limit r.generation.maxTokens
  have habsent (write : Float32 → Value) : parameter write none = .null := rfl
  rw [payload, htemperature, htopP, habsent]
  cases stream <;> simp [hlimit, message]

/-- The entries of a request's document fill in a client's request: the wish for usage is passed over, and `null`
is read as the absence of a parameter. -/
private theorem read_payload (htemperature : r.generation.temperature = none)
    (htopP : r.generation.topP = none) (stream : Bool) :
    ClientRequest.reader (payload r stream).node =
      .ok ⟨r.model, r.messages, r.generation, stream, false, none⟩ := by
  obtain ⟨id, model, messages, ⟨limit, temperature, topP⟩, asked⟩ := r
  obtain rfl : temperature = none := htemperature
  obtain rfl : topP = none := htopP
  -- the state in which all that the gateway writes has been read; it has no field for a race or a user
  let filled : ClientRequest.Draft :=
    ⟨some model, some messages, some limit, some none, some none, some stream, none, none⟩
  have hmessages := Message.read_messages reader_message messages
  have hlast : ClientRequest.schema.Fills { filled with temperature := none, topP := none }
      [("temperature", .null), ("top_p", .null)] filled :=
    .field rfl rfl .null rfl (.field rfl rfl .null rfl (.nil ..))
  have hfills : ClientRequest.schema.Fills ClientRequest.schema.empty
      ([("max_tokens", parameter (fun n : UInt32 => .int n.toNat) limit),
        ("messages", .array (messages.map message)), ("model", .text model), ("stream", .bool stream)] ++
        (if stream then [("stream_options", .object [("include_usage", .bool true)])] else []) ++
        [("temperature", .null), ("top_p", .null)]) filled := by
    refine .field rfl rfl (isExact_limit limit) (congrArg (Except.map _) (read_limit limit)) ?_
    refine .field rfl rfl (by simp [message]) (congrArg (Except.map _) hmessages) ?_
    refine .field rfl rfl (.text model) (congrArg (Except.map _) (Reader.text_node model)) ?_
    refine .field rfl rfl (.bool stream) rfl ?_
    cases stream with
    | false => exact hlast
    | true => exact .unknown rfl (by simp) hlast
  exact Record.reader_node hfills

private theorem body_of_outgoing {s : Settings} {stream : Bool} {o : Outgoing}
    (ho : s.outgoing r stream = .ok o) : o.body = (payload r stream).render := by
  unfold Settings.outgoing at ho
  -- one refusal after another, and then the request
  iterate 4
    split at ho
    · cases ho
  cases ho
  rfl

/-- The document of a request without sampling parameters is read as a client's request with the same model, the
same messages and the same limit, which asks for no race and names no user; a wish for usage stands in it if and only
if a stream is asked for.  So a gateway takes what any other has sent, if it gets it as JSON and reads bodies of that
length. -/
theorem decode_payload (htemperature : r.generation.temperature = none) (htopP : r.generation.topP = none)
    (stream : Bool) :
    let text := Text.toUtf8 (payload r stream).render
    let q : ClientRequest := ⟨r.model, r.messages, r.generation, stream, false, none⟩
    Json.decode ClientRequest.reader text = .ok q ∧
      ((Document.ofBytes text).root.member? "stream_options").isSome = stream ∧
      ∀ (s : Settings) (o : Outgoing) (received : Http.Request), s.outgoing r stream = .ok o →
        received.body = Text.toUtf8 o.body → received.headers.saysJson = true →
        received.body.length ≤ BodyFault.maxBody → ClientRequest.ofBody received = .ok q := by
  intro text q
  have hread : ClientRequest.reader (payload r stream).node = .ok q := read_payload htemperature htopP stream
  have hexact := isExact_payload htemperature htopP stream
  have hdocument : Document.ofBytes text = ⟨(payload r stream).node, false⟩ := Document.ofBytes_render hexact
  refine ⟨?_, ?_, fun s o received ho hbody hjson hlength => ?_⟩
  · simp only [Json.decode, hdocument, hread, Bool.false_eq_true, if_false]
  · rw [hdocument, payload, Value.member?_node]
    cases stream <;> rfl
  · rw [body_of_outgoing ho] at hbody
    exact ClientRequest.ofBody_render hexact hread hjson hbody hlength

/-- The stream that is asked for is the one of the call, whatever the request says. -/
theorem decode_payload_greeting :
    Json.decode ClientRequest.reader (Text.toUtf8 (payload greeting false).render) =
        .ok ⟨"local", [⟨.user, "hi"⟩], .free, false, false, none⟩ ∧
      ClientRequest.ofBody ⟨"POST", "/v1/chat/completions",
          Http.Headers.empty.insert "content-type" "application/json",
          Text.toUtf8 (payload greeting false).render⟩ =
        .ok ⟨"local", [⟨.user, "hi"⟩], .free, false, false, none⟩ := by
  obtain ⟨hdecode, -, hbody⟩ := decode_payload (r := greeting) rfl rfl false
  exact ⟨hdecode, hbody loopback _ _ outgoing_loopback rfl (by decide +kernel) (by decide +kernel)⟩

end Provider

end ChatRace
