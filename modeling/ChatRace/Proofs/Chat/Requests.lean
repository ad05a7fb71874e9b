import ChatRace.Proofs.Json.Reading
import ChatRace.Gateway.Endpoint
import ChatRace.Provider.Payload

/-!
# Requests as documents

A client writes its request as a document (`ClientRequest.toJson`) and is taken for what it has written
(`ClientRequest.ofBody_post`): each entry is read into its field, and `null` like an entry that is missing
(`Provider.read_parameter`).  Only the sampling parameters are left out, whose texts are decimals of floats.  Any other
document is taken for what its tree is read as (`ClientRequest.ofBody_render`).
-/

namespace ChatRace

open Chat Json

/-! ### Parameters -/

namespace Provider

variable {α : Type} {write : α → Value}

/-- A parameter is read as it has been written, and `null` as the absence of one. -/
theorem read_parameter {read : Reader α} (hread : ∀ a, read (write a).node = .ok a)
    (hnull : ∀ a, (write a).node ≠ .null) (x : Option α) :
    Reader.optional read (parameter write x).node = .ok x := by
  cases x with
  | none => rfl
  | some a =>
    have hsome : Reader.optional read (write a).node = (read (write a).node).map some := by
      unfold Reader.optional
      split
      · rename_i h
        exact absurd h (hnull a)
      · rfl
    rw [parameter, hsome, hread]
    rfl

theorem isExact_parameter (hwrite : ∀ a, (write a).IsExact) (x : Option α) : (parameter write x).IsExact := by
  cases x with
  | none => exact .null
  | some a => exact hwrite a

theorem read_limit (n : Option UInt32) :
    Reader.optional Reader.word (parameter (fun n : UInt32 => .int n.toNat) n).node = .ok n :=
  read_parameter Reader.word_node (fun _ h => nomatch h) n

theorem isExact_limit (n : Option UInt32) : (parameter (fun n : UInt32 => .int n.toNat) n).IsExact :=
  isExact_parameter (fun _ => .int _) n

end Provider

/-! ### Messages -/

namespace Chat

theorem Role.reader_node (r : Role) : Role.reader (Value.text r.name).node = .ok r := by
  have hknown : Reader.known (Role.all.map Role.name) (quotedOf r.name) = .ok r.name := by
    rw [Reader.known, text_quotedOf]
    cases r <;> rfl
  rw [Value.node, Role.reader, Reader.variant, hknown]
  simp only [atRoot, Role.ofName?_name]

theorem Message.reader_toJson (m : Message) : Message.reader m.toJson.node = .ok m := by
  have hfills : Message.schema.Fills ⟨none, none⟩
      [("role", .text m.role.name), ("content", .text m.content)] ⟨some m.role, some m.content⟩ := by
    refine .field rfl rfl (.text m.role.name) (congrArg (Except.map _) m.role.reader_node) ?_
    exact .field rfl rfl (.text m.content) (congrArg (Except.map _) (Reader.text_node m.content)) (.nil ..)
  exact Record.reader_node hfills

theorem Message.isExact_toJson (m : Message) : m.toJson.IsExact := by simp [toJson]

/-- Messages are read one by one, whatever order their keys have. -/
theorem Message.read_messages {write : Message → Value} (h : ∀ m, Message.reader (write m).node = .ok m)
    (ms : List Message) : Reader.list Message.reader (Value.array (ms.map write)).node = .ok ms := by
  refine Reader.list_node ?_
  induction ms with
  | nil => exact .nil
  | cons m ms ih => exact .cons (h m) ih

/-! ### Requests -/

namespace ClientRequest

/-- A request without sampling parameters as a document. -/
def toJson (q : ClientRequest) : Value :=
  .object [
    ("model", .text q.model),
    ("messages", .array (q.messages.map Message.toJson)),
    ("max_tokens", Provider.parameter (fun n : UInt32 => .int n.toNat) q.generation.maxTokens),
    ("stream", .bool q.stream),
    ("fastest_response", .bool q.fastestResponse),
    ("user", Provider.parameter .text q.user)]

theorem isExact_toJson (q : ClientRequest) : q.toJson.IsExact := by
  have hlimit := Provider.isExact_limit q.generation.maxTokens
  have huser := Provider.isExact_parameter Value.IsExact.text q.user
  simp [toJson, hlimit, huser, Message.isExact_toJson]

theorem reader_toJson {q : ClientRequest} (htemperature : q.generation.temperature = none)
    (htopP : q.generation.topP = none) : reader q.toJson.node = .ok q := by
  obtain ⟨model, messages, ⟨limit, temperature, topP⟩, stream, fastestResponse, user⟩ := q
  obtain rfl : temperature = none := htemperature
  obtain rfl : topP = none := htopP
  have huser : Reader.optional Reader.text (Provider.parameter .text user).node = .ok user :=
    Provider.read_parameter Reader.text_node (fun _ h => nomatch h) user
  have huserExact := Provider.isExact_parameter Value.IsExact.text user
  have hmessages := Message.read_messages Message.reader_toJson messages
  have hfills : schema.Fills schema.empty
      [("model", .text model), ("messages", .array (messages.map Message.toJson)),
        ("max_tokens", Provider.parameter (fun n : UInt32 => .int n.toNat) limit), ("stream", .bool stream),
        ("fastest_response", .bool fastestResponse), ("user", Provider.parameter .text user)]
      ⟨some model, some messages, some limit, none, none, some stream, some fastestResponse, some user⟩ := by
    refine .field rfl rfl (.text model) (congrArg (Except.map _) (Reader.text_node model)) ?_
    refine .field rfl rfl (by simp [Message.isExact_toJson]) (congrArg (Except.map _) hmessages) ?_
    refine .field rfl rfl (Provider.isExact_limit limit) (congrArg (Except.map _) (Provider.read_limit limit)) ?_
    refine .field rfl rfl (.bool stream) rfl (.field rfl rfl (.bool fastestResponse) rfl ?_)
    exact .field rfl rfl huserExact (congrArg (Except.map _) huser) (.nil ..)
  exact Record.reader_node hfills

variable {r : Http.Request} {q : ClientRequest}

/-- A body that says it is JSON and is no longer than what is read is taken for what the tree of its document is
read as. -/
theorem ofBody_render {v : Value} (hv : v.IsExact) (hread : reader v.node = .ok q) (hjson : r.headers.saysJson = true)
    (hbody : r.body = Text.toUtf8 v.render) (hlength : r.body.length ≤ BodyFault.maxBody) : ofBody r = .ok q := by
  have hfirst : Json.decodeFirst reader r.body = .ok q := by
    rw [hbody, Json.decodeFirst, Document.ofBytes_render hv, hread]
  simp only [ofBody, hjson, Nat.not_lt.2 hlength, hfirst, Bool.not_true, Bool.false_eq_true, if_false]

/-- The request with the document of `q` as its body. -/
def post (q : ClientRequest) : Http.Request :=
  ⟨"POST", Endpoint.chat.path, Http.Headers.empty.append "content-type" "application/json",
    Text.toUtf8 q.toJson.render⟩

theorem find_post (q : ClientRequest) : Endpoint.find q.post = .ok .chat := by
  have hpath : String.ofList (Http.Request.pathOf (Endpoint.chat.path.toList.takeWhile fun c => c != '?' && c != '#')) =
      Endpoint.chat.path := by decide
  have hfound : Endpoint.ofPath? Endpoint.chat.path = some .chat := by decide
  simp only [Endpoint.find, Http.Request.path, post, hpath, hfound]
  rfl

theorem ofBody_post (htemperature : q.generation.temperature = none) (htopP : q.generation.topP = none)
    (hlength : q.post.body.length ≤ BodyFault.maxBody) : ofBody q.post = .ok q := by
  have hjson : q.post.headers.saysJson = true := rfl
  exact ofBody_render q.isExact_toJson (reader_toJson htemperature htopP) hjson rfl hlength

end ClientRequest

end Chat

end ChatRace
