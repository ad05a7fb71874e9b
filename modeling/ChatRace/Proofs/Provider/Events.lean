import ChatRace.Proofs.Provider.Remarks
import ChatRace.Proofs.Relay.Lines
import ChatRace.Proofs.Text.Octets

/-!
# Reading the events of an answer

A provider may send the very events that a client of this program gets.  The line of each says what the event was
written for: the role nothing, a piece of text that text, the end the finish reason and the usage (`saying_role`,
`saying_delta`, `saying_finish`).  The blank lines and the comments between them say nothing (`remarks_of_frames`).
-/

namespace ChatRace.Provider

open Chat Json

/-! ### Lines -/

theorem wholeLines_append {bs : List UInt8} (h : 0x0A ∉ bs) (rest : List UInt8) :
    wholeLines (bs ++ 0x0A :: rest) = (bs ++ [0x0A]) :: wholeLines rest := by
  induction bs with
  | nil => simp [wholeLines]
  | cons b bs ih =>
    have hb : b ≠ 0x0A := fun hb => h (hb ▸ List.mem_cons_self ..)
    have hrest := ih fun hmem => h (List.mem_cons_of_mem b hmem)
    rw [List.cons_append, wholeLines, if_neg hb, hrest]
    rfl

variable {locate : Json.Locator}

theorem remarks_append_line {line : String} (h : '\n' ∉ line.toList) (rest : String) :
    remarks locate (Text.toUtf8 (line ++ "\n" ++ rest)) =
      remark locate (Text.toUtf8 (line ++ "\n")) :: remarks locate (Text.toUtf8 rest) := by
  have hfeed : 0x0A ∉ Text.toUtf8 line := by
    rw [Text.toUtf8_eq, List.mem_flatMap]
    rintro ⟨c, hc, hb⟩
    have hcode := Text.toNat_of_mem_octets hb (by decide)
    have hc' : c = '\n' := by rw [← Char.ofNat_toNat c, hcode]; rfl
    exact h (hc' ▸ hc)
  have hline : Text.toUtf8 "\n" = [0x0A] := rfl
  rw [remarks, remarks, Text.toUtf8_append, Text.toUtf8_append, hline, List.append_assoc, List.singleton_append,
    wholeLines_append hfeed, List.map_cons]

namespace EventReader

/-- The data of a line are what stands behind the mark and a blank. -/
theorem dataOf?_line {data : String} (h : Text.IsTrimmed data.toList) :
    dataOf? ("data: " ++ data ++ "\n") = some data := by
  obtain ⟨z, hlast, hz⟩ := h.last
  have hmarked : Text.IsTrimmed ("data: ".toList ++ data.toList) :=
    ⟨⟨'d', rfl, by decide⟩, ⟨z, by rw [List.getLast?_append, hlast]; rfl, hz⟩⟩
  have hline : Text.trimChars ("data: " ++ data ++ "\n").toList = "data: ".toList ++ data.toList := by
    have htrim : Text.trimChars ([] ++ ("data: ".toList ++ data.toList) ++ ['\n']) =
        "data: ".toList ++ data.toList := hmarked.trimChars_append (by simp) (by simp; decide)
    simpa using htrim
  have hdata : Text.trimChars (' ' :: data.toList) = data.toList := by
    have htrim : Text.trimChars ([' '] ++ data.toList ++ []) = data.toList :=
      h.trimChars_append (by simp; decide) (by simp)
    simpa using htrim
  have hprefix : "data:".toList.isPrefixOf ("data: ".toList ++ data.toList) = true := rfl
  have hdrop : ("data: ".toList ++ data.toList).drop 5 = ' ' :: data.toList := rfl
  simp only [dataOf?, hline, hprefix, if_true, hdrop, hdata, String.ofList_toList]

end EventReader

/-- What a line says that holds some data. -/
def saying (locate : Json.Locator) (data : String) : Remark :=
  remark locate (Text.toUtf8 ("data: " ++ data ++ "\n"))

theorem saying_doneMark : saying locate Relay.doneMark = .done := by
  have htrimmed : Text.IsTrimmed Relay.doneMark.toList := ⟨⟨'[', rfl, by decide⟩, ⟨']', rfl, by decide⟩⟩
  simp only [saying, remark, Text.decode_toUtf8, EventReader.dataOf?_line htrimmed]
  rfl

private theorem remark_blank : remark locate (Text.toUtf8 ("" ++ "\n")) = .nothing :=
  remark_of_dataOf?_eq_none (by decide) locate

/-- A comment and the blank line behind it say nothing. -/
theorem remarks_keepAlive_append (rest : String) :
    remarks locate (Text.toUtf8 (Relay.keepAlive ++ rest)) =
      .nothing :: .nothing :: remarks locate (Text.toUtf8 rest) := by
  have hcomment : remark locate (Text.toUtf8 (":" ++ "\n")) = .nothing := remark_of_dataOf?_eq_none (by decide) locate
  have hlines : Relay.keepAlive ++ rest = ":" ++ "\n" ++ ("" ++ "\n" ++ rest) := by
    simp [Relay.keepAlive, ← String.append_assoc]
  rw [hlines, remarks_append_line (by decide), remarks_append_line (by decide), remark_blank, hcomment]

/-- An event says what its data say, and the blank line behind it nothing. -/
theorem remarks_frame_append {data : String} (h : '\n' ∉ data.toList) (rest : String) :
    remarks locate (Text.toUtf8 (Relay.frame data ++ rest)) =
      saying locate data :: .nothing :: remarks locate (Text.toUtf8 rest) := by
  have hline : '\n' ∉ ("data: " ++ data).toList := by simp [h]
  have hlines : Relay.frame data ++ rest = "data: " ++ data ++ "\n" ++ ("" ++ "\n" ++ rest) := by
    rw [Relay.frame_eq h]
    simp only [String.append_assoc, String.empty_append]
  rw [hlines, remarks_append_line hline, remarks_append_line (by decide), remark_blank, saying]

/-- What the lines of some events say, with comments between the events, is what their data say. -/
theorem remarks_of_frames {data texts : List String} (hline : ∀ d ∈ data, '\n' ∉ d.toList)
    (htexts : texts.filter (· ≠ Relay.keepAlive) = data.map Relay.frame) :
    (remarks locate (Text.toUtf8 (String.join texts))).filter (· ≠ .nothing) =
      (data.map (saying locate)).filter (· ≠ .nothing) := by
  induction texts generalizing data with
  | nil =>
    obtain rfl : data = [] := List.map_eq_nil_iff.1 htexts.symm
    rfl
  | cons t texts ih =>
    rw [String.join_cons]
    by_cases ht : t = Relay.keepAlive
    · have hrest : texts.filter (· ≠ Relay.keepAlive) = data.map Relay.frame := by simpa [ht] using htexts
      rw [ht, remarks_keepAlive_append]
      simpa using ih hline hrest
    · rw [List.filter_cons_of_pos (by simpa using ht)] at htexts
      obtain ⟨d, ds, rfl, rfl, hds⟩ := List.map_eq_cons_iff.1 htexts.symm
      have hrest := ih (fun e he => hline e (List.mem_cons_of_mem d he)) hds.symm
      rw [remarks_frame_append (hline d (List.mem_cons_self ..)), List.map_cons, List.filter_cons, List.filter_cons,
        List.filter_cons, hrest]
      simp

/-! ### Records -/

/-- An entry that may be left out. -/
private def entryOf (key : String) (v : Option Value) : List (String × Value) := (v.map fun v => (key, v)).toList

theorem read_usage (u : Usage) : usageSchema.reader u.toJson.node = .ok u := by
  have hfills : usageSchema.Fills ⟨none, none, none⟩ [
      ("prompt_tokens", .int u.promptTokens.toNat), ("completion_tokens", .int u.completionTokens.toNat),
      ("total_tokens", .int u.totalTokens.toNat)]
      ⟨some u.promptTokens, some u.completionTokens, some u.totalTokens⟩ := by
    refine .field rfl rfl (.int _) (congrArg (Except.map _) (Reader.word_node _)) ?_
    refine .field rfl rfl (.int _) (congrArg (Except.map _) (Reader.word_node _)) ?_
    refine .field rfl rfl (.int _) (congrArg (Except.map _) (Reader.word_node _)) ?_
    exact .nil ..
  exact Record.reader_node hfills

private theorem isExact_usage (u : Usage) : u.toJson.IsExact := by simp [Usage.toJson]

theorem read_content (name t : String) :
    (contentSchema name).reader (Value.object [("content", .text t)]).node = .ok (some t) := by
  have hfills : (contentSchema name).Fills ⟨none⟩ [("content", .text t)] ⟨some (some t)⟩ :=
    .field rfl rfl (.text t) (congrArg (Except.map _) (Reader.optional_text_node t)) (.nil ..)
  exact Record.reader_node hfills

theorem read_role (name role : String) :
    (contentSchema name).reader (Value.object [("role", .text role)]).node = .ok none := by
  have hfills : (contentSchema name).Fills ⟨none⟩ [("role", .text role)] ⟨none⟩ :=
    .unknown rfl (.text role) (.nil ..)
  exact Record.reader_node hfills

theorem read_empty (name : String) : (contentSchema name).reader (Value.object []).node = .ok none :=
  Record.reader_node (.nil (contentSchema name) ⟨none⟩)

private abbrev streamChoice : Record ChoiceDraft Choice :=
  choiceSchema "OpenAiStreamChoice" "delta" "OpenAiDelta" false

variable {delta : List (String × Value)} {content : Option String}

private theorem read_choice (hdelta : (contentSchema "OpenAiDelta").reader (Value.object delta).node = .ok content)
    (hexact : ∀ e ∈ delta, e.2.IsExact) (reason : Option String) :
    streamChoice.reader (Value.object ([("index", .int 0), ("delta", .object delta)] ++
      entryOf "finish_reason" (reason.map .text))).node = .ok ⟨content, reason⟩ := by
  have hreason : streamChoice.Fills ⟨some content, none⟩ (entryOf "finish_reason" (reason.map .text))
      ⟨some content, reason.map some⟩ := by
    cases reason with
    | none => exact .nil ..
    | some t => exact .field rfl rfl (.text t) (congrArg (Except.map _) (Reader.optional_text_node t)) (.nil ..)
  have hfills : streamChoice.Fills ⟨none, none⟩
      ([("index", .int 0), ("delta", .object delta)] ++ entryOf "finish_reason" (reason.map .text))
      ⟨some content, reason.map some⟩ := by
    refine .unknown rfl (.int 0) ?_
    refine .field rfl rfl (.object hexact) (congrArg (Except.map _) hdelta) ?_
    exact hreason
  rw [Record.reader_node hfills]
  cases reason <;> rfl

private theorem read_event (hdelta : (contentSchema "OpenAiDelta").reader (Value.object delta).node = .ok content)
    (hexact : ∀ e ∈ delta, e.2.IsExact) (s : Stamp) (reason : Option String) (usage : Option Usage) :
    event.reader (s.event delta (entryOf "finish_reason" (reason.map .text))
      (entryOf "usage" (usage.map Usage.toJson))).node = .ok ⟨[⟨content, reason⟩], usage⟩ := by
  have hchoices := Reader.list_node (.cons (read_choice hdelta hexact reason) .nil)
  have husage : event.Fills ⟨some [⟨content, reason⟩], none⟩ (entryOf "usage" (usage.map Usage.toJson))
      ⟨some [⟨content, reason⟩], usage.map some⟩ := by
    cases usage with
    | none => exact .nil ..
    | some u =>
      have hread : Reader.optional usageSchema.reader u.toJson.node = .ok (some u) :=
        congrArg (Except.map some) (read_usage u)
      exact .field rfl rfl (isExact_usage u) (congrArg (Except.map _) hread) (.nil ..)
  have hread : event.reader (s.event delta (entryOf "finish_reason" (reason.map .text))
      (entryOf "usage" (usage.map Usage.toJson))).node =
        atRoot (event.finish ⟨some [⟨content, reason⟩], usage.map some⟩) := by
    refine Record.reader_node ?_
    refine .unknown rfl (.text s.id) ?_
    refine .unknown rfl (.text "chat.completion.chunk") ?_
    refine .unknown rfl (.int s.created) ?_
    refine .unknown rfl (.text s.model) ?_
    refine .field rfl rfl ?_ (congrArg (Except.map _) hchoices) husage
    cases reason <;> simpa [entryOf] using hexact
  rw [hread]
  cases usage <;> rfl

private theorem isExact_event (hexact : ∀ e ∈ delta, e.2.IsExact) (s : Stamp) (reason : Option String)
    (usage : Option Usage) :
    (s.event delta (entryOf "finish_reason" (reason.map .text))
      (entryOf "usage" (usage.map Usage.toJson))).IsExact := by
  cases reason <;> cases usage <;> simpa [Stamp.event, entryOf, isExact_usage] using hexact

/-! ### Events -/

/-- The text of an object is trimmed and is not the mark that ends an answer. -/
private theorem isTrimmed_object (es : List (String × Value)) :
    Text.IsTrimmed (Value.object es).render.toList ∧ (Value.object es).render ≠ EventReader.doneMark := by
  have hrender : (Value.object es).render.toList =
      '\x7b' :: ((",".intercalate (Value.renderEntries es)).toList ++ ['\x7d']) := by
    simp [Value.render]
  refine ⟨⟨⟨'\x7b', by rw [hrender]; rfl, by decide⟩, ⟨'\x7d', ?_, by decide⟩⟩, ?_⟩
  · rw [hrender, ← List.cons_append, List.getLast?_append]
    rfl
  · intro h
    have hhead := congrArg (·.toList.head?) h
    simp [hrender, EventReader.doneMark] at hhead

/-- The line with the text of an event says what the event says. -/
private theorem saying_render {es : List (String × Value)} {c : Completion} (hexact : (Value.object es).IsExact)
    (hread : event.reader (Value.object es).node = .ok c) :
    saying locate (Value.object es).render = .event c := by
  obtain ⟨htrimmed, hmark⟩ := isTrimmed_object es
  simp only [saying, remark, Text.decode_toUtf8, EventReader.dataOf?_line htrimmed, if_neg hmark,
    decode_render _ hexact, hread]

private theorem saying_event
    (hdelta : (contentSchema "OpenAiDelta").reader (Value.object delta).node = .ok content)
    (hexact : ∀ e ∈ delta, e.2.IsExact) (s : Stamp) (reason : Option String) (usage : Option Usage) :
    saying locate (s.event delta (entryOf "finish_reason" (reason.map .text))
      (entryOf "usage" (usage.map Usage.toJson))).render = .event ⟨[⟨content, reason⟩], usage⟩ :=
  saying_render (isExact_event hexact s reason usage) (read_event hdelta hexact s reason usage)

theorem saying_role (s : Stamp) : saying locate s.role.render = .event ⟨[⟨none, none⟩], none⟩ :=
  saying_event (read_role "OpenAiDelta" "assistant") (by simp) s none none

theorem saying_delta (s : Stamp) (t : String) :
    saying locate (s.delta t).render = .event ⟨[⟨some t, none⟩], none⟩ :=
  saying_event (read_content "OpenAiDelta" t) (by simp) s none none

theorem saying_finish (s : Stamp) (reason : String) (usage : Option Usage) :
    saying locate (s.finish reason usage).render = .event ⟨[⟨none, some reason⟩], usage⟩ := by
  cases usage with
  | none => exact saying_event (read_empty "OpenAiDelta") (by simp) s (some reason) none
  | some u => exact saying_event (read_empty "OpenAiDelta") (by simp) s (some reason) (some u)

/-- An error has nothing that a reader looks for, and it needs nothing, so the line says as little as one with an
empty object. -/
theorem saying_error (message kind : String) :
    saying locate (errorDocument message kind).render = .event ⟨[], none⟩ := by
  have hfills : event.Fills ⟨none, none⟩
      [("error", .object [("message", .text message), ("type", .text kind)])] ⟨none, none⟩ :=
    .unknown rfl (by simp) (.nil ..)
  exact saying_render (by simp) (Record.reader_node hfills)

/-- What the line with an event of an answer says. -/
def remarkOf : Relay.Event → Remark
  | .role => .event ⟨[⟨none, none⟩], none⟩
  | .text t => .event ⟨[⟨some t, none⟩], none⟩
  | .finish reason usage => .event ⟨[⟨none, some reason⟩], usage⟩
  | .error _ => .event ⟨[], none⟩
  | .done => .done

theorem saying_data (s : Stamp) (e : Relay.Event) : saying locate (e.data s) = remarkOf e := by
  cases e with
  | role => exact saying_role s
  | text t => exact saying_delta s t
  | finish reason usage => exact saying_finish s reason usage
  | error message => exact saying_error message "backend_error"
  | done => exact saying_doneMark

theorem newline_notMem_payload {s : Stamp} {first : Chunk} {later : List (Nat × Except BackendError Chunk)}
    {data : String} (h : data ∈ Relay.payloads s first (Relay.arrivals later)) : '\n' ∉ data.toList := by
  intro hmem
  exact absurd ((Relay.payloads_eq s first (Relay.outcome_arrivals_ne_crash later)).isOneLine h _ hmem) (by decide)

end ChatRace.Provider
