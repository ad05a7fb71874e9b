import ChatRace.Proofs.Json.Reading
import ChatRace.Proofs.Relay.Events

/-!
# Lines of a streamed answer

Nothing that a winner says can end an event or begin another one.  Every payload but the last is the text of a
document, so it is one line and not the mark that ends the answer (`payloads_eq`); an event is therefore one line
with its data and a blank one; and the lines with data of a body, whatever comments stand between the events, are
the payloads in order (`dataLines_join`).
-/

namespace ChatRace

open Chat Json

namespace Relay

/-! ### Payloads -/

/-- The text of an object. -/
def IsDocument (data : String) : Prop :=
  ∃ entries, (Value.object entries).IsExact ∧ data = (Value.object entries).render

theorem IsDocument.isOneLine {data : String} (h : IsDocument data) : IsOneLine data := by
  obtain ⟨entries, hexact, rfl⟩ := h
  exact Value.isOneLine_render hexact

theorem IsDocument.ne_doneMark {data : String} (h : IsDocument data) : data ≠ doneMark := by
  obtain ⟨entries, -, rfl⟩ := h
  intro heq
  have hhead := congrArg (·.toList.head?) heq
  simp [Value.render, doneMark] at hhead

/-- Some data that are documents, and the mark behind them. -/
def EndsInMark (data : List String) : Prop :=
  ∃ documents, data = documents ++ [doneMark] ∧ ∀ d ∈ documents, IsDocument d

/-- Every event but the mark has a document. -/
theorem isDocument_data (s : Stamp) {e : Event} (h : e ≠ .done) : IsDocument (e.data s) := by
  cases e with
  | role | text | error => exact ⟨_, by simp, rfl⟩
  | finish reason usage =>
    cases usage with
    | none => exact ⟨_, by simp, rfl⟩
    | some u => exact ⟨_, by simp [Usage.toJson], rfl⟩
  | done => exact absurd rfl h

/-- The mark is the last event of an answer and no other. -/
private theorem script_eq (xs : List (Except BackendError Chunk)) :
    ∃ events, script xs = events ++ [.done] ∧ ∀ e ∈ events, e ≠ .done := by
  refine ⟨.role :: ((relayed xs).filterMap text?).map .text ++ [closing (xs.find? isLast)], ?_, ?_⟩
  · simp [script, scriptTail]
  · have hclosing : closing (xs.find? isLast) ≠ .done := by
      cases xs.find? isLast with
      | none => simp [closing]
      | some x => cases x <;> simp [closing]
    intro e he
    simp only [List.cons_append, List.mem_cons, List.mem_append, List.mem_map, List.not_mem_nil, or_false] at he
    rcases he with rfl | ⟨t, -, rfl⟩ | rfl
    · simp
    · simp
    · exact hclosing

theorem endsInMark_script (s : Stamp) (xs : List (Except BackendError Chunk)) :
    EndsInMark ((script xs).map (Event.data s)) := by
  obtain ⟨events, hscript, hevents⟩ := script_eq xs
  refine ⟨events.map (Event.data s), ?_, ?_⟩
  · rw [hscript, List.map_append]
    rfl
  · rw [List.forall_mem_map]
    exact fun e he => isDocument_data s (hevents e he)

theorem exists_arrivals {items : List Item} (h : ∀ i ∈ items, i.outcome ≠ .crash) :
    ∃ later, items = arrivals later := by
  induction items with
  | nil => exact ⟨[], rfl⟩
  | cons i items ih =>
    obtain ⟨hi, hitems⟩ := List.forall_mem_cons.1 h
    obtain ⟨later, rfl⟩ := ih hitems
    obtain ⟨delay, outcome⟩ := i
    cases outcome with
    | value c => exact ⟨(delay, .ok c) :: later, rfl⟩
    | failure e => exact ⟨(delay, .error e) :: later, rfl⟩
    | crash => exact absurd rfl hi

theorem arrivals_inj {later later' : List (Nat × Except BackendError Chunk)} :
    arrivals later = arrivals later' ↔ later = later' := by
  refine List.map_inj_right ?_
  rintro ⟨delay, c | e⟩ ⟨delay', c' | e'⟩ h <;> simp_all

/-- The payloads of an answer whose items do not crash: documents, and the mark behind them. -/
theorem payloads_eq (s : Stamp) (first : Chunk) {rest : List Item} (h : ∀ i ∈ rest, i.outcome ≠ .crash) :
    EndsInMark (payloads s first rest) := by
  obtain ⟨later, rfl⟩ := exists_arrivals h
  rw [payloads_eq_script]
  exact endsInMark_script s _

theorem EndsInMark.isOneLine {data : List String} (h : EndsInMark data) {d : String} (hd : d ∈ data) :
    IsOneLine d := by
  obtain ⟨documents, rfl, hdocuments⟩ := h
  rcases List.mem_append.1 hd with hd | hd
  · exact (hdocuments d hd).isOneLine
  · rw [List.mem_singleton.1 hd]
    decide

/-- The mark stands at the end and nowhere else. -/
theorem EndsInMark.count_doneMark {data : List String} (h : EndsInMark data) :
    data.count doneMark = 1 ∧ data.getLast? = some doneMark := by
  obtain ⟨documents, rfl, hdocuments⟩ := h
  have hnone : documents.count doneMark = 0 := by
    rw [List.count_eq_zero]
    intro hmem
    exact (hdocuments doneMark hmem).ne_doneMark rfl
  constructor
  · rw [List.count_append, hnone, List.count_singleton_self]
  · rw [List.getLast?_append]
    rfl

/-! ### Lines -/

/-- What a line holds behind the mark of data, if it begins with it. -/
def lineData? (l : List Char) : Option String :=
  if "data: ".toList.isPrefixOf l then some (String.ofList (l.drop 6)) else none

/-- What the lines of a text hold that begin with the mark of data. -/
def dataLines (text : String) : List String :=
  (Text.split (· == '\n') text.toList).filterMap lineData?

private theorem dataLines_line_append {l : String} (h : '\n' ∉ l.toList) (rest : String) :
    dataLines (l ++ "\n" ++ rest) = (lineData? l.toList).toList ++ dataLines rest := by
  have hone : Text.split (· == '\n') l.toList = [l.toList] := by
    apply Text.split_eq_singleton
    intro c hc
    have hne : c ≠ '\n' := fun heq => h (heq ▸ hc)
    simpa using hne
  have hlist : (l ++ "\n" ++ rest).toList = l.toList ++ '\n' :: rest.toList := by simp
  rw [dataLines, hlist, Text.split_append _ (by decide), hone, List.filterMap_append]
  cases hdata : lineData? l.toList <;> simp [hdata, dataLines]

private theorem dataLines_keepAlive_append (rest : String) : dataLines (keepAlive ++ rest) = dataLines rest := by
  have hlines : keepAlive ++ rest = ":" ++ "\n" ++ ("" ++ "\n" ++ rest) := by
    simp [keepAlive, ← String.append_assoc]
  have hcomment : lineData? ":".toList = none := by decide
  have hblank : lineData? "".toList = none := by decide
  rw [hlines, dataLines_line_append (by decide), dataLines_line_append (by decide), hcomment, hblank]
  rfl

private theorem dataLines_frame_append {data : String} (h : '\n' ∉ data.toList) (rest : String) :
    dataLines (frame data ++ rest) = data :: dataLines rest := by
  have hline : '\n' ∉ ("data: " ++ data).toList := by simp [h]
  have hlines : frame data ++ rest = "data: " ++ data ++ "\n" ++ ("" ++ "\n" ++ rest) := by
    rw [frame_eq h]
    simp only [String.append_assoc, String.empty_append]
  have hdata : lineData? ("data: " ++ data).toList = some data := by
    have hprefix : "data: ".toList.isPrefixOf ("data: ".toList ++ data.toList) = true := by
      rw [List.isPrefixOf_iff_prefix]
      exact List.prefix_append _ _
    have hdrop : ("data: ".toList ++ data.toList).drop 6 = data.toList := rfl
    rw [String.toList_append, lineData?, if_pos hprefix, hdrop, String.ofList_toList]
  have hblank : lineData? "".toList = none := by decide
  rw [hlines, dataLines_line_append hline, dataLines_line_append (by decide), hdata, hblank]
  rfl

/-- The lines with data in some events, with comments between them, are the data of the events. -/
theorem dataLines_join {data texts : List String} (hline : ∀ d ∈ data, '\n' ∉ d.toList)
    (htexts : texts.filter (· ≠ keepAlive) = data.map frame) : dataLines (String.join texts) = data := by
  induction texts generalizing data with
  | nil =>
    obtain rfl : data = [] := List.map_eq_nil_iff.1 htexts.symm
    rfl
  | cons t texts ih =>
    rw [String.join_cons]
    by_cases ht : t = keepAlive
    · have hrest : texts.filter (· ≠ keepAlive) = data.map frame := by simpa [ht] using htexts
      rw [ht, dataLines_keepAlive_append]
      exact ih hline hrest
    · rw [List.filter_cons_of_pos (by simpa using ht)] at htexts
      obtain ⟨d, ds, rfl, rfl, hds⟩ := List.map_eq_cons_iff.1 htexts.symm
      obtain ⟨hd, hlines⟩ := List.forall_mem_cons.1 hline
      rw [dataLines_frame_append hd, ih hlines hds.symm]

end Relay

/-! ### Bodies -/

namespace Transmission

/-- Whatever texts the chunks and errors of a stream hold, each payload is one line that an event can hold, its
event is that line and a blank one, and a client who takes all frames finds in the lines with data of the body
exactly the payloads, of which the last and no other is the mark that ends the answer. -/
theorem dataLines_body_run (line now : Nat) (s : Stamp) (first : Chunk) {rest : List Item}
    (hrest : ∀ i ∈ rest, i.outcome ≠ .crash) :
    (∀ data ∈ Relay.payloads s first rest, Relay.isData data = true ∧ '\n' ∉ data.toList ∧
      Relay.frame data = "data: " ++ data ++ "\n" ++ "\n") ∧
    Relay.dataLines (start line now none (Relay.beats s first rest)).run.1.1.body = Relay.payloads s first rest ∧
    (Relay.payloads s first rest).count Relay.doneMark = 1 ∧
    (Relay.payloads s first rest).getLast? = some Relay.doneMark := by
  have hpayloads := Relay.payloads_eq s first hrest
  have hcontrol {data : String} (hdata : data ∈ Relay.payloads s first rest) {c : Char} (hc : c.toNat < 0x20) :
      c ∉ data.toList := by
    intro hmem
    have := hpayloads.isOneLine hdata c hmem
    omega
  have hline (data : String) (hdata : data ∈ Relay.payloads s first rest) : '\n' ∉ data.toList :=
    hcontrol hdata (by decide)
  refine ⟨?_, ?_, hpayloads.count_doneMark⟩
  · intro data hdata
    have hreturn : '\r' ∉ data.toList := hcontrol hdata (by decide)
    refine ⟨by simpa [Relay.isData] using hreturn, hline data hdata, Relay.frame_eq (hline data hdata)⟩
  · have hevents : (start line now none (Relay.beats s first rest)).run.1.1.texts.filter (· ≠ Relay.keepAlive) =
        (Relay.payloads s first rest).map Relay.frame := events_run_start line now s first rest
    exact Relay.dataLines_join hline hevents

/-- A winner whose name has a line end, a text with blank lines and the mark of an answer that is over, and an error
whose message is that mark make four events and the mark. -/
theorem dataLines_body_run_forged : ∃ role text quote : String,
    Relay.dataLines (start 0 0 none (Relay.beats ⟨"chatcmpl-1", 7, "fast\r\ndata: x"⟩
      (.content "hi\n\ndata: [DONE]\n\n")
      [⟨12000, .value (.content "\r\x00\"")⟩, ⟨0, .failure (.timeout "[DONE]\r\n")⟩])).run.1.1.body =
    [role, text, quote,
      "\x7b\"error\":\x7b\"message\":\"backend timeout: [DONE]\\r\\n\",\"type\":\"backend_error\"\x7d\x7d", "[DONE]"] := by
  have hrest : ∀ i ∈ [(⟨12000, .value (.content "\r\x00\"")⟩ : Item), ⟨0, .failure (.timeout "[DONE]\r\n")⟩],
      i.outcome ≠ .crash := by
    simp
  have herror : (errorDocument (BackendError.timeout "[DONE]\r\n").message "backend_error").render =
      "\x7b\"error\":\x7b\"message\":\"backend timeout: [DONE]\\r\\n\",\"type\":\"backend_error\"\x7d\x7d" := by
    decide +kernel
  rw [(dataLines_body_run 0 0 _ _ hrest).2.1, ← herror]
  exact ⟨_, _, _, rfl⟩

end Transmission

end ChatRace
