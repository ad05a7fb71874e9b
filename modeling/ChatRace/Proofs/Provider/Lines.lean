import ChatRace.Proofs.Provider.Events
import ChatRace.Proofs.Provider.Silence
import Mathlib.Data.List.Forall2

/-!
# The meaning of a streamed body

A body is a sequence of lines, and a rest behind the last of them that is not read.  What a line says is told by its
text (`Says`, `says_iff`), and what the body comes to by what its lines say up to the one that is the last to be
read: each text and each malformed event makes an item of its own, and then comes the terminal chunk, with the first
finish reason and the last usage, or the error of a line that is no text (`reading`).  So the items of a provider's
stream are the reading of its lines (`streamed_of_lines`).
-/

namespace ChatRace.Provider

open Chat

/-! ### Lines -/

private theorem wholeLines_of_notMem {rest : List UInt8} (h : 0x0A ∉ rest) : wholeLines rest = [] := by
  induction rest with
  | nil => rfl
  | cons b rest ih =>
    have hb : b ≠ 0x0A := fun hb => h (hb ▸ List.mem_cons_self ..)
    have hrest := ih fun hmem => h (List.mem_cons_of_mem b hmem)
    rw [wholeLines, if_neg hb, hrest]

/-- The whole lines of a body are those that have been ended; the rest behind them is none. -/
theorem wholeLines_join {lines : List (List UInt8)} (hlines : ∀ l ∈ lines, 0x0A ∉ l) {rest : List UInt8}
    (hrest : 0x0A ∉ rest) :
    wholeLines (lines.flatMap (· ++ [0x0A]) ++ rest) = lines.map (· ++ [0x0A]) := by
  induction lines with
  | nil => exact wholeLines_of_notMem hrest
  | cons l lines ih =>
    have hl := hlines l (List.mem_cons_self ..)
    have hih := ih fun k hk => hlines k (List.mem_cons_of_mem l hk)
    have hbody : (l :: lines).flatMap (· ++ [0x0A]) ++ rest =
        l ++ 0x0A :: (lines.flatMap (· ++ [0x0A]) ++ rest) := by
      simp
    rw [hbody, wholeLines_append hl, hih, List.map_cons]

/-- What a line says, told by its text: one that is no text is garbled, one that does not begin with `data:` says
nothing, and what stands behind that is the mark or a document, well formed or not. -/
inductive Says (locate : Json.Locator) (line : List UInt8) : Remark → Prop
  | garbled (h : ∀ text, line ≠ Text.toUtf8 text) :
    Says locate line (.garbled (.invalidResponse (Text.Utf8.fault line).message))
  | nothing {text : String} (h : line = Text.toUtf8 text) (hdata : ∀ data, Text.trim text ≠ "data:" ++ data) :
    Says locate line .nothing
  | done {text data : String} (h : line = Text.toUtf8 text) (hdata : Text.trim text = "data:" ++ data)
    (hmark : Text.trim data = "[DONE]") : Says locate line .done
  | malformed {text data : String} {f : Json.Fault} (h : line = Text.toUtf8 text)
    (hdata : Text.trim text = "data:" ++ data) (hmark : Text.trim data ≠ "[DONE]")
    (hread : Json.decode event.reader (Text.toUtf8 (Text.trim data)) = .error f) :
    Says locate line (.malformed (.invalidResponse (f.message locate (Text.toUtf8 (Text.trim data)))))
  | event {text data : String} {c : Completion} (h : line = Text.toUtf8 text)
    (hdata : Text.trim text = "data:" ++ data) (hmark : Text.trim data ≠ "[DONE]")
    (hread : Json.decode event.reader (Text.toUtf8 (Text.trim data)) = .ok c) :
    Says locate line (.event c)

/-- Octets that cannot be decoded are those of no text. -/
private theorem decode_eq_error {octets : List UInt8} (h : ∀ text, octets ≠ Text.toUtf8 text) :
    Text.decode octets = .error (Text.Utf8.fault octets) := by
  have hnone : Text.ofUtf8? octets = none := by
    rw [Option.eq_none_iff_forall_ne_some]
    exact fun text htext => h text (Text.ofUtf8?_eq_some.1 htext)
  simp [Text.decode, hnone]

namespace EventReader

private theorem dataOf?_eq_some {text data : String} (h : Text.trim text = "data:" ++ data) :
    dataOf? text = some (Text.trim data) := by
  have hchars : Text.trimChars text.toList = "data:".toList ++ data.toList := by
    have hlist := congrArg String.toList h
    simpa [Text.trim] using hlist
  have hprefix : "data:".toList.isPrefixOf ("data:".toList ++ data.toList) = true := by simp
  have hdrop : ("data:".toList ++ data.toList).drop 5 = data.toList := rfl
  simp only [dataOf?, hchars, hprefix, if_true, hdrop]
  rfl

private theorem dataOf?_eq_none {text : String} (h : ∀ data, Text.trim text ≠ "data:" ++ data) :
    dataOf? text = none := by
  have hprefix : ¬"data:".toList.isPrefixOf (Text.trimChars text.toList) = true := by
    intro hpre
    obtain ⟨rest, hrest⟩ := List.isPrefixOf_iff_prefix.1 hpre
    apply h (String.ofList rest)
    rw [Text.trim, ← hrest, String.ofList_append, String.ofList_toList]
  simp only [dataOf?, hprefix]
  rfl

end EventReader

/-- Every line says one thing. -/
theorem says_iff {locate : Json.Locator} {line : List UInt8} {m : Remark} :
    Says locate line m ↔ m = remark locate line := by
  have hsays : ∀ {m : Remark}, Says locate line m → m = remark locate line := by
    intro m h
    cases h with
    | garbled h => simp only [remark, decode_eq_error h]
    | nothing h hdata =>
      subst h
      exact (remark_of_dataOf?_eq_none (EventReader.dataOf?_eq_none hdata) locate).symm
    | done h hdata hmark =>
      subst h
      simp only [remark, Text.decode_toUtf8, EventReader.dataOf?_eq_some hdata, hmark, EventReader.doneMark, if_true]
    | malformed h hdata hmark hread =>
      subst h
      simp only [remark, Text.decode_toUtf8, EventReader.dataOf?_eq_some hdata, EventReader.doneMark,
        if_neg hmark, hread]
    | event h hdata hmark hread =>
      subst h
      simp only [remark, Text.decode_toUtf8, EventReader.dataOf?_eq_some hdata, EventReader.doneMark,
        if_neg hmark, hread]
  constructor
  · exact hsays
  · -- one of the five holds of every line, and what it says is what has just been shown
    rintro rfl
    obtain ⟨m, hm⟩ : ∃ m, Says locate line m := by
      by_cases htext : ∃ text, line = Text.toUtf8 text
      · obtain ⟨text, htext⟩ := htext
        by_cases hdata : ∃ data, Text.trim text = "data:" ++ data
        · obtain ⟨data, hdata⟩ := hdata
          by_cases hmark : Text.trim data = "[DONE]"
          · exact ⟨_, .done htext hdata hmark⟩
          · cases hread : Json.decode event.reader (Text.toUtf8 (Text.trim data)) with
            | error f => exact ⟨_, .malformed htext hdata hmark hread⟩
            | ok c => exact ⟨_, .event htext hdata hmark hread⟩
        · exact ⟨_, .nothing htext fun data h => hdata ⟨data, h⟩⟩
      · exact ⟨_, .garbled fun text h => htext ⟨text, h⟩⟩
    exact hsays hm ▸ hm

theorem said_eq {locate : Json.Locator} {lines : List (List UInt8)} {said : List Remark}
    (h : List.Forall₂ (fun l => Says locate (l ++ [0x0A])) lines said) :
    said = lines.map fun l => remark locate (l ++ [0x0A]) := by
  induction h with
  | nil => rfl
  | cons h _ ih => rw [List.map_cons, ← ih, says_iff.1 h]

/-! ### Bodies -/

namespace Remark

/-- Whether a line is the last one that is read. -/
def isLast : Remark → Bool
  | .done | .garbled _ => true
  | .nothing | .event _ | .malformed _ => false

/-- The item that a line makes which is not the last: the text of its first choice, or an error. -/
def item? : Remark → Option (Outcome Chunk)
  | .event c => c.text?.map fun t => .value (.content t)
  | .malformed e => some (.failure e)
  | .nothing | .done | .garbled _ => none

/-- The finish reason of the first choice in a line. -/
def finishReason? : Remark → Option String
  | .event c => c.finishReason?
  | .nothing | .malformed _ | .done | .garbled _ => none

end Remark

/-- The item that comes last: the terminal chunk, unless a line that is no text has ended the stream. -/
def lastOf (finishReason : Option String) (usage : Option Usage) : Option Remark → Outcome Chunk
  | some (.garbled e) => .failure e
  | _ => .value (.terminal (finishReason.getD "stop") usage)

/-- What a body comes to whose lines say one thing after another. -/
def reading (ms : List Remark) : List (Outcome Chunk) :=
  let read := ms.takeWhile (!·.isLast)
  let finishReason := read.findSome? (·.finishReason?)
  let usage := read.reverse.findSome? (·.usage?)
  read.filterMap (·.item?) ++ [lastOf finishReason usage (ms.find? (·.isLast))]

/-- What is told of a complete body is its reading.  A finish reason that has come before is kept, and a usage is
kept if no other comes. -/
private theorem told_eq (finishReason : Option String) (usage : Option Usage) (ms : List Remark) :
    told .complete finishReason usage ms =
      let read := ms.takeWhile (!·.isLast)
      read.filterMap (·.item?) ++ [lastOf (finishReason.or (read.findSome? (·.finishReason?)))
        ((read.reverse.findSome? (·.usage?)).or usage) (ms.find? (·.isLast))] := by
  induction ms generalizing finishReason usage with
  | nil => cases finishReason <;> rfl
  | cons m ms ih =>
    cases hlast : m.isLast with
    | true =>
      have htake : (m :: ms).takeWhile (!·.isLast) = [] := by simp [hlast]
      have hfind : (m :: ms).find? (·.isLast) = some m := List.find?_cons_of_pos hlast
      cases m with
      | nothing | event c | malformed e => cases hlast
      | done => cases finishReason <;> simp [told, htake, hfind, lastOf, terminalOf]
      | garbled e => simp [told, htake, hfind, lastOf]
    | false =>
      have htake : (m :: ms).takeWhile (!·.isLast) = m :: ms.takeWhile (!·.isLast) := by simp [hlast]
      have hfind : (m :: ms).find? (·.isLast) = ms.find? (·.isLast) := List.find?_cons_of_neg (by simp [hlast])
      have htold : told .complete finishReason usage (m :: ms) =
          m.item?.toList ++ told .complete (finishReason.or m.finishReason?) (m.usage?.or usage) ms := by
        cases m with
        | nothing | malformed e => simp [told, Remark.item?, Remark.finishReason?, Remark.usage?]
        | event c =>
          cases finishReason <;> cases hu : c.usage <;>
            simp [told, Remark.item?, Remark.finishReason?, Remark.usage?, hu]
        | done | garbled e => cases hlast
      have hreason (ms : List Remark) : (m :: ms).findSome? (·.finishReason?) =
          m.finishReason?.or (ms.findSome? (·.finishReason?)) := by
        rw [List.findSome?_cons]
        cases m.finishReason? <;> rfl
      have husage (ms : List Remark) : (m :: ms).reverse.findSome? (·.usage?) =
          (ms.reverse.findSome? (·.usage?)).or m.usage? := by
        rw [List.reverse_cons, List.findSome?_append, List.findSome?_cons]
        cases m.usage? <;> rfl
      have hitem (ms : List Remark) : (m :: ms).filterMap (·.item?) = m.item?.toList ++ ms.filterMap (·.item?) := by
        rw [List.filterMap_cons]
        cases m.item? <;> rfl
      rw [htold, ih, htake, hfind]
      simp only [hreason, husage, hitem, Option.or_assoc, List.append_assoc]

/-- If a provider streams an answer with success, and the body, in whatever frames, has some lines and then a rest in
which no line is ended, the items are the reading of the lines. -/
theorem streamed_of_lines {s : Settings} {r : BackendRequest} {o : Outgoing} {network : Network}
    {delay status endDelay : Nat} {frames : List Frame} (ho : s.outgoing r true = .ok o)
    (hstatus : isSuccess status = true)
    (hnetwork : network o = .answered delay status frames .complete endDelay)
    {lines : List (List UInt8)} {rest : List UInt8} (hlines : ∀ l ∈ lines, 0x0A ∉ l) (hrest : 0x0A ∉ rest)
    (hbody : bodyBytes frames = lines.flatMap (· ++ [0x0A]) ++ rest) (line : Nat) (locate : Json.Locator) :
    ∃ items said, ((backend network s line locate).streamed r).outcome = .value items ∧
      List.Forall₂ (fun l => Says locate (l ++ [0x0A])) lines said ∧ items.map (·.outcome) = reading said := by
  refine ⟨_, remarks locate (bodyBytes frames), outcome_streamed ho hnetwork hstatus line locate, ?_, ?_⟩
  · rw [remarks, hbody, wholeLines_join hlines hrest, List.map_map, List.forall₂_map_right_iff, List.forall₂_same]
    intro l _
    exact says_iff.2 rfl
  · rw [outcomes_eq_told, told_eq]
    simp [reading]

/-- The finish reason comes before the usage, a malformed event stands between them, and the mark is not the end. -/
private def chatter : List (List UInt8) := [
    "data: \x7b\"choices\":[\x7b\"delta\":\x7b\"content\":\"hé\"\x7d,\"finish_reason\":\"length\"\x7d]\x7d\r",
    ": nothing",
    "data: \x7boops\x7d",
    " data:\x7b\"choices\":[\x7b\"finish_reason\":\"stop\"\x7d],\"usage\":null\x7d",
    "data:\x7b\"usage\":\x7b\"prompt_tokens\":1,\"completion_tokens\":2,\"total_tokens\":4\x7d\x7d",
    "data: [DONE]\r",
    "data: \x7b\"choices\":[\x7b\"delta\":\x7b\"content\":\"late\"\x7d\x7d]\x7d"].map Text.toUtf8

private def chatting : Network := fun _ =>
  .answered 0 200 [⟨3, chatter.flatMap (· ++ [0x0A]) ++ Text.toUtf8 "data: cut"⟩] .complete 0

/-- The key is missed at the second octet of the malformed event. -/
private def atSecond : Json.Locator := fun _ _ => ⟨1, 2⟩

theorem streamed_of_lines_chatter : ∃ items,
    ((backend chatting loopback 0 atSecond).streamed greeting).outcome = .value items ∧
      items.map (·.outcome) = [
        .value (.content "hé"), .failure (.invalidResponse "key must be a string at line 1 column 2"),
        .value (.terminal "length" (some ⟨1, 2, 4⟩))] := by
  have hstatus : isSuccess 200 = true := by decide
  have hlines : ∀ l ∈ chatter, 0x0A ∉ l := by decide +kernel
  have hrest : 0x0A ∉ Text.toUtf8 "data: cut" := by decide +kernel
  have hbody : bodyBytes [⟨3, chatter.flatMap (· ++ [0x0A]) ++ Text.toUtf8 "data: cut"⟩] =
      chatter.flatMap (· ++ [0x0A]) ++ Text.toUtf8 "data: cut" := by
    simp [bodyBytes]
  have hnetwork (o : Outgoing) : chatting o = .answered 0 200
      [⟨3, chatter.flatMap (· ++ [0x0A]) ++ Text.toUtf8 "data: cut"⟩] .complete 0 := rfl
  obtain ⟨items, said, hitems, hsaid, hreading⟩ :=
    streamed_of_lines outgoing_loopback hstatus (hnetwork _) hlines hrest hbody 0 atSecond
  have hread : reading (chatter.map fun l => remark atSecond (l ++ [0x0A])) = [
      .value (.content "hé"), .failure (.invalidResponse "key must be a string at line 1 column 2"),
      .value (.terminal "length" (some ⟨1, 2, 4⟩))] := by
    decide +kernel
  exact ⟨items, hitems, by rw [hreading, said_eq hsaid, hread]⟩

end ChatRace.Provider
