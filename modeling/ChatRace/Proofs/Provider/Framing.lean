import ChatRace.Provider.Backend

/-!
# Framing of streamed answers

A reader that drains what has come and then what comes behind it has read what it would have read all at once
(`drain_push`): a line that has been cut off is cut off the same way with more behind it, and what is left waits in
the buffer.  So the items in a body do not depend on the frames in which it comes (`outcomes_readItems`), and
neither does what a provider streams (`streamed_of_frames`).
-/

namespace ChatRace.Provider

open Chat

/-! ### Lines -/

theorem cutLine?_append {octets line rest : List UInt8} (h : cutLine? octets = some (line, rest))
    (more : List UInt8) : cutLine? (octets ++ more) = some (line, rest ++ more) := by
  induction octets generalizing line with
  | nil => simp [cutLine?] at h
  | cons b octets ih =>
    rw [cutLine?_cons] at h
    rw [List.cons_append, cutLine?_cons]
    split at h
    · obtain ⟨rfl, rfl⟩ : [b] = line ∧ octets = rest := by simpa using h
      rename_i hb
      simp [hb]
    · rename_i hb
      obtain ⟨⟨front, rest'⟩, hcut, heq⟩ := Option.map_eq_some_iff.1 h
      obtain ⟨rfl, rfl⟩ := Prod.mk.inj heq
      simp [hb, ih hcut]

/-- The lines among some octets that have come to their ends, each with its line feed. -/
def wholeLines : List UInt8 → List (List UInt8)
  | [] => []
  | b :: octets =>
    if b = 0x0A then [b] :: wholeLines octets
    else
      match wholeLines octets with
      | [] => []
      | line :: lines => (b :: line) :: lines

/-- Whether a line ends an answer: the mark does, and what is no text. -/
def endsAnswer (line : List UInt8) : Bool :=
  match Text.decode line with
  | .error _ => true
  | .ok text => EventReader.dataOf? text = some EventReader.doneMark

theorem wholeLines_eq (octets : List UInt8) :
    wholeLines octets = (cutLine? octets).elim [] fun cut => cut.1 :: wholeLines cut.2 := by
  induction octets with
  | nil => rfl
  | cons b octets ih =>
    rw [cutLine?_cons, wholeLines]
    split
    · rfl
    · rw [ih]
      cases cutLine? octets <;> rfl

namespace EventReader

/-! ### One line -/

private theorem take_push (r : EventReader) (c : Completion) (more : List UInt8) :
    (r.push more).take c = ((r.take c).1.push more, (r.take c).2) := by
  unfold take push
  split <;> rfl

/-- A line is taken without regard to what is in the buffer. -/
theorem takeLine_push (r : EventReader) (line more : List UInt8) :
    (r.push more).takeLine line = ((r.takeLine line).1.push more, (r.takeLine line).2) := by
  unfold takeLine
  split
  · rfl
  · split
    · rfl
    · split
      · rfl
      · split
        · rfl
        · exact take_push r _ more

private theorem isOver_take (r : EventReader) (c : Completion) : (r.take c).1.isOver = r.isOver := by
  unfold take
  split <;> rfl

theorem isOver_takeLine {r : EventReader} (h : r.isOver = false) (line : List UInt8) :
    (r.takeLine line).1.isOver = endsAnswer line := by
  cases ht : Text.decode line with
  | error f => simp only [takeLine, endsAnswer, ht]
  | ok text =>
    cases hd : dataOf? text with
    | none => simp [takeLine, endsAnswer, ht, hd, h]
    | some data =>
      by_cases hdone : data = doneMark
      · simp [takeLine, endsAnswer, ht, hd, hdone]
      · cases hj : Json.decode event.reader (Text.toUtf8 data) with
        | error f => simp [takeLine, endsAnswer, ht, hd, hdone, hj, h]
        | ok c => simp [takeLine, endsAnswer, ht, hd, hdone, hj, isOver_take, h]

/-! ### Many lines -/

theorem drain_of_isOver {r : EventReader} (h : r.isOver = true) : r.drain = (r, []) := by
  rw [drain, if_pos h]

theorem drain_of_cutLine?_eq_none {r : EventReader} (h : cutLine? r.buffer = none) : r.drain = (r, []) := by
  rw [drain]
  split
  · rfl
  · split
    · rfl
    · simp_all

theorem drain_of_cutLine?_eq_some {r : EventReader} {line rest : List UInt8} (hr : r.isOver = false)
    (h : cutLine? r.buffer = some (line, rest)) :
    r.drain = ((takeLine { r with buffer := rest } line).1.drain.1,
      (takeLine { r with buffer := rest } line).2 ++ (takeLine { r with buffer := rest } line).1.drain.2) := by
  rw [drain, if_neg (by simp [hr])]
  split
  · simp_all
  · rename_i line' rest' h'
    obtain ⟨rfl, rfl⟩ : line' = line ∧ rest' = rest := by simpa [h] using h'.symm
    rfl

/-- What comes behind what has been drained is read as if it had been there. -/
theorem drain_push (r : EventReader) (more : List UInt8) :
    (r.push more).drain = ((r.drain.1.push more).drain.1, r.drain.2 ++ (r.drain.1.push more).drain.2) := by
  induction hw : r.buffer.length using Nat.strongRecOn generalizing r with
  | ind n ih =>
    cases hr : r.isOver with
    | true => rw [drain_of_isOver hr, List.nil_append]
    | false =>
      cases hc : cutLine? r.buffer with
      | none => rw [drain_of_cutLine?_eq_none hc, List.nil_append]
      | some cut =>
        obtain ⟨line, rest⟩ := cut
        -- the reader has taken the line whether or not there is more behind it
        have hline : takeLine { r.push more with buffer := rest ++ more } line =
            ((takeLine { r with buffer := rest } line).1.push more,
              (takeLine { r with buffer := rest } line).2) :=
          takeLine_push { r with buffer := rest } line more
        have hlt : (takeLine { r with buffer := rest } line).1.buffer.length < n := by
          rw [buffer_takeLine, ← hw]
          exact length_of_cutLine?_eq_some hc
        have hr' : (r.push more).isOver = false := hr
        have hc' : cutLine? (r.push more).buffer = some (line, rest ++ more) := cutLine?_append hc more
        rw [drain_of_cutLine?_eq_some hr hc, drain_of_cutLine?_eq_some hr' hc', hline, ih _ hlt _ rfl,
          List.append_assoc]

/-- A reader that has drained its buffer has nothing to read. -/
theorem drain_drain (r : EventReader) : r.drain.1.drain = (r.drain.1, []) := by
  have hpush (u : EventReader) : u.push [] = u := by simp [push]
  have h := drain_push r []
  rw [hpush, hpush] at h
  obtain ⟨hreader, hitems⟩ := Prod.mk.inj h
  exact Prod.ext hreader.symm (List.self_eq_append_right.1 hitems)

/-- A reader is over when a line has ended the answer, and not before. -/
theorem isOver_drain {r : EventReader} (h : r.isOver = false) :
    r.drain.1.isOver = (wholeLines r.buffer).any endsAnswer := by
  induction hw : r.buffer.length using Nat.strongRecOn generalizing r with
  | ind n ih =>
    rw [wholeLines_eq]
    cases hc : cutLine? r.buffer with
    | none => simpa [drain_of_cutLine?_eq_none hc] using h
    | some cut =>
      obtain ⟨line, rest⟩ := cut
      have hover : (takeLine { r with buffer := rest } line).1.isOver = endsAnswer line :=
        isOver_takeLine (r := { r with buffer := rest }) h line
      rw [drain_of_cutLine?_eq_some h hc]
      cases he : endsAnswer line with
      | true => simp [drain_of_isOver (hover.trans he), hover, he]
      | false =>
        have hlt := length_of_cutLine?_eq_some hc
        rw [ih rest.length (hw ▸ hlt) (hover.trans he) (by rw [buffer_takeLine])]
        simp [he]

end EventReader

/-! ### Streams -/

/-- The items in a body, without their times: those that a reader finds in the octets, and the last one, unless one
of them has ended the answer. -/
theorem outcomes_readItems {r : EventReader} (hr : r.isOver = false) (hdrained : r.drain = (r, [])) (wait : Nat)
    (ending : Ending) (endDelay : Nat) (frames : List Frame) :
    (readItems r wait ending endDelay frames).map (·.outcome) =
      (r.feed (bodyBytes frames)).2 ++
        if (r.feed (bodyBytes frames)).1.isOver then [] else [lastItem (r.feed (bodyBytes frames)).1 ending] := by
  induction frames generalizing r wait with
  | nil =>
    have hfeed : r.feed (bodyBytes []) = (r, []) := by
      rw [← hdrained]
      simp [EventReader.feed, EventReader.push, bodyBytes, hdrained]
    simp [readItems, hfeed, hr]
  | cons f frames ih =>
    -- the octets of the first frame are drained before those of the others come
    have hfeed : r.feed (bodyBytes (f :: frames)) =
        (((r.feed f.bytes).1.feed (bodyBytes frames)).1,
          (r.feed f.bytes).2 ++ ((r.feed f.bytes).1.feed (bodyBytes frames)).2) := by
      have hpush : r.push (bodyBytes (f :: frames)) = (r.push f.bytes).push (bodyBytes frames) := by
        simp [EventReader.push, bodyBytes]
      rw [EventReader.feed, hpush]
      exact EventReader.drain_push (r.push f.bytes) (bodyBytes frames)
    have houtcomes (wait : Nat) (os : List (Outcome Chunk)) : (itemsAfter wait os).map (·.outcome) = os := by
      cases os <;> simp [itemsAfter, Function.comp_def]
    simp only [readItems, List.map_append, houtcomes]
    rw [hfeed]
    cases hover : (r.feed f.bytes).1.isOver with
    | true =>
      have hrest : (r.feed f.bytes).1.feed (bodyBytes frames) =
          ((r.feed f.bytes).1.push (bodyBytes frames), []) :=
        EventReader.drain_of_isOver hover
      have hover' : ((r.feed f.bytes).1.push (bodyBytes frames)).isOver = true := hover
      simp [hrest, hover']
    | false =>
      have hrest := ih hover (EventReader.drain_drain (r.push f.bytes))
        (if (r.feed f.bytes).2.isEmpty then wait + f.delay else 0)
      simp only [Bool.false_eq_true, if_false, hrest, List.append_assoc]

/-- The error that breaks a body off that is not complete. -/
def Ending.error? : Ending → Option BackendError
  | .complete => none
  | .cut => some (connectionError false undecodable)
  | .timedOut => some (connectionError true undecodable)

private theorem lastItem_of_error {ending : Ending} {e : BackendError} (h : ending.error? = some e)
    (r : EventReader) : lastItem r ending = .failure e := by
  cases ending with
  | complete => nomatch h
  | cut => exact congrArg Outcome.failure (Option.some.inj h)
  | timedOut => exact congrArg Outcome.failure (Option.some.inj h)

theorem outcome_streamed {network : Network} {s : Settings} {r : BackendRequest} {o : Outgoing}
    {delay status : Nat} {frames : List Frame} {ending : Ending} {endDelay : Nat} (ho : s.outgoing r true = .ok o)
    (hnetwork : network o = .answered delay status frames ending endDelay) (hstatus : isSuccess status = true)
    (line : Nat) (locate : Json.Locator) :
    ((backend network s line locate).streamed r).outcome =
      .value (readItems (.fresh locate) 0 ending endDelay frames) := by
  simp [backend, course, ho, hnetwork, hstatus]

/-- Whatever octets a provider sends as the body of a streamed answer and in whatever frames they come, the items
are those that the octets make when they come in one frame.  If the body breaks off, the error stands in the place
of the terminal chunk, unless a line has ended the answer before. -/
theorem streamed_of_frames {s : Settings} {r : BackendRequest} {o : Outgoing} {framed whole : Network}
    {delay delay' status status' wait endDelay endDelay' : Nat} {frames : List Frame} {ending : Ending}
    (ho : s.outgoing r true = .ok o) (hstatus : isSuccess status = true) (hstatus' : isSuccess status' = true)
    (hframed : framed o = .answered delay status frames ending endDelay)
    (hwhole : whole o = .answered delay' status' [⟨wait, bodyBytes frames⟩] .complete endDelay')
    (line line' : Nat) (locate : Json.Locator) :
    ∃ items one, ((backend framed s line locate).streamed r).outcome = .value items ∧
      ((backend whole s line' locate).streamed r).outcome = .value one ∧
      match ending.error? with
      | none => items.map (·.outcome) = one.map (·.outcome)
      | some e =>
        if (wholeLines (bodyBytes frames)).any endsAnswer then items.map (·.outcome) = one.map (·.outcome)
        else ∃ shown finishReason usage, one.map (·.outcome) = shown ++ [.value (.terminal finishReason usage)] ∧
          items.map (·.outcome) = shown ++ [.failure e] := by
  refine ⟨_, _, outcome_streamed ho hframed hstatus line locate, outcome_streamed ho hwhole hstatus' line' locate, ?_⟩
  have hbytes : bodyBytes [⟨wait, bodyBytes frames⟩] = bodyBytes frames := by simp [bodyBytes]
  have hdrained : (EventReader.fresh locate).drain = (.fresh locate, []) := EventReader.drain_of_cutLine?_eq_none rfl
  have hover : ((EventReader.fresh locate).feed (bodyBytes frames)).1.isOver =
      (wholeLines (bodyBytes frames)).any endsAnswer := EventReader.isOver_drain rfl
  rw [outcomes_readItems rfl hdrained, outcomes_readItems rfl hdrained, hbytes, hover]
  cases he : ending.error? with
  | none =>
    obtain rfl : ending = .complete := by cases ending <;> first | rfl | nomatch he
    rfl
  | some e =>
    simp only [lastItem_of_error he]
    split
    · rfl
    · exact ⟨_, _, _, rfl, rfl⟩

def loopback : Settings := ⟨"local", "http://[::1]", none⟩

def loopbackUrl : Url where
  user := none
  host := some "[::1]"
  port := none
  path := "/chat/completions"
  scheme := "http"
  query := none
  fragment := none

def greeting : BackendRequest := ⟨"req", "local", [⟨.user, "hi"⟩], .free, true⟩

theorem outgoing_to_loopback (r : BackendRequest) {stream : Bool} :
    loopback.outgoing r stream = .ok ⟨loopbackUrl, none, (payload r stream).render⟩ := by
  have hurl : (Url.ofText? loopback.address).map Url.withoutUser = some loopbackUrl := by decide +kernel
  have hfits : loopbackUrl.hasHost = true ∧ loopbackUrl.isHttp = true ∧ loopbackUrl.fitsRequest = true := by
    decide +kernel
  have hkey : loopback.authorization = none := rfl
  simp [Settings.outgoing, hurl, hfits, hkey]

theorem outgoing_loopback {stream : Bool} :
    loopback.outgoing greeting stream = .ok ⟨loopbackUrl, none, (payload greeting stream).render⟩ :=
  outgoing_to_loopback greeting

/-- A line whose only character comes in two frames, an empty frame between them, and the beginning of another. -/
private def torn : List Frame :=
  [⟨0, [0x64, 0x61, 0x74, 0x61, 0x3A, 0xC3]⟩, ⟨5, []⟩, ⟨1, [0xA9, 0x0A, 0x64]⟩]

private def tornNetwork : Network := fun _ => .answered 0 200 torn .cut 0

private def wholeNetwork : Network := fun _ => .answered 0 200 [⟨0, bodyBytes torn⟩] .complete 0

/-- The body breaks off behind the torn character, and no line has ended the answer. -/
theorem streamed_of_torn_character : ∃ items one,
    ((backend tornNetwork loopback 0).streamed greeting).outcome = .value items ∧
    ((backend wholeNetwork loopback 0).streamed greeting).outcome = .value one ∧
    ∃ shown finishReason usage, one.map (·.outcome) = shown ++ [.value (.terminal finishReason usage)] ∧
      items.map (·.outcome) = shown ++ [.failure (.unavailable undecodable)] := by
  have hstatus : isSuccess 200 = true := by decide
  have hends : (wholeLines (bodyBytes torn)).any endsAnswer = false := by decide
  have htorn (o : Outgoing) : tornNetwork o = .answered 0 200 torn .cut 0 := rfl
  have hwhole (o : Outgoing) : wholeNetwork o = .answered 0 200 [⟨0, bodyBytes torn⟩] .complete 0 := rfl
  obtain ⟨items, one, hitems, hone, h⟩ :=
    streamed_of_frames outgoing_loopback hstatus hstatus (htorn _) (hwhole _) 0 0 .mute
  simp only [Ending.error?, hends] at h
  exact ⟨items, one, hitems, hone, h⟩

end ChatRace.Provider
