import ChatRace.Proofs.Gateway.RoundTrip

/-!
# Interrupted answers

An answer that an error has interrupted ends with the error and the mark.  A provider that sends it is understood as
one that has said everything: the texts before the error come back, and behind them a terminal chunk, with the finish
reason of an answer that just ends and without a usage.  No item is a failure (`streamed_of_interrupted`).
-/

namespace ChatRace

open Chat

/-- The script of an interrupted answer is its texts and the error. -/
theorem Relay.script_interrupted {before : List Chunk} (hdone : ∀ c ∈ before, c.done = false) (e : BackendError)
    (behind : List (Except BackendError Chunk)) : script (before.map .ok ++ .error e :: behind) =
      .role :: (before.filterMap (·.text?)).map .text ++ [.error e.message, .done] := by
  suffices htail : scriptTail (before.map .ok ++ .error e :: behind) =
      (before.filterMap (·.text?)).map .text ++ [.error e.message, .done] by
    rw [script, htail, List.cons_append]
  induction before with
  | nil => exact scriptTail_of_last rfl behind
  | cons c before ih =>
    obtain ⟨hc, hbefore⟩ := List.forall_mem_cons.1 hdone
    have hlast : isLast (.ok c) = false := hc
    have htext : text? (.ok c) = c.text? := rfl
    rw [List.map_cons, List.cons_append, scriptTail_of_not_last hlast, ih hbefore, htext]
    cases ht : c.text? <;> simp [ht]

namespace Provider

/-- If the body of an answer that an error has interrupted comes from a provider, in whatever frames and with whatever
comments between the events, the items are the texts of the chunks before the error, and a terminal chunk that says
`stop`: the error is not among them. -/
theorem streamed_of_interrupted {i : Identity} {winner : String} {line now : Nat} {first : Chunk}
    {later : List (Nat × Except BackendError Chunk)} {before : List Chunk} {e : BackendError}
    {behind : List (Except BackendError Chunk)}
    (hcome : .ok first :: later.map (·.2) = before.map .ok ++ .error e :: behind)
    (hdone : ∀ c ∈ before, c.done = false) {headers : Http.Headers} {t : Transmission}
    (hanswer : WinnerResponse.ofUnit i winner line now none (.streamed first (Relay.arrivals later)) =
      .streamed headers t)
    {texts : List String}
    (htexts : texts.filter (· ≠ Relay.keepAlive) = t.run.1.1.texts.filter (· ≠ Relay.keepAlive))
    {s : Settings} {r : BackendRequest} {o : Outgoing} {network : Network} {delay status endDelay : Nat}
    {frames : List Frame} {ending : Ending} (ho : s.outgoing r true = .ok o) (hstatus : isSuccess status = true)
    (hnetwork : network o = .answered delay status frames ending endDelay)
    (hbody : bodyBytes frames = Text.toUtf8 (String.join texts)) (line' : Nat) (locate : Json.Locator) :
    ∃ items, ((backend network s line' locate).streamed r).outcome = .value items ∧
      items.map (·.outcome) =
        (before.filterMap (·.text?)).map (fun t => .value (.content t)) ++ [.value (.terminal "stop" none)] ∧
      ∀ item ∈ items, ∀ e, item.outcome ≠ .failure e := by
  obtain ⟨items, hitems, houtcomes⟩ := outcomes_of_relayed hanswer htexts ho hstatus hnetwork hbody line' locate
  have hechoed : (Relay.script (.ok first :: later.map (·.2))).flatMap echoed =
      (before.filterMap (·.text?)).map (fun t => .value (.content t)) ++ [.value (.terminal "stop" none)] := by
    rw [hcome, Relay.script_interrupted hdone, List.cons_append, List.flatMap_cons, List.flatMap_append,
      List.flatMap_map, List.map_eq_flatMap]
    rfl
  rw [hechoed] at houtcomes
  refine ⟨items, hitems, houtcomes, ?_⟩
  intro item hitem e' hfailure
  have hmem : .failure e' ∈ items.map (·.outcome) := List.mem_map.2 ⟨item, hitem, hfailure⟩
  rw [houtcomes] at hmem
  simp at hmem

/-! ### An answer that breaks off -/

private def opening : Chunk := .content "2 + 2 = "

/-- An error, and behind it what would have been the end of the answer. -/
private def breakdown : List (Nat × Except BackendError Chunk) :=
  [(12000, .error (.timeout "gone")), (0, .ok (.content "4")), (0, .ok (.terminal "stop" none))]

private def broken : Transmission :=
  .start 0 0 none (Relay.beats (Identity.stamp ⟨"req", "chatcmpl-1", 1700000000⟩ "bäckend")
    opening (Relay.arrivals breakdown))

private def twoFrames (texts : List String) : List Frame := [⟨0, []⟩, ⟨3, Text.toUtf8 (String.join texts)⟩]

private def repeating (texts : List String) : Network := fun _ => .answered 0 200 (twoFrames texts) .complete 0

private theorem repeating_eq (texts : List String) (o : Outgoing) :
    repeating texts o = .answered 0 200 (twoFrames texts) .complete 0 := rfl

private theorem bodyBytes_twoFrames (texts : List String) :
    bodyBytes (twoFrames texts) = Text.toUtf8 (String.join texts) := by
  simp [bodyBytes, twoFrames]

private theorem ofUnit_opening : WinnerResponse.ofUnit ⟨"req", "chatcmpl-1", 1700000000⟩ "bäckend" 0 0 none
    (.streamed opening (Relay.arrivals breakdown)) = .streamed (WinnerResponse.streamHeaders "bäckend") broken := rfl

/-- The sum comes back without its end, and nothing says so. -/
theorem streamed_of_interrupted_sum : ∃ items,
    ((backend (repeating (Relay.keepAlive :: broken.run.1.1.texts)) loopback 0).streamed greeting).outcome =
        .value items ∧
      items.map (·.outcome) = [.value (.content "2 + 2 = "), .value (.terminal "stop" none)] ∧
      ∀ item ∈ items, ∀ e, item.outcome ≠ .failure e := by
  have hcome : .ok opening :: breakdown.map (·.2) = [opening].map .ok ++ .error (.timeout "gone") ::
      [.ok (.content "4"), .ok (.terminal "stop" none)] := rfl
  have hdone : ∀ c ∈ [opening], c.done = false := by decide
  have htexts : (Relay.keepAlive :: broken.run.1.1.texts).filter (· ≠ Relay.keepAlive) =
      broken.run.1.1.texts.filter (· ≠ Relay.keepAlive) := by
    simp
  have hstatus : isSuccess 200 = true := by decide
  exact streamed_of_interrupted hcome hdone ofUnit_opening htexts outgoing_loopback hstatus
    (repeating_eq _ _) (bodyBytes_twoFrames _) 0 .mute

/-- There is no failure behind the only text that has come before the error. -/
theorem streamed_ne_failure_of_breakdown : ¬ ∃ items e,
    ((backend (repeating broken.run.1.1.texts) loopback 0).streamed greeting).outcome = .value items ∧
      items.map (·.outcome) = [.value (.content "2 + 2 = "), .failure e] := by
  rintro ⟨items, e, hitems, houtcomes⟩
  have hstatus : isSuccess 200 = true := by decide
  obtain ⟨read, hread, hechoed⟩ := outcomes_of_relayed ofUnit_opening rfl outgoing_loopback hstatus
    (repeating_eq broken.run.1.1.texts _) (bodyBytes_twoFrames _) 0 .mute
  obtain rfl : read = items := Outcome.value.inj (hread.symm.trans hitems)
  have hscript : (Relay.script (.ok opening :: breakdown.map (·.2))).flatMap echoed =
      [.value (.content "2 + 2 = "), .value (.terminal "stop" none)] := by
    decide
  rw [hscript, houtcomes] at hechoed
  simp at hechoed

end Provider

end ChatRace
