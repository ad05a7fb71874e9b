import ChatRace.Backend.Mock
import ChatRace.Proofs.Race.Forecast
import ChatRace.Proofs.Text.Words

/-!
# Both modes of mock backends

A race between mock backends ends in the same way whether whole replies or streams are asked for
(`decide_of_mocks`).  The whole reply comes after the latency of the mock, and so does the first chunk of its
stream, which has a word or ends the answer; so both modes have the same ahead of them (`Mock.prospect_mode`), unless
the mock fails in the middle of a stream.
-/

namespace ChatRace

open Chat

namespace Mock

/-- The first piece of a text is a word, and so not empty. -/
private theorem isUsable_of_pieces {text p : String} {ps : List String} (h : pieces text = p :: ps) :
    (Chunk.content p).isUsable = true := by
  have hword : p ∈ Text.words text := by
    unfold pieces at h
    split at h
    · cases h
    · rename_i w ws hwords
      rw [hwords, (List.cons.inj h).1]
      exact List.mem_cons_self ..
  have hne := Text.ne_empty_of_mem_words hword
  simp [Chunk.isUsable, Chunk.hasContent, Chunk.text?, Chunk.content, hne]

private theorem firstOfUse_items {m : Mock} (hm : m.failure ≠ .midStream) (r : BackendRequest) :
    ∃ c rest, firstOfUse m.name (m.items r) = ⟨0, .value (.streamed c rest)⟩ := by
  unfold items
  split
  · exact ⟨_, _, rfl⟩
  · rename_i p ps hp
    refine ⟨.content p, ps.map (fun p => ⟨m.chunkDelay, .value (.content p)⟩) ++ [m.lastItem r], ?_⟩
    simp only [hm, if_false, firstOfUse, List.cons_append, isUsable_of_pieces hp, if_true]

/-- What is ahead of a mock is the same in both modes, apart from the unit. -/
private theorem prospect_mode {m : Mock} (hm : m.failure ≠ .midStream) (line now : Nat) (request : RaceRequest) :
    (m.backend line).prospect (fun _ => ()) now { request with stream := true } =
      (m.backend line).prospect (fun _ => ()) now { request with stream := false } := by
  obtain ⟨c, rest, hfirst⟩ :=
    firstOfUse_items hm (({ request with stream := true } : RaceRequest).forBackend m.name)
  cases hf : m.failure with
  | midStream => exact absurd hf hm
  | beforeFirstUnit =>
    simp [Backend.prospect, Backend.firstUnit, RaceRequest.forBackend, backend, hf, Outcome.result]
  | healthy =>
    simp only [RaceRequest.forBackend] at hfirst
    simp [Backend.prospect, Backend.firstUnit, RaceRequest.forBackend, backend, hf, Outcome.result, hfirst,
      Except.map]

end Mock

namespace Race

/-- A race between mock backends of which none fails in the middle of a stream ends at the same time and in the same
way in both modes: won by the same one after the same time with the same reports, or lost with the same failures in
the same order, or at its deadline. -/
theorem decide_of_mocks {registry : Registry}
    (hmocks : ∀ b ∈ registry.backends, ∃ m line, b = Mock.backend m line ∧ m.failure ≠ .midStream)
    (limit now : Nat) (request : RaceRequest) :
    (decide registry limit now { request with stream := false }).1.seen (fun _ => ()) =
      (decide registry limit now { request with stream := true }).1.seen fun _ => () := by
  refine seen_decide_congr (fun _ => ()) rfl fun id _ => ?_
  cases hb : registry.get? id with
  | none => rfl
  | some b =>
    obtain ⟨m, line, rfl, hm⟩ := hmocks b (List.mem_of_find?_eq_some hb)
    exact congrArg some (Mock.prospect_mode hm line now request).symm

/-- A mock that fails, a slow one, and one that is in time and slow from word to word. -/
private def mocks : List Mock := [
  { name := "down", latency := 10, failure := .beforeFirstUnit },
  { name := "slow", latency := 80 },
  { name := "fast", latency := 30, chunkDelay := 700 }]

private def mockRequest : RaceRequest := ⟨"req", ["slow", "down", "fast"], [⟨.user, "hi"⟩], .free, false⟩

/-- The stream is won by the mock that answers first, which is seen from the buffered race. -/
theorem decide_of_mocks_trio :
    (decide (.ofList (mocks.map (·.backend 7))) 100 5 { mockRequest with stream := true }).1.seen (fun _ => ()) =
      (35, .ok ⟨"fast", 7, 30, [⟨"slow", .cancelled⟩, ⟨"down", .failed⟩, ⟨"fast", .won⟩], ()⟩) := by
  have hbackends : (Registry.ofList (mocks.map (·.backend 7))).backends = mocks.map (·.backend 7) := rfl
  have hmocks : ∀ b ∈ (Registry.ofList (mocks.map (·.backend 7))).backends,
      ∃ m line, b = Mock.backend m line ∧ m.failure ≠ .midStream := by
    intro b hb
    rw [hbackends] at hb
    obtain ⟨m, hm, rfl⟩ := List.mem_map.1 hb
    have hfailures : ∀ m ∈ mocks, m.failure ≠ .midStream := by decide
    exact ⟨m, 7, rfl, hfailures m hm⟩
  exact (decide_of_mocks hmocks 100 5 mockRequest).symm.trans rfl

end Race

end ChatRace
