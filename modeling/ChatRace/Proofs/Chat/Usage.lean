import Mathlib.Algebra.Order.BigOperators.Group.List
import Mathlib.Algebra.Order.Group.Nat
import Mathlib.Data.List.Induction
import ChatRace.Chat.Reply
import ChatRace.Proofs.Chat.Contents
import ChatRace.Proofs.Text.Words

/-!
# Estimated usage

Words are counted with 32 bits and added up message by message.  There are no more words than characters, so as long as
there are fewer than `2 ^ 32` characters no count is cut off and no addition wraps (`partialSum_exact`), and the
estimate has the numbers of words as they are (`countsWords_estimate`).  Only the total may be too great for 32 bits; it
stops at the largest count.
-/

namespace ChatRace.Chat

/-- The number of words of all messages. -/
def wordTotal (messages : List Message) : Nat := (messages.map fun m => Text.wordCount m.content).sum

theorem contentLength_append (xs ys : List Message) :
    contentLength (xs ++ ys) = contentLength xs + contentLength ys := by
  rw [contentLength, List.map_append, List.sum_append, contentLength, contentLength]

theorem contentLength_cons (m : Message) (ms : List Message) :
    contentLength (m :: ms) = m.content.length + contentLength ms := by
  rw [contentLength, List.map_cons, List.sum_cons, contentLength]

theorem wordTotal_concat (ms : List Message) (m : Message) :
    wordTotal (ms ++ [m]) = wordTotal ms + Text.wordCount m.content := by
  rw [wordTotal, List.map_append, List.sum_append, List.map_singleton, List.sum_singleton, wordTotal]

theorem wordTotal_le (messages : List Message) : wordTotal messages ≤ contentLength messages :=
  List.sum_le_sum fun m _ => Text.wordCount_le m.content

namespace Usage

variable {messages : List Message} {answer : String}

/-- A usage counts the words of a conversation and of an answer to it.  The total is the sum of both counts, or the
largest count if the sum is greater. -/
structure CountsWords (messages : List Message) (answer : String) (u : Usage) : Prop where
  prompt : u.promptTokens.toNat = wordTotal messages
  completion : u.completionTokens.toNat = Text.wordCount answer
  total : u.totalTokens.toNat = min (wordTotal messages + Text.wordCount answer) (2 ^ 32 - 1)

theorem CountsWords.unique {u u' : Usage} (h : u.CountsWords messages answer)
    (h' : u'.CountsWords messages answer) : u = u' := by
  obtain ⟨prompt, reply, total⟩ := u
  obtain ⟨prompt', reply', total'⟩ := u'
  obtain rfl : prompt = prompt' := UInt32.toNat_inj.1 (h.prompt.trans h'.prompt.symm)
  obtain rfl : reply = reply' := UInt32.toNat_inj.1 (h.completion.trans h'.completion.symm)
  obtain rfl : total = total' := UInt32.toNat_inj.1 (h.total.trans h'.total.symm)
  rfl

/-! ### Counts -/

/-- A blank text has no words anyway. -/
theorem tokens_eq (text : String) : tokens text = (Text.words text).length.toUInt32 := by
  unfold tokens
  split
  · rename_i hblank
    rw [Text.words_of_trim_eq_empty hblank]
    rfl
  · rfl

theorem toNat_tokens {text : String} (h : text.length < 2 ^ 32) : (tokens text).toNat = Text.wordCount text := by
  rw [tokens_eq, Text.length_words]
  exact UInt32.toNat_ofNat_of_lt' (Nat.lt_of_le_of_lt (Text.wordCount_le text) h)

theorem promptTokensOf_concat (ms : List Message) (m : Message) :
    promptTokensOf (ms ++ [m]) = promptTokensOf ms + tokens m.content := by
  rw [promptTokensOf, List.map_append, List.foldl_append, ← promptTokensOf]
  rfl

variable {before after : List Message} {m : Message}

private theorem parts_lt {n : Nat} (h : contentLength (before ++ m :: after) < n) :
    contentLength before < n ∧ m.content.length < n := by
  rw [contentLength_append, contentLength_cons] at h
  omega

/-- The messages so far and the next one have no more words than characters, so their sum fits into 32 bits. -/
private theorem wordTotal_add_lt (h : contentLength (before ++ m :: after) < 2 ^ 32) :
    wordTotal before + Text.wordCount m.content < 2 ^ 32 := by
  have hbefore := wordTotal_le before
  have hword := Text.wordCount_le m.content
  rw [contentLength_append, contentLength_cons] at h
  omega

/-- The sum of the counts of messages is the number of their words. -/
theorem toNat_promptTokensOf (h : contentLength messages < 2 ^ 32) :
    (promptTokensOf messages).toNat = wordTotal messages := by
  induction messages using List.reverseRecOn with
  | nil => rfl
  | append_singleton ms m ih =>
    have hsum : wordTotal ms + Text.wordCount m.content < 2 ^ 32 := wordTotal_add_lt h
    obtain ⟨hms, hm⟩ := parts_lt h
    rw [promptTokensOf_concat, wordTotal_concat, UInt32.toNat_add, ih hms, toNat_tokens hm, Nat.mod_eq_of_lt hsum]

/-- Wherever the sum has come, it and the next count are the numbers of words, and adding the count does not wrap. -/
theorem partialSum_exact (h : contentLength (before ++ m :: after) < 2 ^ 32) :
    (promptTokensOf before).toNat = wordTotal before ∧ (tokens m.content).toNat = Text.wordCount m.content ∧
      (promptTokensOf before).toNat + (tokens m.content).toNat < 2 ^ 32 := by
  obtain ⟨hbefore, hm⟩ := parts_lt h
  rw [toNat_promptTokensOf hbefore, toNat_tokens hm]
  exact ⟨rfl, rfl, wordTotal_add_lt h⟩

/-! ### Totals -/

theorem toNat_cappedAdd (a b : UInt32) : (cappedAdd a b).toNat = min (a.toNat + b.toNat) (2 ^ 32 - 1) := by
  unfold cappedAdd
  split
  · rename_i hlt
    rw [UInt32.toNat_add, Nat.mod_eq_of_lt hlt]
    omega
  · rename_i hge
    have hmax : (0xFFFFFFFF : UInt32).toNat = 2 ^ 32 - 1 := rfl
    rw [hmax]
    omega

/-- An estimate counts words as long as there are fewer than `2 ^ 32` characters to count. -/
theorem countsWords_estimate (hmessages : contentLength messages < 2 ^ 32) (hanswer : answer.length < 2 ^ 32) :
    (estimate messages answer).CountsWords messages answer := by
  have hprompt := toNat_promptTokensOf hmessages
  have hreply := toNat_tokens hanswer
  refine ⟨hprompt, hreply, ?_⟩
  rw [estimate, ofCounts, toNat_cappedAdd, hprompt, hreply]

end Usage

end ChatRace.Chat
