import ChatRace.Text.Utf8

/-!
# Octets of characters

The octets of a text are those of its characters one after another (`toUtf8_eq`), and no other text has them
(`ofUtf8?_eq_some`).  A character of ASCII has one octet, its code; all octets of other characters are at least `0x80`,
so an octet of ASCII stands for nothing but its own character (`toNat_of_mem_octets`).
-/

namespace ChatRace.Text

theorem toUtf8_eq (s : String) : toUtf8 s = s.toList.flatMap String.utf8EncodeChar := by
  have h : s.toByteArray = (s.toList.flatMap String.utf8EncodeChar).toByteArray := String.utf8Encode_toList.symm
  rw [toUtf8, h]
  simp

theorem toUtf8_append (s t : String) : toUtf8 (s ++ t) = toUtf8 s ++ toUtf8 t := by
  simp [toUtf8_eq]

/-- Each character has an octet at least. -/
theorem length_le_toUtf8 (s : String) : s.length ≤ (toUtf8 s).length := by
  have hlist (cs : List Char) : cs.length ≤ (cs.flatMap String.utf8EncodeChar).length := by
    induction cs with
    | nil => exact Nat.le_refl 0
    | cons c cs ih =>
      have hpos := Char.utf8Size_pos c
      rw [List.flatMap_cons, List.length_append, String.length_utf8EncodeChar, List.length_cons]
      omega
  rw [toUtf8_eq, ← String.length_toList]
  exact hlist s.toList

/-- Octets are read as a text exactly if they are its own. -/
theorem ofUtf8?_eq_some {octets : List UInt8} {s : String} : ofUtf8? octets = some s ↔ octets = toUtf8 s := by
  constructor
  · intro h
    rw [ofUtf8?, String.fromUTF8?] at h
    split at h
    · obtain rfl := Option.some.inj h
      simp [toUtf8, String.fromUTF8]
    · cases h
  · rintro rfl
    exact ofUtf8?_toUtf8 s

theorem octets_of_ascii {c : Char} (h : c.toNat < 0x80) : String.utf8EncodeChar c = [UInt8.ofNat c.toNat] := by
  have hle : c.val.toNat ≤ 127 := Nat.le_of_lt_succ h
  simp only [String.utf8EncodeChar, hle, if_true]
  rfl

/-- The octets of a character beyond ASCII are those that UTF-8 keeps for such characters. -/
theorem le_of_mem_octets {c : Char} (h : 0x80 ≤ c.toNat) {b : UInt8} (hb : b ∈ String.utf8EncodeChar c) :
    0x80 ≤ b := by
  have hlt : ¬c.val.toNat ≤ 127 := Nat.not_le.2 h
  -- each octet is a remainder on top of a mark that is no less
  have hmark (x m k : Nat) (hm : 0x80 ≤ m) (hk : 0 < k) (hsum : m + k ≤ 256) : 0x80 ≤ UInt8.ofNat (x % k + m) := by
    have := Nat.mod_lt x hk
    rw [UInt8.le_iff_toNat_le, UInt8.toNat_ofNat', Nat.mod_eq_of_lt (by omega)]
    simp
    omega
  simp only [String.utf8EncodeChar, hlt, if_false] at hb
  split at hb
  · simp only [List.mem_cons, List.not_mem_nil, or_false] at hb
    rcases hb with rfl | rfl <;> exact hmark _ _ _ (by decide) (by decide) (by decide)
  · split at hb
    · simp only [List.mem_cons, List.not_mem_nil, or_false] at hb
      rcases hb with rfl | rfl | rfl <;> exact hmark _ _ _ (by decide) (by decide) (by decide)
    · simp only [List.mem_cons, List.not_mem_nil, or_false] at hb
      rcases hb with rfl | rfl | rfl | rfl <;> exact hmark _ _ _ (by decide) (by decide) (by decide)

/-- An octet of ASCII stands for its own character alone. -/
theorem toNat_of_mem_octets {c : Char} {b : UInt8} (hb : b ∈ String.utf8EncodeChar c) (hascii : b < 0x80) :
    c.toNat = b.toNat := by
  by_cases h : c.toNat < 0x80
  · rw [octets_of_ascii h, List.mem_singleton] at hb
    subst hb
    simp
    omega
  · exact absurd (le_of_mem_octets (Nat.not_lt.1 h) hb) (UInt8.not_le.2 hascii)

end ChatRace.Text
