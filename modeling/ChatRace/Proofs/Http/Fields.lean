import ChatRace.Http.Header
import ChatRace.Proofs.Text.Octets

/-!
# Values of header fields

Whether a text may be the value of a field is told by its octets alone: all of them stand for characters that may, and
all octets of characters beyond ASCII may (`isValue_iff`).  A field that is set has the new value and no other, and all
other fields keep theirs (`Headers.values_insert`, `Headers.values_insert_of_ne`).
-/

namespace ChatRace.Http

/-! ### Values -/

/-- Whether an octet may stand in the value of a field: no control character but the tab, and any octet beyond ASCII. -/
def IsFieldOctet (b : UInt8) : Prop := b = 0x09 ∨ (0x20 ≤ b ∧ b ≠ 0x7F)

private theorem isFieldOctet_iff (b : UInt8) :
    IsFieldOctet b ↔ b.toNat = 9 ∨ (0x20 ≤ b.toNat ∧ b.toNat ≠ 0x7F) := by
  simp [IsFieldOctet, UInt8.le_iff_toNat_le, ← UInt8.toNat_inj]

private theorem isValueChar_iff (c : Char) :
    isValueChar c = true ↔ ∀ b ∈ String.utf8EncodeChar c, IsFieldOctet b := by
  have htab : c = '\t' ↔ c.toNat = 9 := by rw [← Char.toNat_inj]; rfl
  have hchar : isValueChar c = true ↔ c.toNat = 9 ∨ (0x20 ≤ c.toNat ∧ c.toNat ≠ 0x7F) := by
    simp [isValueChar, htab]
  rw [hchar]
  by_cases hascii : c.toNat < 0x80
  · have hcode : (UInt8.ofNat c.toNat).toNat = c.toNat := by
      rw [UInt8.toNat_ofNat', Nat.mod_eq_of_lt (by omega)]
    rw [Text.octets_of_ascii hascii, List.forall_mem_singleton, isFieldOctet_iff, hcode]
  · refine ⟨fun _ b hb => ?_, fun _ => by omega⟩
    have hle : 0x80 ≤ b.toNat := UInt8.le_iff_toNat_le.1 (Text.le_of_mem_octets (Nat.not_lt.1 hascii) hb)
    rw [isFieldOctet_iff]
    omega

/-- A text may be the value of a field if all its octets may stand in one. -/
theorem isValue_iff (s : String) : isValue s = true ↔ ∀ b ∈ Text.toUtf8 s, IsFieldOctet b := by
  rw [isValue, List.all_eq_true, Text.toUtf8_eq, List.forall_mem_flatMap]
  simp only [isValueChar_iff]

/-! ### Fields -/

namespace Headers

variable {name name' : String}

theorem values_insert (h : Headers) (name value : String) : (h.insert name value).values name = [value] := by
  simp [insert, values, List.filter_append, List.filter_filter]

theorem values_insert_of_ne (h : Headers) (hne : lowerCase name ≠ lowerCase name') (value : String) :
    (h.insert name' value).values name = h.values name := by
  have hold : (fun f : String × String => f.1 == lowerCase name && f.1 != lowerCase name') =
      fun f => f.1 == lowerCase name := by
    funext f
    by_cases hf : f.1 = lowerCase name <;> simp [hf, hne]
  simp [insert, values, List.filter_append, List.filter_filter, hold, hne.symm]

end Headers

end ChatRace.Http
