import Mathlib.Tactic.IntervalCases
import ChatRace.Json.Node
import ChatRace.Json.Value
import ChatRace.Proofs.Text.Octets

/-!
# Written strings and integers

What a pass over the octets of a written string or integer comes to.  A string makes one token, with a piece
for each octet but for the control characters that are written as their codes (`run_quote`); it is read as the
text that it was (`text_quotedOf`).  An integer makes the numeral of its decimal digits, which ends only with what
comes behind it (`rests_int`), and one below `2 ^ 64` is read as itself (`value_numeralOf`).
-/

namespace ChatRace.Json

open Token

/-- The octets of some characters. -/
abbrev octetsOf (cs : List Char) : List UInt8 := cs.flatMap String.utf8EncodeChar

/-! ### Strings -/

/-- Whether a character within a string is written as its code. -/
def isCoded (c : Char) : Bool :=
  c.toNat < 0x20 && !(['\x08', '\x0c', '\n', '\r', '\t'].contains c)

/-- What stands in a document for a character within a string. -/
def piecesOf (c : Char) : List Piece :=
  if isCoded c then [.unit c.toNat] else (String.utf8EncodeChar c).map .octet

/-- A text as it stands in a document. -/
def quotedOf (s : String) : Quoted := ⟨s.toList.flatMap piecesOf, .closed⟩

namespace Token.Scan

/-- An octet that needs no escape stands for itself. -/
private theorem step_plain {b : UInt8} (hquote : b ≠ 0x22) (hslash : b ≠ 0x5C) (hcontrol : 0x20 ≤ b)
    (ts : List Token) (ps : List Piece) : (⟨ts, .quoted ps⟩ : Scan).step b = ⟨ts, .quoted (.octet b :: ps)⟩ := by
  simp [step, hquote, hslash, UInt8.not_lt.2 hcontrol]

private theorem run_plain {bs : List UInt8} (h : ∀ b ∈ bs, b ≠ 0x22 ∧ b ≠ 0x5C ∧ 0x20 ≤ b) (ts : List Token)
    (ps : List Piece) :
    (⟨ts, .quoted ps⟩ : Scan).run bs = ⟨ts, .quoted ((bs.map .octet).reverse ++ ps)⟩ := by
  induction bs generalizing ps with
  | nil => rfl
  | cons b bs ih =>
    obtain ⟨hquote, hslash, hcontrol⟩ := h b (List.mem_cons_self ..)
    have hrest := ih (fun b' hb' => h b' (List.mem_cons_of_mem b hb')) (.octet b :: ps)
    rw [run, List.foldl_cons, step_plain hquote hslash hcontrol]
    simpa [run] using hrest

/-- The four digits of a code below `0x20`. -/
private theorem run_code {n : Nat} (h : n < 0x20) (ts : List Token) (ps : List Piece) :
    (⟨ts, .quoted ps⟩ : Scan).run (octetsOf (['\\', 'u', '0', '0'] ++ Value.hexPair n)) =
      ⟨ts, .quoted (.unit n :: ps)⟩ := by
  interval_cases n <;> rfl

/-- No octet of a character that is written as it is has a meaning of its own within a string. -/
private theorem octets_plain {c : Char} (hquote : c ≠ '"') (hslash : c ≠ '\\') (hcontrol : 0x20 ≤ c.toNat)
    {b : UInt8} (hb : b ∈ String.utf8EncodeChar c) : b ≠ 0x22 ∧ b ≠ 0x5C ∧ 0x20 ≤ b := by
  have hcode (h : b < 0x80) : c = Char.ofNat b.toNat := by
    rw [← Text.toNat_of_mem_octets hb h, Char.ofNat_toNat]
  refine ⟨?_, ?_, ?_⟩
  · rintro rfl
    exact hquote (hcode (by decide))
  · rintro rfl
    exact hslash (hcode (by decide))
  · by_contra hlow
    have hlt : b < 0x20 := UInt8.not_le.1 hlow
    have hascii : b < 0x80 := UInt8.lt_trans hlt (by decide)
    rw [Text.toNat_of_mem_octets hb hascii] at hcontrol
    exact absurd (UInt8.lt_iff_toNat_lt.1 hlt) (Nat.not_lt.2 hcontrol)

/-- A character within a string, as it is written. -/
private theorem run_escape (c : Char) (ts : List Token) (ps : List Piece) :
    (⟨ts, .quoted ps⟩ : Scan).run (octetsOf (Value.escape c)) = ⟨ts, .quoted ((piecesOf c).reverse ++ ps)⟩ := by
  unfold Value.escape
  split
  iterate 7 rfl
  rename_i hquote hslash hback hfeed hline hreturn htab
  split
  · -- a control character without a letter of its own
    rename_i hcontrol
    have hcoded : isCoded c = true := by
      simp only [isCoded, List.contains_cons, List.contains_nil, Bool.and_eq_true, decide_eq_true_eq]
      grind
    rw [run_code hcontrol, piecesOf, if_pos hcoded]
    rfl
  · rename_i hcontrol
    have hplain : isCoded c = false := by simp [isCoded, hcontrol]
    have hrun := run_plain (fun b hb => octets_plain hquote hslash (Nat.not_lt.1 hcontrol) hb) ts ps
    simpa [piecesOf, hplain, octetsOf] using hrun

private theorem run_escapes (cs : List Char) (ts : List Token) (ps : List Piece) :
    (⟨ts, .quoted ps⟩ : Scan).run (octetsOf (cs.flatMap Value.escape)) =
      ⟨ts, .quoted ((cs.flatMap piecesOf).reverse ++ ps)⟩ := by
  induction cs generalizing ps with
  | nil => rfl
  | cons c cs ih =>
    rw [List.flatMap_cons, octetsOf, List.flatMap_append, run_append, run_escape, ih]
    simp

/-- A written string makes one token. -/
theorem run_quote (s : String) (ts : List Token) :
    (⟨ts, .between⟩ : Scan).run (Text.toUtf8 (Value.quote s)) = ⟨.string (quotedOf s) :: ts, .between⟩ := by
  have hopen : (⟨ts, .between⟩ : Scan).run (Text.toUtf8 "\"") = ⟨ts, .quoted []⟩ := rfl
  have hclose (ps : List Piece) : (⟨ts, .quoted ps⟩ : Scan).run (Text.toUtf8 "\"") =
      ⟨ofPieces ps .closed :: ts, .between⟩ := rfl
  have hinside : Text.toUtf8 (String.ofList (s.toList.flatMap Value.escape)) =
      octetsOf (s.toList.flatMap Value.escape) := by
    rw [Text.toUtf8_eq, String.toList_ofList]
  rw [Value.quote, Text.toUtf8_append, Text.toUtf8_append, run_append, run_append, hopen, hinside, run_escapes,
    hclose]
  simp [ofPieces, quotedOf]

end Token.Scan

private theorem octets_map_octet (bs : List UInt8) (seen : List UInt8) (rest : List Piece) :
    Quoted.octets .closed seen (bs.map .octet ++ rest) = Quoted.octets .closed (bs.reverse ++ seen) rest := by
  induction bs generalizing seen with
  | nil => rfl
  | cons b bs ih =>
    rw [List.map_cons, List.cons_append, Quoted.octets, ih]
    simp

private theorem octets_piecesOf (c : Char) (seen : List UInt8) (rest : List Piece) :
    Quoted.octets .closed seen (piecesOf c ++ rest) =
      Quoted.octets .closed ((String.utf8EncodeChar c).reverse ++ seen) rest := by
  unfold piecesOf
  split
  · rename_i hcoded
    have hlow : c.toNat < 0x20 := by
      rw [isCoded, Bool.and_eq_true, decide_eq_true_eq] at hcoded
      exact hcoded.1
    have htrail : Quoted.isTrail c.toNat = false := by
      simp [Quoted.isTrail]
      omega
    have hlead : Quoted.isLead c.toNat = false := by
      simp [Quoted.isLead]
      omega
    have hback : Quoted.octetsBack c.toNat = (String.utf8EncodeChar c).reverse := by
      rw [Quoted.octetsBack, Char.ofNat_toNat, Text.toUtf8_eq]
      simp
    rw [List.cons_append, List.nil_append, Quoted.octets.eq_def]
    simp [htrail, hlead, hback]
  · exact octets_map_octet _ seen rest

private theorem octets_quoted (cs : List Char) (seen : List UInt8) :
    Quoted.octets .closed seen (cs.flatMap piecesOf) = .ok (seen.reverse ++ octetsOf cs) := by
  induction cs generalizing seen with
  | nil => simp [Quoted.octets, QuoteEnd.cause?]
  | cons c cs ih =>
    rw [List.flatMap_cons, octets_piecesOf, ih]
    simp

/-- A written string is read as the text that it was. -/
@[simp] theorem text_quotedOf (s : String) : (quotedOf s).text = .ok s := by
  have hoctets := octets_quoted s.toList []
  rw [List.reverse_nil, List.nil_append, octetsOf, ← Text.toUtf8_eq] at hoctets
  simp [Quoted.text, quotedOf, hoctets]

/-! ### Integers -/

/-- The decimal digits of a number. -/
def decimalsOf (n : Nat) : List Nat := (Nat.toDigits 10 n).map fun c => c.toNat - '0'.toNat

/-- An integer as it stands in a document. -/
def numeralOf (n : Int) : Numeral := ⟨n < 0, decimalsOf n.natAbs, none, none⟩

private theorem decimalsOf_of_lt {n : Nat} (h : n < 10) : decimalsOf n = [n] := by
  rw [decimalsOf, Nat.toDigits_of_lt_base h]
  interval_cases n <;> rfl

private theorem decimalsOf_of_le {n : Nat} (h : 10 ≤ n) : decimalsOf n = decimalsOf (n / 10) ++ [n % 10] := by
  have hlt : n % 10 < 10 := Nat.mod_lt n (by decide)
  have hdigit : decimalsOf (n % 10) = [n % 10] := decimalsOf_of_lt hlt
  rw [decimalsOf, Nat.toDigits_of_lt_base hlt] at hdigit
  rw [decimalsOf, Nat.toDigits_of_base_le (by decide) h, List.map_append, hdigit, decimalsOf]

namespace Token

/-- The numeral of a number that is being read, all its digits having come. -/
private def draftOf (negative : Bool) (n : Nat) : NumeralDraft :=
  ⟨if n = 0 then .zero else .whole, negative, (decimalsOf n).reverse, none, none⟩

private theorem digit?_digitChar {d : Nat} (h : d < 10) :
    ∃ b, octetsOf [Nat.digitChar d] = [b] ∧ NumeralDraft.digit? b = some d := by
  interval_cases d <;> exact ⟨_, rfl, rfl⟩

/-- A pass that takes each digit for the first one of a numeral. -/
private theorem Scan.run_digits {s : Scan} {ts : List Token} {negative : Bool}
    (hfirst : ∀ d < 10, s.run (octetsOf [Nat.digitChar d]) = ⟨ts, .numeral (.first negative d)⟩) (n : Nat) :
    s.run (octetsOf (Nat.toDigits 10 n)) = ⟨ts, .numeral (draftOf negative n)⟩ := by
  induction n using Nat.strongRecOn with
  | ind n ih =>
    by_cases hn : n < 10
    · have hdraft : draftOf negative n = .first negative n := by
        rw [draftOf, decimalsOf_of_lt hn]
        rfl
      rw [Nat.toDigits_of_lt_base hn, hdraft, hfirst n hn]
    · have hle : 10 ≤ n := Nat.not_lt.1 hn
      obtain ⟨b, hb, hdigit⟩ := digit?_digitChar (Nat.mod_lt n (by decide : 0 < 10))
      have hwhole : n / 10 ≠ 0 := by omega
      have hdraft : draftOf negative n =
          { draftOf negative (n / 10) with whole := n % 10 :: (draftOf negative (n / 10)).whole } := by
        have hn0 : n ≠ 0 := by omega
        simp [draftOf, decimalsOf_of_le hle, hwhole, hn0]
      have hstep : (⟨ts, .numeral (draftOf negative (n / 10))⟩ : Scan).run [b] =
          ⟨ts, .numeral (draftOf negative n)⟩ := by
        rw [hdraft]
        simp [run, step, NumeralDraft.step, hdigit, NumeralDraft.push, draftOf, hwhole]
      rw [Nat.toDigits_of_base_le (by decide) hle, octetsOf, List.flatMap_append, run_append,
        ih (n / 10) (by omega)]
      exact (congrArg _ hb).trans hstep

/-- A pass that has come to the end of a token, with all tokens that have come, last first.  The last one may be
an integer that could still go on. -/
inductive Rests : List Token → Scan → Prop
  | between (ts : List Token) : Rests ts ⟨ts, .between⟩
  | numeral (ts : List Token) {d : NumeralDraft} (h : d.part = .zero ∨ d.part = .whole) :
      Rests (.number d.finish :: ts) ⟨ts, .numeral d⟩

namespace Rests

variable {ts : List Token} {s : Scan}

theorem finish_eq (h : Rests ts s) : s.finish = ts.reverse := by
  cases h with
  | between => rfl
  | numeral ts h =>
    rcases h with h | h <;> simp [Scan.finish, NumeralDraft.isComplete, h]

/-- A comma or a closing bracket is the first octet of a token in any case. -/
theorem step_eq (h : Rests ts s) {b : UInt8} (hb : b = 0x2C ∨ b = 0x5D ∨ b = 0x7D) :
    s.step b = Scan.first ts b := by
  cases h with
  | between => rfl
  | numeral ts h =>
    rename_i d
    have hstep : d.step b = .complete := by
      rcases hb with rfl | rfl | rfl <;> rcases h with h | h <;>
        simp [NumeralDraft.step, NumeralDraft.digit?, NumeralDraft.mark, h]
    simp [Scan.step, hstep]

end Rests

private theorem rests_draftOf (negative : Bool) (n : Nat) (ts : List Token) :
    Rests (.number ⟨negative, decimalsOf n, none, none⟩ :: ts) ⟨ts, .numeral (draftOf negative n)⟩ := by
  have hpart : (draftOf negative n).part = .zero ∨ (draftOf negative n).part = .whole := by
    unfold draftOf
    split
    · exact .inl rfl
    · exact .inr rfl
  simpa [draftOf, NumeralDraft.finish] using Rests.numeral ts hpart

/-- A written integer makes one token. -/
theorem rests_int (n : Int) (ts : List Token) :
    Rests (.number (numeralOf n) :: ts) ((⟨ts, .between⟩ : Scan).run (Text.toUtf8 (toString n))) := by
  cases n with
  | ofNat n =>
    have hdigits : Text.toUtf8 (toString (Int.ofNat n)) = octetsOf (Nat.toDigits 10 n) := by
      rw [Text.toUtf8_eq]
      exact congrArg octetsOf (Nat.toList_repr ..)
    have hfirst (d : Nat) (hd : d < 10) : (⟨ts, .between⟩ : Scan).run (octetsOf [Nat.digitChar d]) =
        ⟨ts, .numeral (.first false d)⟩ := by
      interval_cases d <;> rfl
    rw [hdigits, Scan.run_digits hfirst]
    exact rests_draftOf false n ts
  | negSucc n =>
    have hdigits : Text.toUtf8 (toString (Int.negSucc n)) = 0x2D :: octetsOf (Nat.toDigits 10 (n + 1)) := by
      have hsign : toString (Int.negSucc n) = "-" ++ Nat.repr (n + 1) := rfl
      rw [hsign, Text.toUtf8_append, Text.toUtf8_eq (Nat.repr _), Nat.toList_repr]
      rfl
    have hfirst (d : Nat) (hd : d < 10) : (⟨ts, .numeral .minus⟩ : Scan).run (octetsOf [Nat.digitChar d]) =
        ⟨ts, .numeral (.first true d)⟩ := by
      interval_cases d <;> rfl
    have hnumeral : numeralOf (Int.negSucc n) = ⟨true, decimalsOf (n + 1), none, none⟩ := by
      simp [numeralOf, Int.negSucc_lt_zero]
    have hminus : (⟨ts, .between⟩ : Scan).step 0x2D = ⟨ts, .numeral .minus⟩ := rfl
    rw [hdigits, Scan.run, List.foldl_cons, hminus, ← Scan.run, Scan.run_digits hfirst, hnumeral]
    exact rests_draftOf true (n + 1) ts

end Token

private theorem collect_append {k m : Nat} {ds : List Nat} (h : Numeral.collect k ds = (m, []))
    (rest : List Nat) : Numeral.collect k (ds ++ rest) = Numeral.collect m rest := by
  induction ds generalizing k with
  | nil =>
    obtain ⟨rfl, -⟩ := Prod.mk.inj h
    rfl
  | cons d ds ih =>
    rw [Numeral.collect] at h
    split at h
    · rename_i hle
      rw [List.cons_append, Numeral.collect, if_pos hle, ih h]
    · cases h

private theorem collect_decimalsOf {n : Nat} (h : n < 2 ^ 64) : Numeral.collect 0 (decimalsOf n) = (n, []) := by
  induction n using Nat.strongRecOn with
  | ind n ih =>
    by_cases hn : n < 10
    · have hmax : n ≤ Numeral.maxSignificand := Nat.le_sub_one_of_lt h
      simp [decimalsOf_of_lt hn, Numeral.collect, hmax]
    · have hfront := ih (n / 10) (by omega) (by omega)
      have hsplit : n / 10 * 10 + n % 10 = n := by omega
      have hmax : n ≤ Numeral.maxSignificand := Nat.le_sub_one_of_lt h
      rw [decimalsOf_of_le (Nat.not_lt.1 hn), collect_append hfront]
      simp [Numeral.collect, hsplit, hmax]

/-- A written number below `2 ^ 64` is read as itself. -/
theorem value_numeralOf {n : Nat} (h : n < 2 ^ 64) : (numeralOf n).value = .ok (.natural n) := by
  have hcollect : Numeral.collect 0 (decimalsOf n) = (n, []) := collect_decimalsOf h
  simp [Numeral.value, numeralOf, hcollect]

end ChatRace.Json
