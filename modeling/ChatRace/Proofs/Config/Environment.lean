import Mathlib.Data.Nat.Digits.Defs
import Mathlib.Tactic.Ring
import ChatRace.Config.Basic
import ChatRace.Proofs.Text.Octets

/-!
# What the environment tells

A variable tells a number if it is set to a numeral, with a plus sign and zeros in front or not (`Denotes`), and leaves
the default in force otherwise (`natural?_eq_some`, `tells_positive`).  Only a list of backends can be at fault, and no
field of the configuration depends on another variable than its own (`ofEnvironment_reads`).
-/

namespace ChatRace.Config

/-! ### Numerals -/

/-- Decimal digits write a number. -/
structure IsDecimal (ds : List Char) (n : Nat) : Prop where
  ne_nil : ds ≠ []
  isDigit : ∀ c ∈ ds, c.isDigit = true
  value : n = Nat.ofDigits 10 (ds.reverse.map fun c => c.toNat - '0'.toNat)

/-- A text is decimal digits that write a number, perhaps with a plus sign in front of them. -/
inductive Denotes : String → Nat → Prop
  | bare {s : String} {n : Nat} : IsDecimal s.toList n → Denotes s n
  | signed {s : String} {n : Nat} : IsDecimal s.toList n → Denotes ("+" ++ s) n

variable {s : String} {ds : List Char} {n : Nat}

private theorem foldl_eq_ofDigits (ds : List Char) :
    ds.foldl (fun n c => n * 10 + (c.toNat - '0'.toNat)) 0 =
      Nat.ofDigits 10 (ds.reverse.map fun c => c.toNat - '0'.toNat) := by
  have hstep : (fun (c : Char) (n : Nat) => n * 10 + (c.toNat - '0'.toNat)) =
      fun c n => (c.toNat - '0'.toNat) + 10 * n := by
    funext c n
    ring
  rw [← List.foldr_reverse, hstep, Nat.ofDigits_eq_foldr, List.foldr_map]
  rfl

private theorem decimal?_eq_some : decimal? ds = some n ↔ IsDecimal ds n ∧ n < 2 ^ 64 := by
  rw [decimal?, foldl_eq_ofDigits]
  constructor
  · intro h
    split at h
    · cases h
    · rename_i hcond
      obtain rfl := Option.some.inj h
      simp only [Bool.or_eq_true, List.isEmpty_iff, Bool.not_eq_true', List.all_eq_false, decide_eq_true_eq,
        not_or, not_exists, not_and, Nat.not_le] at hcond
      obtain ⟨⟨hne, hdigits⟩, hlt⟩ := hcond
      exact ⟨⟨hne, fun c hc => by simpa using hdigits c hc, rfl⟩, hlt⟩
  · rintro ⟨⟨hne, hdigits, rfl⟩, hlt⟩
    have hall : ds.all Char.isDigit = true := List.all_eq_true.2 hdigits
    have hle := Nat.not_le.2 hlt
    rw [if_neg]
    simp only [hall, List.isEmpty_iff, hne, decide_eq_true_eq, hle, Bool.or_eq_true, Bool.not_true,
      Bool.false_eq_true, or_self, not_false_eq_true]

private theorem natural?_signed (h : s.toList = '+' :: ds) : natural? s = decimal? ds := by
  simp only [natural?, h]

private theorem natural?_bare (h : ∀ ds, s.toList ≠ '+' :: ds) : natural? s = decimal? s.toList := by
  rw [natural?]
  split
  · exact absurd ‹_› (h _)
  · rfl

/-- The texts that write a number of 64 bits are the numerals of these numbers. -/
theorem natural?_eq_some : natural? s = some n ↔ Denotes s n ∧ n < 2 ^ 64 := by
  constructor
  · intro h
    by_cases hsign : ∃ ds, s.toList = '+' :: ds
    · obtain ⟨ds, hds⟩ := hsign
      rw [natural?_signed hds] at h
      obtain ⟨hdecimal, hlt⟩ := decimal?_eq_some.1 h
      have hs : "+" ++ String.ofList ds = s := by
        rw [← String.toList_inj, hds]
        simp
      rw [← String.toList_ofList (l := ds)] at hdecimal
      exact ⟨hs ▸ .signed hdecimal, hlt⟩
    · rw [natural?_bare (not_exists.1 hsign)] at h
      obtain ⟨hdecimal, hlt⟩ := decimal?_eq_some.1 h
      exact ⟨.bare hdecimal, hlt⟩
  · rintro ⟨hdenotes, hlt⟩
    cases hdenotes with
    | bare hdecimal =>
      -- a plus sign would be one of the digits
      have hbare : ∀ ds, s.toList ≠ '+' :: ds := by
        intro ds hds
        have hplus := hdecimal.isDigit '+' (by rw [hds]; exact List.mem_cons_self ..)
        exact absurd hplus (by decide)
      rw [natural?_bare hbare]
      exact decimal?_eq_some.2 ⟨hdecimal, hlt⟩
    | @signed digits _ hdecimal =>
      have hsigned : ("+" ++ digits).toList = '+' :: digits.toList := by simp
      rw [natural?_signed hsigned]
      exact decimal?_eq_some.2 ⟨hdecimal, hlt⟩

example : natural? "+0018446744073709551615" = some (2 ^ 64 - 1) := by decide
example : natural? "18446744073709551616" = none := by decide

/-! ### Variables -/

variable {env env' : Environment} {name : String} {fallback : Nat}

theorem textOf?_eq_some : textOf? env name = some s ↔ env name = some (Text.toUtf8 s) := by
  simp only [textOf?, Option.bind_eq_some_iff, Text.ofUtf8?_eq_some, exists_eq_right]

theorem textOf?_congr (h : env name = env' name) : textOf? env name = textOf? env' name := by
  rw [textOf?, textOf?, h]

/-- A variable is set to the numeral of a positive number of 64 bits. -/
structure Sets (env : Environment) (name : String) (n : Nat) : Prop where
  numeral : ∃ s, env name = some (Text.toUtf8 s) ∧ Denotes s n
  pos : 1 ≤ n
  le : n ≤ 2 ^ 64 - 1

/-- A number is the one that a variable is set to, or the default if the variable is set to none. -/
structure Tells (env : Environment) (name : String) (fallback value : Nat) : Prop where
  told : ∀ n, Sets env name n → value = n
  untold : (∀ n, ¬Sets env name n) → value = fallback

private theorem filter_natural?_eq_some :
    ((textOf? env name).bind natural?).filter (0 < ·) = some n ↔ Sets env name n := by
  rw [Option.filter_eq_some_iff, Option.bind_eq_some_iff, decide_eq_true_eq]
  simp only [textOf?_eq_some, natural?_eq_some]
  constructor
  · rintro ⟨⟨s, hs, hdenotes, hlt⟩, hpos⟩
    exact ⟨⟨s, hs, hdenotes⟩, hpos, Nat.le_sub_one_of_lt hlt⟩
  · rintro ⟨⟨s, hs, hdenotes⟩, hpos, hle⟩
    exact ⟨⟨s, hs, hdenotes, Nat.lt_of_le_sub_one (by decide) hle⟩, hpos⟩

theorem tells_positive (env : Environment) (name : String) (fallback : Nat) :
    Tells env name fallback (positive env name fallback) := by
  rw [positive]
  cases hset : ((textOf? env name).bind natural?).filter (0 < ·) with
  | none =>
    refine ⟨fun n hn => ?_, fun _ => rfl⟩
    rw [filter_natural?_eq_some.2 hn] at hset
    cases hset
  | some k =>
    refine ⟨fun n hn => ?_, fun hnone => absurd (filter_natural?_eq_some.1 hset) (hnone k)⟩
    rw [filter_natural?_eq_some.2 hn] at hset
    exact (Option.some.inj hset).symm

/-- A number that a variable tells is positive if the default is. -/
theorem Tells.pos {value : Nat} (h : Tells env name fallback value) (hpos : 0 < fallback) : 0 < value := by
  by_cases hset : ∃ n, Sets env name n
  · obtain ⟨n, hn⟩ := hset
    rw [h.told n hn]
    exact hn.pos
  · rw [h.untold (not_exists.1 hset)]
    exact hpos

/-! ### The configuration -/

/-- The list of backends is set to a text with a fault. -/
def Rejects (env : Environment) (fault : ConfigFault) : Prop :=
  ∃ raw, env "GATEWAY_BACKENDS" = some (Text.toUtf8 raw) ∧ BackendSpec.ofText raw = .error fault

/-- Two configurations have the same in each field whose own variable is the same in two environments. -/
structure Follows (env env' : Environment) (c c' : Config) : Prop where
  bindAddress : env "GATEWAY_BIND_ADDR" = env' "GATEWAY_BIND_ADDR" → c.bindAddress = c'.bindAddress
  raceTimeout : env "GATEWAY_RACE_TIMEOUT_MS" = env' "GATEWAY_RACE_TIMEOUT_MS" → c.raceTimeout = c'.raceTimeout
  backends : env "GATEWAY_BACKENDS" = env' "GATEWAY_BACKENDS" → c.backends = c'.backends
  apiKey : env "GATEWAY_BACKEND_API_KEY" = env' "GATEWAY_BACKEND_API_KEY" → c.apiKey = c'.apiKey
  backendTimeout : env "GATEWAY_BACKEND_TIMEOUT_SECS" = env' "GATEWAY_BACKEND_TIMEOUT_SECS" →
    c.backendTimeout = c'.backendTimeout

private theorem listed_eq_error {fault : ConfigFault} : listed env = .error fault ↔ Rejects env fault := by
  simp only [Rejects, ← textOf?_eq_some]
  rw [listed]
  constructor
  · intro h
    split at h
    · exact ⟨_, ‹_›, h⟩
    · cases h
  · rintro ⟨raw, hraw, hfault⟩
    simp only [hraw, hfault]

private theorem ofEnvironment_eq_error {fault : ConfigFault} :
    ofEnvironment env = .error fault ↔ Rejects env fault := by
  rw [← listed_eq_error, ofEnvironment]
  cases listed env <;> simp [Except.map]

private theorem ofEnvironment_eq_ok {c : Config} :
    ofEnvironment env = .ok c ↔ ∃ backends, listed env = .ok backends ∧ configured env backends = c := by
  rw [ofEnvironment]
  cases listed env <;> simp [Except.map]

theorem follows_of_ofEnvironment {c c' : Config} (h : ofEnvironment env = .ok c) (h' : ofEnvironment env' = .ok c') :
    Follows env env' c c' := by
  obtain ⟨backends, hlisted, rfl⟩ := ofEnvironment_eq_ok.1 h
  obtain ⟨backends', hlisted', rfl⟩ := ofEnvironment_eq_ok.1 h'
  constructor
  · intro hsame
    simp only [configured, textOf?_congr hsame]
  · intro hsame
    simp only [configured, positive, textOf?_congr hsame]
  · intro hsame
    rw [listed, textOf?_congr hsame] at hlisted
    exact Except.ok.inj (hlisted.symm.trans hlisted')
  · intro hsame
    simp only [configured, textOf?_congr hsame]
  · intro hsame
    simp only [configured, positive, textOf?_congr hsame]

/-- Whatever octets the variables are set to, there is a fault exactly if the list of backends is a text that has it.
Otherwise there is a configuration.  Its two times are the positive numbers of 64 bits that their variables are set to,
or else 30000 milliseconds and 60 seconds, so they are positive; its key is not empty; and each of its fields is that
of every other configuration whose environment sets the field's own variable alike. -/
theorem ofEnvironment_reads (env : Environment) :
    (∀ fault, ofEnvironment env = .error fault ↔ Rejects env fault) ∧
    ((∀ fault, ¬Rejects env fault) → ∃ c, ofEnvironment env = .ok c ∧
      Tells env "GATEWAY_RACE_TIMEOUT_MS" 30000 c.raceTimeout ∧ 0 < c.raceTimeout ∧
      Tells env "GATEWAY_BACKEND_TIMEOUT_SECS" 60 c.backendTimeout ∧ 0 < c.backendTimeout ∧
      c.apiKey ≠ some "" ∧
      ∀ env' c', ofEnvironment env' = .ok c' → Follows env env' c c') := by
  refine ⟨fun fault => ofEnvironment_eq_error, ?_⟩
  intro hsound
  have hlisted : ∃ backends, listed env = .ok backends := by
    cases h : listed env with
    | error fault => exact absurd (listed_eq_error.1 h) (hsound fault)
    | ok backends => exact ⟨backends, rfl⟩
  obtain ⟨backends, hbackends⟩ := hlisted
  have hread := ofEnvironment_eq_ok.2 ⟨backends, hbackends, rfl⟩
  have hrace := tells_positive env "GATEWAY_RACE_TIMEOUT_MS" default.raceTimeout
  have hbackend := tells_positive env "GATEWAY_BACKEND_TIMEOUT_SECS" default.backendTimeout
  refine ⟨_, hread, hrace, hrace.pos (by decide), hbackend, hbackend.pos (by decide), ?_, ?_⟩
  · intro hempty
    have hkept := (Option.filter_eq_some_iff.1 hempty).2
    exact absurd hkept (by decide)
  · intro env' c' h'
    exact follows_of_ofEnvironment hread h'

end ChatRace.Config
