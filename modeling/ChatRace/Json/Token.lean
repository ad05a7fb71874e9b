import ChatRace.Json.Numeral
import ChatRace.Json.Quoted

/-!
# Tokens

The tokens of a JSON document, read in one pass over its octets. The pass ends at the first token that is
broken; what comes after one is of no interest to any reader.
-/

namespace ChatRace.Json

/-- A token; the last four constructors are broken ones. -/
inductive Token where
  | comma
  | colon
  | openArray
  | closeArray
  | openObject
  | closeObject
  | null
  | bool (b : Bool)
  | number (n : Numeral)
  /-- A quoted string, which is broken unless it is closed. -/
  | string (q : Quoted)
  /-- The beginning of a word that goes on differently, or with which the document ends. -/
  | cutWord (atEnd : Bool)
  /-- The beginning of a numeral that goes on differently, or with which the document ends. -/
  | cutNumeral (atEnd : Bool)
  /-- An octet that begins no token. -/
  | junk
  deriving DecidableEq, Repr

namespace Token

/-! ### Numerals -/

/-- The part of a numeral that has just been read. -/
inductive NumeralPart where
  | sign
  | zero
  | whole
  | point
  | fraction
  | exponentMark
  | exponentSign
  | exponent
  deriving DecidableEq, Repr

/-- A numeral under construction, the digits of each part last first. -/
structure NumeralDraft where
  part : NumeralPart
  negative : Bool
  whole : List Nat
  fraction : Option (List Nat)
  exponent : Option Exponent
  deriving DecidableEq, Repr

/-- What an octet does to a numeral. -/
inductive NumeralStep where
  | more (d : NumeralDraft)
  /-- The numeral ended before the octet. -/
  | complete
  /-- No numeral goes on like this. -/
  | broken

namespace NumeralDraft

/-- A minus sign. -/
def minus : NumeralDraft := ⟨.sign, true, [], none, none⟩

/-- The numeral that begins with the digit `d`. -/
def first (negative : Bool) (d : Nat) : NumeralDraft :=
  ⟨if d = 0 then .zero else .whole, negative, [d], none, none⟩

/-- The decimal digit that an octet stands for. -/
def digit? (b : UInt8) : Option Nat :=
  if 48 ≤ b && b ≤ 57 then some (b.toNat - 48) else none

/-- Whether a numeral may end here. -/
def isComplete (d : NumeralDraft) : Bool :=
  match d.part with
  | .zero | .whole | .fraction | .exponent => true
  | .sign | .point | .exponentMark | .exponentSign => false

/-- Takes an octet that is no digit. -/
def mark (d : NumeralDraft) (b : UInt8) : NumeralStep :=
  let c := Char.ofNat b.toNat
  match d.part with
  | .zero | .whole =>
    if c = '.' then .more { d with part := .point, fraction := some [] }
    else if c = 'e' || c = 'E' then .more { d with part := .exponentMark, exponent := some ⟨false, []⟩ }
    else .complete
  | .fraction =>
    if c = 'e' || c = 'E' then .more { d with part := .exponentMark, exponent := some ⟨false, []⟩ }
    else .complete
  | .exponentMark =>
    if c = '+' then .more { d with part := .exponentSign }
    else if c = '-' then .more { d with part := .exponentSign, exponent := some ⟨true, []⟩ }
    else .broken
  | .exponent => .complete
  | .sign | .point | .exponentSign => .broken

/-- Takes a digit; a zero in front takes none. -/
def push (d : NumeralDraft) (n : Nat) : NumeralStep :=
  match d.part with
  | .sign => .more (first d.negative n)
  | .zero => .broken
  | .whole => .more { d with whole := n :: d.whole }
  | .point | .fraction => .more { d with part := .fraction, fraction := d.fraction.map (n :: ·) }
  | .exponentMark | .exponentSign | .exponent =>
    .more { d with part := .exponent, exponent := d.exponent.map fun e => { e with digits := n :: e.digits } }

/-- Takes one octet. -/
def step (d : NumeralDraft) (b : UInt8) : NumeralStep :=
  match digit? b with
  | some n => d.push n
  | none => d.mark b

/-- The numeral with its digits in order. -/
def finish (d : NumeralDraft) : Numeral :=
  ⟨d.negative, d.whole.reverse, d.fraction.map List.reverse,
    d.exponent.map fun e => { e with digits := e.digits.reverse }⟩

end NumeralDraft

/-! ### The pass over the octets -/

/-- What is being read. -/
inductive Mode where
  | between
  /-- A word of which `rest` is still to come. -/
  | word (rest : List Char) (token : Token)
  | numeral (d : NumeralDraft)
  /-- A quoted string, its pieces last first. -/
  | quoted (pieces : List Piece)
  /-- A quoted string after a backslash. -/
  | escape (pieces : List Piece)
  /-- A quoted string after `\u` and the octets `seen`, last first. -/
  | hex (pieces : List Piece) (seen : List UInt8)
  /-- A broken token has been met. -/
  | stopped

/-- The tokens so far, last first, and what is being read. -/
structure Scan where
  tokens : List Token
  mode : Mode

/-- The number that a hexadecimal digit stands for. -/
def hexDigit? (b : UInt8) : Option Nat :=
  let c := Char.ofNat b.toNat
  if '0' ≤ c && c ≤ '9' then some (c.toNat - '0'.toNat)
  else if 'a' ≤ c && c ≤ 'f' then some (c.toNat - 'a'.toNat + 10)
  else if 'A' ≤ c && c ≤ 'F' then some (c.toNat - 'A'.toNat + 10)
  else none

/-- The number that hexadecimal digits write. -/
def ofHex? (digits : List UInt8) : Option Nat :=
  digits.foldl (fun n b => return (← n) * 16 + (← hexDigit? b)) (some 0)

/-- The octet that an escape letter stands for. -/
def escaped? (b : UInt8) : Option UInt8 :=
  match Char.ofNat b.toNat with
  | '"' => some 0x22
  | '\\' => some 0x5C
  | '/' => some 0x2F
  | 'b' => some 0x08
  | 'f' => some 0x0C
  | 'n' => some 0x0A
  | 'r' => some 0x0D
  | 't' => some 0x09
  | _ => none

/-- A quoted string from its pieces, last first. -/
def ofPieces (pieces : List Piece) (stop : QuoteEnd) : Token :=
  .string ⟨pieces.reverse, stop⟩

namespace Scan

/-- Adds a token that is whole. -/
def emit (ts : List Token) (t : Token) : Scan := ⟨t :: ts, .between⟩

/-- Adds a broken token. -/
def stop (ts : List Token) (t : Token) : Scan := ⟨t :: ts, .stopped⟩

/-- Takes the first octet of a token, or a blank. -/
def first (ts : List Token) (b : UInt8) : Scan :=
  match Char.ofNat b.toNat with
  | ' ' | '\n' | '\t' | '\r' => ⟨ts, .between⟩
  | ',' => emit ts .comma
  | ':' => emit ts .colon
  | '[' => emit ts .openArray
  | ']' => emit ts .closeArray
  | '\x7b' => emit ts .openObject
  | '\x7d' => emit ts .closeObject
  | '"' => ⟨ts, .quoted []⟩
  | '-' => ⟨ts, .numeral .minus⟩
  | 'n' => ⟨ts, .word ['u', 'l', 'l'] .null⟩
  | 't' => ⟨ts, .word ['r', 'u', 'e'] (.bool true)⟩
  | 'f' => ⟨ts, .word ['a', 'l', 's', 'e'] (.bool false)⟩
  | _ =>
    match NumeralDraft.digit? b with
    | some d => ⟨ts, .numeral (.first false d)⟩
    | none => stop ts .junk

/-- Takes one octet. -/
def step (s : Scan) (b : UInt8) : Scan :=
  let ts := s.tokens
  match s.mode with
  | .stopped => s
  | .between => first ts b
  | .word [] t => first (t :: ts) b
  | .word (c :: rest) t =>
    if Char.ofNat b.toNat ≠ c then stop ts (.cutWord false)
    else if rest.isEmpty then emit ts t
    else ⟨ts, .word rest t⟩
  | .numeral d =>
    match d.step b with
    | .more d => ⟨ts, .numeral d⟩
    | .complete => first (.number d.finish :: ts) b
    | .broken => stop ts (.cutNumeral false)
  | .quoted ps =>
    if b = 0x22 then emit ts (ofPieces ps .closed)
    else if b = 0x5C then ⟨ts, .escape ps⟩
    else if b < 0x20 then stop ts (ofPieces ps .control)
    else ⟨ts, .quoted (.octet b :: ps)⟩
  | .escape ps =>
    if b = 0x75 then ⟨ts, .hex ps []⟩
    else
      match escaped? b with
      | some o => ⟨ts, .quoted (.octet o :: ps)⟩
      | none => stop ts (ofPieces ps .badLetter)
  | .hex ps seen =>
    if seen.length < 3 then ⟨ts, .hex ps (b :: seen)⟩
    else
      match ofHex? (b :: seen).reverse with
      | some u => ⟨ts, .quoted (.unit u :: ps)⟩
      | none => stop ts (ofPieces ps .badHex)

/-- The tokens of a finished pass, in order. -/
def finish (s : Scan) : List Token :=
  let ts := s.tokens
  match s.mode with
  | .between | .stopped => ts.reverse
  | .word [] t => (t :: ts).reverse
  | .word (_ :: _) _ => (.cutWord true :: ts).reverse
  | .numeral d => ((if d.isComplete then .number d.finish else .cutNumeral true) :: ts).reverse
  | .quoted ps | .escape ps | .hex ps _ => (ofPieces ps .ended :: ts).reverse

/-- A pass over some octets. -/
def run (s : Scan) (bytes : List UInt8) : Scan :=
  bytes.foldl step s

theorem run_append (s : Scan) (a b : List UInt8) : s.run (a ++ b) = (s.run a).run b := by
  simp [run]

end Scan

end Token

/-- The tokens of a document, up to and including the first broken one. -/
def tokens (bytes : List UInt8) : List Token :=
  ((⟨[], .between⟩ : Token.Scan).run bytes).finish

end ChatRace.Json
