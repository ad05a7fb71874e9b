/-!
# UTF-8 octets

`decode` reads octets as a text and, where they are none, says where and how they fail: at the first
sequence that no character starts with, which ends before the first octet that rules it out. `decodeLossy`
puts one replacement character for each such sequence.
-/

namespace ChatRace.Text

/-- Why octets are not UTF-8: the octets in front of `index` are, and a sequence of `length` octets from
there cannot be continued to a character; `length = none` if the octets end within a character. -/
structure Utf8Fault where
  index : Nat
  length : Option Nat
  deriving DecidableEq, Repr

/-- The description of a fault. -/
def Utf8Fault.message (f : Utf8Fault) : String :=
  match f.length with
  | some n => s!"invalid utf-8 sequence of {n} bytes from index {f.index}"
  | none => s!"incomplete utf-8 byte sequence from index {f.index}"

namespace Utf8

/-- What stands at a place among the octets: a character, or a sequence of `n` octets that is none, which is
`cut` when the octets end within it. -/
inductive Piece where
  | char (c : Char)
  | bad (n : Nat) (cut : Bool)
  deriving DecidableEq, Repr

/-- The number of octets of a piece. -/
def Piece.size : Piece → Nat
  | .char c => c.utf8Size
  | .bad n _ => n

/-- A place within a character: `owed` octets are to come, the next one from `low` to `high`; `seen` octets
have given the bits `code`. -/
structure Partial where
  owed : Nat
  low : UInt8
  high : UInt8
  seen : Nat
  code : Nat

/-- The pieces so far, last first, and the character that has begun. -/
structure Scan where
  pieces : List Piece
  open? : Option Partial

/-- Takes the first octet of a character. -/
def Scan.first (ps : List Piece) (b : UInt8) : Scan :=
  let n := b.toNat
  if b < 0x80 then ⟨.char (Char.ofNat n) :: ps, none⟩
  else if b < 0xC2 then ⟨.bad 1 false :: ps, none⟩
  else if b < 0xE0 then ⟨ps, some ⟨1, 0x80, 0xBF, 1, n % 32⟩⟩
  else if b < 0xF0 then
    ⟨ps, some ⟨2, if b = 0xE0 then 0xA0 else 0x80, if b = 0xED then 0x9F else 0xBF, 1, n % 16⟩⟩
  else if b < 0xF5 then
    ⟨ps, some ⟨3, if b = 0xF0 then 0x90 else 0x80, if b = 0xF4 then 0x8F else 0xBF, 1, n % 8⟩⟩
  else ⟨.bad 1 false :: ps, none⟩

/-- Takes one octet. -/
def Scan.step (s : Scan) (b : UInt8) : Scan :=
  match s.open? with
  | none => Scan.first s.pieces b
  | some p =>
    if p.low ≤ b && b ≤ p.high then
      let code := p.code * 64 + b.toNat % 64
      if p.owed = 1 then ⟨.char (Char.ofNat code) :: s.pieces, none⟩
      else ⟨s.pieces, some ⟨p.owed - 1, 0x80, 0xBF, p.seen + 1, code⟩⟩
    else Scan.first (.bad p.seen false :: s.pieces) b

/-- The pieces of a finished scan, in order. -/
def Scan.finish (s : Scan) : List Piece :=
  match s.open? with
  | none => s.pieces.reverse
  | some p => (.bad p.seen true :: s.pieces).reverse

/-- The pieces of a list of octets. -/
def pieces (bytes : List UInt8) : List Piece :=
  (bytes.foldl Scan.step ⟨[], none⟩).finish

/-- The first sequence that is no character, `index` octets having been passed. -/
def firstFault? (index : Nat) : List Piece → Option Utf8Fault
  | [] => none
  | .bad n cut :: _ => some ⟨index, if cut then none else some n⟩
  | .char c :: rest => firstFault? (index + c.utf8Size) rest

/-- Where octets that are not UTF-8 fail. -/
def fault (bytes : List UInt8) : Utf8Fault :=
  (firstFault? 0 (pieces bytes)).getD ⟨0, none⟩

end Utf8

/-- The text that octets encode. -/
def ofUtf8? (bytes : List UInt8) : Option String :=
  String.fromUTF8? bytes.toByteArray

/-- The octets of a text. -/
def toUtf8 (s : String) : List UInt8 :=
  s.toByteArray.data.toList

/-- The text that octets encode, or the first place where they encode none. -/
def decode (bytes : List UInt8) : Except Utf8Fault String :=
  match ofUtf8? bytes with
  | some s => .ok s
  | none => .error (Utf8.fault bytes)

/-- The text that octets encode, with U+FFFD for each sequence that is no character. -/
def decodeLossy (bytes : List UInt8) : String :=
  match ofUtf8? bytes with
  | some s => s
  | none => String.ofList ((Utf8.pieces bytes).map fun
      | .char c => c
      | .bad _ _ => '\uFFFD')

@[simp] theorem ofUtf8?_toUtf8 (s : String) : ofUtf8? (toUtf8 s) = some s := by
  have h : (toUtf8 s).toByteArray = s.toByteArray := ByteArray.ext (by simp [toUtf8])
  simp [ofUtf8?, h, String.fromUTF8?, String.fromUTF8, s.isValidUTF8]

@[simp] theorem decode_toUtf8 (s : String) : decode (toUtf8 s) = .ok s := by
  simp [decode]

end ChatRace.Text
