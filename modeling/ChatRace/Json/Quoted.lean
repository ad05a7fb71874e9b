import ChatRace.Json.Fault
import ChatRace.Text.Utf8

/-!
# Quoted strings

A string as it stands between its quotes: octets, and the UTF-16 units that `\u` escapes name. `Quoted.text`
reads it as a text: two escapes for a surrogate pair make one character, and what then is not UTF-8 is
refused. Where several things are wrong the one that comes first counts, and the encoding is looked at last.
-/

namespace ChatRace.Json

/-- One element of a quoted string. -/
inductive Piece where
  | octet (b : UInt8)
  | unit (u : Nat)
  deriving DecidableEq, Repr

/-- How a quoted string ends. -/
inductive QuoteEnd where
  | closed
  /-- The document ends within the string. -/
  | ended
  /-- A control character stands in it. -/
  | control
  /-- A backslash is followed by a character that names no escape. -/
  | badLetter
  /-- The four characters after `\u` are not all hexadecimal digits. -/
  | badHex
  deriving DecidableEq, Repr

/-- A string as it stands in a document. -/
structure Quoted where
  pieces : List Piece
  stop : QuoteEnd
  deriving DecidableEq, Repr

/-- What is wrong with a string that ends in this way. -/
def QuoteEnd.cause? : QuoteEnd → Option Cause
  | .closed => none
  | .ended => some .endInString
  | .control => some .controlCharacter
  | .badLetter | .badHex => some .invalidEscape

/-- What is wrong when the string ends in this way right after a leading surrogate. -/
def QuoteEnd.causeAfterLead : QuoteEnd → Cause
  | .ended => .endInString
  | .badHex => .invalidEscape
  | .closed | .control | .badLetter => .endOfHexEscape

namespace Quoted

/-- Whether a unit is the first half of a surrogate pair. -/
def isLead (u : Nat) : Bool := 0xD800 ≤ u && u ≤ 0xDBFF

/-- Whether a unit is the second half of a surrogate pair. -/
def isTrail (u : Nat) : Bool := 0xDC00 ≤ u && u ≤ 0xDFFF

/-- The code point of a surrogate pair. -/
def pair (lead trail : Nat) : Nat :=
  (lead - 0xD800) * 1024 + (trail - 0xDC00) + 0x10000

/-- The octets of the character with a code point, last first. -/
def octetsBack (code : Nat) : List UInt8 :=
  (Text.toUtf8 (Char.ofNat code).toString).reverse

/-- The octets of a quoted string, `seen` being those in front of it, last first. -/
def octets (stop : QuoteEnd) (seen : List UInt8) : List Piece → Except Cause (List UInt8)
  | [] =>
    match stop.cause? with
    | some c => .error c
    | none => .ok seen.reverse
  | .octet b :: rest => octets stop (b :: seen) rest
  | .unit u :: rest =>
    if isTrail u then .error .unpairedSurrogate
    else if isLead u then
      match rest with
      | .unit v :: rest =>
        if isTrail v then octets stop (octetsBack (pair u v) ++ seen) rest else .error .unpairedSurrogate
      | .octet _ :: _ => .error .endOfHexEscape
      | [] => .error stop.causeAfterLead
    else octets stop (octetsBack u ++ seen) rest

/-- The text of a quoted string. -/
def text (q : Quoted) : Except Cause String :=
  match octets q.stop [] q.pieces with
  | .error c => .error c
  | .ok bytes =>
    match Text.ofUtf8? bytes with
    | some s => .ok s
    | none => .error .notUtf8

/-- What is wrong with a quoted string whose text is of no interest: only how it ends counts. -/
def skip (q : Quoted) : Except Cause Unit :=
  match q.stop.cause? with
  | some c => .error c
  | none => .ok ()

end Quoted

end ChatRace.Json
