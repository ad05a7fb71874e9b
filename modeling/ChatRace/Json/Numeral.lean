import ChatRace.Json.Fault
import ChatRace.Decimal.Shortest

/-!
# Numerals

A number as it stands in a document, and what it stands for: an integer where it is written as one and fits
into 64 bits, a double otherwise. The double is not always the nearest one: as many digits as fit into 64
bits are read as an integer, which is then multiplied or divided by a power of ten, each step being rounded.
-/

namespace ChatRace.Json

/-- The exponent of a numeral. -/
structure Exponent where
  negative : Bool
  digits : List Nat
  deriving DecidableEq, Repr

/-- A number as it stands in a document: the digits before the point, those after it, and the exponent. -/
structure Numeral where
  negative : Bool
  whole : List Nat
  fraction : Option (List Nat)
  exponent : Option Exponent
  deriving DecidableEq, Repr

/-- The value of a numeral. -/
inductive Number where
  | natural (n : Nat)
  /-- The integer `-n`. -/
  | negative (n : Nat)
  | double (x : Float)

namespace Numeral

/-- The largest integer that the digits are collected in. -/
def maxSignificand : Nat := 2 ^ 64 - 1

/-- Takes digits as long as the number stays within 64 bits; the number and the digits left. -/
def collect (n : Nat) : List Nat → Nat × List Nat
  | [] => (n, [])
  | d :: ds => if n * 10 + d ≤ maxSignificand then collect (n * 10 + d) ds else (n, d :: ds)

/-- The largest exponent that is read as a number. -/
def maxExponent : Nat := 2 ^ 31 - 1

/-- The number that the digits of an exponent write; beyond the largest exponent, some greater number. -/
def exponentSize (ds : List Nat) : Nat :=
  ds.foldl (fun n d => if maxExponent < n then n else n * 10 + d) 0

/-- A power of ten. -/
def power (n : Nat) : Float :=
  Float.ofScientific 1 false n

/-- `x * 10 ^ e`: in one step up to `10 ^ 308`, and downwards in steps of `10 ^ 308`, of which the second
leaves nothing. -/
def scale (x : Float) (e : Int) : Nat → Except Cause Float
  | 0 => .ok x
  | steps + 1 =>
    if e.natAbs ≤ 308 then
      if 0 ≤ e then
        let y := x * power e.natAbs
        if y.isInf then .error .numberOutOfRange else .ok y
      else .ok (x / power e.natAbs)
    else if x == 0 then .ok x
    else if 0 ≤ e then .error .numberOutOfRange
    else scale (x / power 308) (e + 308) steps

/-- A double with a sign. -/
def signed (negative : Bool) (x : Float) : Float :=
  if negative then -x else x

/-- The double `significand * 10 ^ shift`, times the power of ten that the exponent of the numeral names. -/
def double (n : Numeral) (significand : Nat) (shift : Int) : Except Cause Float :=
  let x := significand.toUInt64.toFloat
  match n.exponent with
  | none => (scale x shift 4).map (signed n.negative)
  | some e =>
    let size := exponentSize e.digits
    if maxExponent < size then
      if significand ≠ 0 && !e.negative then .error .numberOutOfRange else .ok (signed n.negative 0)
    else (scale x (if e.negative then shift - size else shift + size) 4).map (signed n.negative)

/-- What a numeral stands for. -/
def value (n : Numeral) : Except Cause Number :=
  let (whole, dropped) := collect 0 n.whole
  match n.fraction with
  | some ds =>
    let (significand, ignored) := collect whole ds
    (n.double significand ((dropped.length : Int) - (ds.length - ignored.length : Nat))).map .double
  | none =>
    if n.exponent.isSome || !dropped.isEmpty then (n.double whole dropped.length).map .double
    else if !n.negative then .ok (.natural whole)
    else if 0 < whole && whole ≤ 2 ^ 63 then .ok (.negative whole)
    else .ok (.double (signed true whole.toUInt64.toFloat))

end Numeral

/-- The description of a number that stands where something else was wanted. -/
def Number.found : Number → String
  | .natural n => "integer `" ++ toString n ++ "`"
  | .negative n => "integer `-" ++ toString n ++ "`"
  | .double x => "floating point `" ++ (Decimal.ofFloat .even x).plain ++ "`"

end ChatRace.Json
