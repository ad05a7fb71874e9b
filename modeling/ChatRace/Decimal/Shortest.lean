import ChatRace.Instances

/-!
# The shortest decimal of a binary number

A finite double is `m * 2 ^ q`, and the reals that round to it form an interval. `Decimal.ofFloat` takes the
decimal with the fewest digits in that interval, and of those the nearest to the number; which of two that
are equally near is up to whoever asks. All arithmetic is on natural numbers: the coarsest grid `10 ^ p` that
has a point in the interval has one next to the number, below or above.
-/

namespace ChatRace

/-- The number `digits * 10 ^ exponent`, with its sign. -/
structure Decimal where
  negative : Bool
  digits : Nat
  exponent : Int
  deriving DecidableEq, Repr

namespace Decimal

/-- Which of two decimals is taken that are equally near to a number. -/
inductive Tie where
  /-- The one with an even last digit. -/
  | even
  /-- The one farther from zero. -/
  | up
  deriving DecidableEq, Repr

/-- A finite double without its sign: `m * 2 ^ q`, where `narrow` says that its lower neighbour is only half
as far away as its upper one. -/
structure Magnitude where
  m : Nat
  q : Int
  narrow : Bool

/-- The magnitude that the bits of a finite double stand for. -/
def Magnitude.ofBits (bits : Nat) : Magnitude :=
  let fraction : Nat := bits % 2 ^ 52
  let biased : Nat := bits / 2 ^ 52 % 2 ^ 11
  if biased = 0 then ⟨fraction, -1074, false⟩
  else ⟨fraction + 2 ^ 52, (biased : Int) - 1075, fraction = 0 && 1 < biased⟩

/-- The quotient `num * 10 ^ (-p) / den` as a pair, for either sign of `p`. -/
def scaled (num den : Nat) (p : Int) : Nat × Nat :=
  if p < 0 then (num * 10 ^ p.natAbs, den) else (num, den * 10 ^ p.natAbs)

/-- Whether `c * 10 ^ p` lies in the interval of reals that round to the magnitude; its ends belong to it
when `m` is even. -/
def Magnitude.admits (x : Magnitude) (c : Nat) (p : Int) : Bool :=
  -- everything in units of a quarter of the last binary place
  let low := 4 * x.m - (if x.narrow then 1 else 2)
  let high := 4 * x.m + 2
  let (a, b) := if p < 0 then (c, 10 ^ p.natAbs) else (c * 10 ^ p.natAbs, 1)
  let k := x.q - 2
  let (a, b) := if k < 0 then (a * 2 ^ k.natAbs, b) else (a, b * 2 ^ k.natAbs)
  if x.m % 2 = 0 then low * b ≤ a && a ≤ high * b else low * b < a && a < high * b

/-- Whether the lower of two neighbouring points is taken; `rest`, its distance from the number, is to be
compared with half of `den`. -/
def Tie.takesBelow (tie : Tie) (below rest den : Nat) : Bool :=
  if 2 * rest = den then tie = .even && below % 2 = 0 else 2 * rest < den

/-- The point of the grid `10 ^ p` in the interval that is nearest to the magnitude, if there is one. -/
def Magnitude.nearest? (x : Magnitude) (tie : Tie) (p : Int) : Option Nat :=
  let (num, den) := if x.q < 0 then (x.m, 2 ^ x.q.natAbs) else (x.m * 2 ^ x.q.natAbs, 1)
  let (num, den) := scaled num den p
  let below := num / den
  let above := below + 1
  match x.admits below p && 0 < below, x.admits above p with
  | true, true => some (if tie.takesBelow below (num - below * den) den then below else above)
  | true, false => some below
  | false, true => some above
  | false, false => none

/-- The number of decimal digits of a natural number. -/
def digitCount (n : Nat) : Nat :=
  (Nat.toDigits 10 n).length

/-- The exponent of the leading decimal digit of `num / den`. -/
def leading (num den : Nat) : Int :=
  let e : Int := (digitCount num : Int) - digitCount den
  let (a, b) := scaled num den e
  if b ≤ a then e else e - 1

/-- Tries the grids from `p` downwards, `fuel` of them. -/
def Magnitude.search (x : Magnitude) (tie : Tie) (p : Int) : Nat → Nat × Int
  | 0 => (x.m, x.q)
  | fuel + 1 =>
    match x.nearest? tie p with
    | some c => (c, p)
    | none => x.search tie (p - 1) fuel

/-- Moves zeros at the end of the digits into the exponent. -/
def strip : Nat → Nat → Int → Nat × Int
  | 0, c, p => (c, p)
  | fuel + 1, c, p => if c % 10 = 0 && c != 0 then strip fuel (c / 10) (p + 1) else (c, p)

/-- The decimal with the fewest digits that reads back as the finite double `x`. -/
def ofFloat (tie : Tie) (x : Float) : Decimal :=
  let bits := x.toBits.toNat
  let mag := Magnitude.ofBits bits
  let negative := 2 ^ 63 ≤ bits
  if mag.m = 0 then ⟨negative, 0, 0⟩
  else
    let (num, den) := if mag.q < 0 then (mag.m, 2 ^ mag.q.natAbs) else (mag.m * 2 ^ mag.q.natAbs, 1)
    let (c, p) := mag.search tie (leading num den) 18
    let (c, p) := strip 20 c p
    ⟨negative, c, p⟩

/-! ### Writing -/

/-- The digits of a number that is not negative. -/
def numeral (n : Nat) : String :=
  String.ofList (Nat.toDigits 10 n)

/-- A run of zeros. -/
def zeros (n : Nat) : String :=
  String.ofList (List.replicate n '0')

/-- The digits around the decimal point, without exponent: `whole` ends a number that has no fractional
digits. -/
def positional (whole : String) (d : Decimal) : String :=
  let ds := numeral d.digits
  let body :=
    if 0 ≤ d.exponent then ds ++ zeros d.exponent.toNat ++ whole
    else
      let places := d.exponent.natAbs
      let padded := zeros (places + 1 - ds.length) ++ ds
      let cut := padded.length - places
      String.ofList (padded.toList.take cut) ++ "." ++ String.ofList (padded.toList.drop cut)
  (if d.negative then "-" else "") ++ body

/-- One digit, the point and the other digits, and the exponent with its sign. -/
def scientific (d : Decimal) : String :=
  let ds := (numeral d.digits).toList
  let e := d.exponent + (ds.length : Int) - 1
  let mantissa := match ds with
    | [] => "0"
    | [c] => c.toString
    | c :: rest => c.toString ++ "." ++ String.ofList rest
  (if d.negative then "-" else "") ++ mantissa ++ "e" ++ (if e < 0 then "-" else "+") ++ numeral e.natAbs

/-- The exponent of the leading digit in scientific notation. -/
def order (d : Decimal) : Int :=
  d.exponent + (digitCount d.digits : Int) - 1

/-- Positional from `10 ^ (-5)` up to but not including `10 ^ 16`, a whole number ending in `.0`; scientific
elsewhere. -/
def plain (d : Decimal) : String :=
  if d.digits = 0 || (-5 ≤ d.order && d.order < 16) then d.positional ".0" else d.scientific

example : (ofFloat .even 0.1).plain = "0.1" := by decide +kernel
example : (ofFloat .even 100).plain = "100.0" := by decide +kernel
example : (ofFloat .even (-0.0)).plain = "-0.0" := by decide +kernel
example : (ofFloat .even 1e16).plain = "1e+16" := by decide +kernel
example : (ofFloat .even 0.00001).plain = "0.00001" := by decide +kernel
example : (ofFloat .even 5e-324).plain = "5e-324" := by decide +kernel
example : (ofFloat .even 0.005).positional "" = "0.005" := by decide +kernel
example : (ofFloat .even 2).positional "" = "2" := by decide +kernel
example : (ofFloat .even 1125899906842624.25).plain = "1125899906842624.2" := by decide +kernel
example : (ofFloat .up 1125899906842624.25).plain = "1125899906842624.3" := by decide +kernel

end Decimal

end ChatRace
