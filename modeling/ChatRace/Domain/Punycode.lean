/-!
# Punycode

How a label with characters beyond ASCII is written in ASCII: the ASCII characters first, a hyphen behind
them if there are any, and then for each other character, in the order of the code points, how far one has
to go from the last insertion to this one if one counts through all code points and, for each of them, all
positions. These distances are numbers of base 36 with the lowest digit first, and a digit below a threshold
that depends on the last distances ends a number.
-/

namespace ChatRace.Domain.Punycode

/-! ### Numbers -/

/-- The threshold of a digit whose place is `k / 36`. -/
def threshold (bias k : Nat) : Nat := min 26 (max 1 (k - bias))

theorem threshold_pos (bias k : Nat) : 0 < threshold bias k := by
  simp only [threshold]; omega

/-- Reduces a distance by a factor of 35 until it is small, with the bias that it makes. -/
def settle (distance k : Nat) : Nat :=
  if 455 < distance then settle (distance / 35) (k + 36) else k + 36 * distance / (distance + 38)
termination_by distance

/-- The bias for the next distance, after one that made a text of `points` characters. -/
def adapt (distance points : Nat) (isFirst : Bool) : Nat :=
  let d := if isFirst then distance / 700 else distance / 2
  settle (d + d / points) 0

/-- The bias for the first distance. -/
def firstBias : Nat := 72

/-- A digit. -/
def digit (d : Nat) : Char :=
  if d < 26 then Char.ofNat ('a'.toNat + d) else Char.ofNat ('0'.toNat + (d - 26))

/-- The value of a digit. -/
def digit? (c : Char) : Option Nat :=
  if 'a' ≤ c && c ≤ 'z' then some (c.toNat - 'a'.toNat)
  else if '0' ≤ c && c ≤ '9' then some (c.toNat - '0'.toNat + 26)
  else none

/-- The digits of a number from the place `k / 36` on. -/
def digits (bias k n : Nat) : List Char :=
  let t := threshold bias k
  if n < t then [digit n] else digit (t + (n - t) % (36 - t)) :: digits bias (k + 36) ((n - t) / (36 - t))
termination_by n
decreasing_by
  have := threshold_pos bias k
  have := Nat.div_le_self (n - threshold bias k) (36 - threshold bias k)
  omega

/-! ### Writing -/

/-- A writer: the distance from the last insertion, the bias, how many characters there are already and how
many there were at first, and what has been written, last first. -/
structure Writer where
  distance : Nat
  bias : Nat
  points : Nat
  basic : Nat
  written : List Char

namespace Writer

/-- Passes over the position of a character while the code point `n` is being counted through. -/
def pass (n : Nat) (w : Writer) (c : Char) : Writer :=
  if c.toNat < n then { w with distance := w.distance + 1 }
  else if c.toNat = n then
    { w with
      distance := 0
      bias := adapt w.distance (w.points + 1) (w.points = w.basic)
      points := w.points + 1
      written := (digits w.bias 36 w.distance).reverse ++ w.written }
  else w

/-- Writes the insertions of some code points in order, having counted up to `n`. -/
def insert (cs : List Char) (w : Writer) (n : Nat) : List Nat → Writer
  | [] => w
  | m :: rest =>
    let w := cs.foldl (pass m) { w with distance := w.distance + (m - n) * (w.points + 1) }
    insert cs { w with distance := w.distance + 1 } (m + 1) rest

end Writer

/-- A text in ASCII. -/
def encode (cs : List Char) : List Char :=
  let basic := cs.filter (·.toNat < 0x80)
  let others := ((cs.map (·.toNat)).filter (0x80 ≤ ·)).mergeSort.eraseDups
  let w := Writer.insert cs ⟨0, firstBias, basic.length, basic.length, []⟩ 0x80 others
  basic ++ (if basic.isEmpty then [] else ['-']) ++ w.written.reverse

/-! ### Reading -/

/-- A reader: the text so far, the code point and the position of the last insertion, the bias, and of the
number that has been begun the value, the place of the next digit and its weight. -/
structure Reader where
  text : List Char
  code : Nat
  position : Nat
  bias : Nat
  value : Nat
  k : Nat
  weight : Nat

namespace Reader

/-- Inserts the character at a distance from the last insertion. -/
def insert? (r : Reader) (distance : Nat) : Option Reader :=
  let points := r.text.length + 1
  let i := r.position + distance
  let code := r.code + i / points
  let position := i % points
  if code.isValidChar then
    some {
      text := r.text.take position ++ Char.ofNat code :: r.text.drop position
      code
      position := position + 1
      bias := adapt distance points (r.code = 0x80 && r.position = 0)
      value := 0
      k := 36
      weight := 1 }
  else none

/-- Takes a digit. -/
def step (r : Reader) (c : Char) : Option Reader := do
  let d ← digit? c
  let t := threshold r.bias r.k
  let value := r.value + d * r.weight
  if d < t then r.insert? value else some { r with value, k := r.k + 36, weight := r.weight * (36 - t) }

end Reader

/-- The text that is written in small letters, digits and hyphens. -/
def decode? (cs : List Char) : Option (List Char) := do
  let back := cs.reverse
  let (basic, rest) := match back.dropWhile (· != '-') with
    | _ :: front => if front.isEmpty then ([], cs) else (front.reverse, (back.takeWhile (· != '-')).reverse)
    | [] => ([], cs)
  let r ← rest.foldlM Reader.step ⟨basic, 0x80, 0, firstBias, 0, 36, 1⟩
  if r.k = 36 then some r.text else none

example : String.ofList (encode "b\u00FCcher".toList) = "bcher-kva" := by decide +kernel
example : (decode? "bcher-kva".toList).map String.ofList = some "b\u00FCcher" := by decide +kernel

end ChatRace.Domain.Punycode
