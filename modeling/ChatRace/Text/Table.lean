/-!
# Tables of code points

Large tables of code points are written as texts, in words with hexadecimal digits: `C0-D6` for a range,
`C0-D6>E0` for one whose code points stand for those from `E0` on, `139-13D/2>13A` for every second code
point of one, `A8>20.308` for a single one that stands for several. `spans` reads such a table, `covers` and
`image?` look code points up in it.
-/

namespace ChatRace.Text

/-- Code points from `first` to `last` in steps. If the first of them stands for a single code point, each
other one stands for the one that is as far behind that. -/
structure Span where
  first : Nat
  last : Nat
  step : Nat
  image : List Nat
  deriving DecidableEq, Repr

namespace Span

/-- The number that capital hexadecimal digits write. -/
def number (cs : List Char) : Nat :=
  cs.foldl (fun n c => n * 16 + if c.isDigit then c.toNat - '0'.toNat else c.toNat - 'A'.toNat + 10) 0

/-- The text in front of a mark, and the text behind it if the mark is there. -/
def cut (mark : Char) (cs : List Char) : List Char × Option (List Char) :=
  match cs.dropWhile (· != mark) with
  | [] => (cs, none)
  | _ :: behind => (cs.takeWhile (· != mark), some behind)

/-- The numbers between points. -/
def numbers : List Char → List Nat :=
  go []
where
  /-- The same behind the beginning of a number, last first. -/
  go (seen : List Char) : List Char → List Nat
    | [] => if seen.isEmpty then [] else [number seen.reverse]
    | c :: cs => if c = '.' then number seen.reverse :: go [] cs else go (c :: seen) cs

/-- The span that a word writes. -/
def ofWord (w : List Char) : Span :=
  let (range, image) := cut '>' w
  let (range, step) := cut '/' range
  let (first, last) := cut '-' range
  let a := number first
  ⟨a, (last.map number).getD a, (step.map number).getD 1, (image.map numbers).getD []⟩

/-- Whether a code point belongs to a span. -/
def has (s : Span) (n : Nat) : Bool :=
  s.first ≤ n && n ≤ s.last && (n - s.first) % s.step = 0

/-- What a code point of a span stands for. -/
def imageOf (s : Span) (n : Nat) : List Nat :=
  match s.image with
  | [t] => [t + (n - s.first)]
  | ts => ts

end Span

/-- The words of a line, split at spaces, the one that has been begun standing last first. -/
def lineWords (seen : List Char) : List Char → List (List Char)
  | [] => if seen.isEmpty then [] else [seen.reverse]
  | c :: cs =>
    if c = ' ' then (if seen.isEmpty then id else (seen.reverse :: ·)) (lineWords [] cs)
    else lineWords (c :: seen) cs

/-- The spans of a table. -/
def spans (lines : List String) : List Span :=
  lines.flatMap fun l => (lineWords [] l.toList).map Span.ofWord

/-- Whether a code point belongs to a table. -/
def covers (t : List Span) (n : Nat) : Bool :=
  t.any (·.has n)

/-- What a code point stands for in a table. -/
def image? (t : List Span) (n : Nat) : Option (List Nat) :=
  (t.find? (·.has n)).map (·.imageOf n)

example : spans ["C0-D6>E0 139-13D/2>13A", "A8>20.308 AD>"] =
    [⟨0xC0, 0xD6, 1, [0xE0]⟩, ⟨0x139, 0x13D, 2, [0x13A]⟩, ⟨0xA8, 0xA8, 1, [0x20, 0x308]⟩,
      ⟨0xAD, 0xAD, 1, []⟩] := by
  decide +kernel

end ChatRace.Text
