import ChatRace.Decimal.Shortest

/-!
# Families of series

A family has a series for each combination of label values that has occurred. Two combinations are the same
series when their values, written one after the other, are the same text; the combination that occurred
first names it. The text format lists the series of a family by their labels.
-/

namespace ChatRace.Metrics

/-- A series and the values of its labels. -/
structure Series (α : Type) where
  values : List String
  sample : α
  deriving Repr

/-- A family of series. -/
structure Family (α : Type) where
  name : String
  help : String
  labels : List String
  series : List (Series α)
  deriving Repr

namespace Family

/-- A family without series. -/
def empty (name help : String) (labels : List String) : Family α := ⟨name, help, labels, []⟩

/-- Whether two combinations of label values are one series. -/
def sameSeries (a b : List String) : Bool :=
  String.join a == String.join b

/-- Changes the sample of a series, which is `zero` if the series is new. -/
def updateIn (zero : α) (f : α → α) (values : List String) : List (Series α) → List (Series α)
  | [] => [⟨values, f zero⟩]
  | s :: rest =>
    if sameSeries s.values values then { s with sample := f s.sample } :: rest
    else s :: updateIn zero f values rest

/-- Changes the sample of a series. -/
def update (zero : α) (f : α → α) (values : List String) (fam : Family α) : Family α :=
  { fam with series := updateIn zero f values fam.series }

end Family

/-! ### Histograms -/

/-- The distribution of some values: for each bound the number of values up to it and above the bound
before. -/
structure Histogram where
  counts : List (Float × Nat)
  sum : Float
  count : Nat

namespace Histogram

/-- No values. -/
def empty (bounds : List Float) : Histogram := ⟨bounds.map (·, 0), 0, 0⟩

/-- Counts a value under the first bound that it does not exceed. -/
def countUnder (x : Float) : List (Float × Nat) → List (Float × Nat)
  | [] => []
  | (bound, n) :: rest => if x ≤ bound then (bound, n + 1) :: rest else (bound, n) :: countUnder x rest

/-- Adds a value. -/
def observe (x : Float) (h : Histogram) : Histogram :=
  ⟨countUnder x h.counts, h.sum + x, h.count + 1⟩

/-- For each bound the number of values up to it, `below` being that of the bound before. -/
def cumulative (below : Nat) : List (Float × Nat) → List (Float × Nat)
  | [] => []
  | (bound, n) :: rest => (bound, below + n) :: cumulative (below + n) rest

end Histogram

/-! ### The text format -/

namespace Format

/-- A number: no exponent, and no point in a whole one. -/
def number (x : Float) : String :=
  (Decimal.ofFloat .up x).positional ""

/-- A character of a label value. -/
def escape (c : Char) : String :=
  match c with
  | '\\' => "\\\\"
  | '\n' => "\\n"
  | '"' => "\\\""
  | c => c.toString

/-- A label with its value. -/
def label (name value : String) : String :=
  name ++ "=\"" ++ String.join (value.toList.map escape) ++ "\""

/-- One line: a name, its labels and a number. -/
def sample (name : String) (labels : List (String × String)) (value : String) : String :=
  let inner := ",".intercalate (labels.map fun (n, v) => label n v)
  name ++ (if labels.isEmpty then "" else "\x7b" ++ inner ++ "\x7d") ++ " " ++ value ++ "\n"

/-- The lines in front of the samples of a family. -/
def header (name help kind : String) : String :=
  "# HELP " ++ name ++ " " ++ help ++ "\n# TYPE " ++ name ++ " " ++ kind ++ "\n"

/-- The lexicographic order. -/
def before : List String → List String → Bool
  | [], _ => true
  | _ :: _, [] => false
  | a :: as, b :: bs => if a = b then before as bs else a < b

/-- The labels of a series by their names. -/
def labelled (labels : List String) (s : Series α) : List (String × String) :=
  (labels.zip s.values).mergeSort (fun a b => a.1 ≤ b.1)

/-- The series of a family by their labels, and each with them. -/
def ordered (fam : Family α) : List (List (String × String) × α) :=
  (fam.series.map fun s => (labelled fam.labels s, s.sample)).mergeSort
    (fun a b => before (a.1.map (·.2)) (b.1.map (·.2)))

/-- A family, if it has any series. -/
def family (kind : String) (samples : String → List (String × String) → α → String) (fam : Family α) :
    String :=
  if fam.series.isEmpty then ""
  else
    header fam.name fam.help kind ++
      String.join ((ordered fam).map fun (labels, a) => samples fam.name labels a)

/-- A family of counters. -/
def counters (fam : Family Nat) : String :=
  family "counter" (fun name labels n => sample name labels (toString n)) fam

/-- The lines of one histogram. -/
def histogram (name : String) (labels : List (String × String)) (h : Histogram) : String :=
  let bucket (bound : String) (n : Nat) : String :=
    sample (name ++ "_bucket") (labels ++ [("le", bound)]) (toString n)
  String.join ((Histogram.cumulative 0 h.counts).map fun (bound, n) => bucket (number bound) n) ++
    bucket "+Inf" h.count ++ sample (name ++ "_sum") labels (number h.sum) ++
    sample (name ++ "_count") labels (toString h.count)

/-- A family of histograms. -/
def histograms (fam : Family Histogram) : String :=
  family "histogram" histogram fam

/-- A single gauge. -/
def gauge (name help : String) (value : Nat) : String :=
  header name help "gauge" ++ sample name [] (toString value)

end Format

end ChatRace.Metrics
