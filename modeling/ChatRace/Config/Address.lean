import ChatRace.Instances

/-!
# Socket addresses

Addresses of IP version 4 and 6 with a port: reading them, and writing them in the shortest form. A version
6 address may leave out one run of zero groups and may end in a version 4 address; when it is written, the
longest run of at least two zero groups is left out, the first one of several.
-/

namespace ChatRace

/-- An address with a port. -/
inductive SocketAddress where
  | v4 (octets : List Nat) (port : Nat)
  /-- Eight groups of 16 bits, and the number of the zone that they belong to. -/
  | v6 (groups : List Nat) (zone port : Nat)
  deriving DecidableEq, Repr

namespace SocketAddress

/-! ### Reading

A reader gives what it has read and the rest of the text. -/

/-- The number that a digit of a base stands for. -/
def digit? (base : Nat) (c : Char) : Option Nat :=
  let d :=
    if '0' ≤ c && c ≤ '9' then c.toNat - '0'.toNat
    else if 'a' ≤ c && c ≤ 'z' then c.toNat - 'a'.toNat + 10
    else if 'A' ≤ c && c ≤ 'Z' then c.toNat - 'A'.toNat + 10
    else base
  if d < base then some d else none

/-- The number that digits write, the first digit being the highest. -/
def ofDigits (base : Nat) (cs : List Char) : Nat :=
  cs.foldl (fun n c => n * base + (digit? base c).getD 0) 0

/-- Reads a number below `bound`, with at most `places` digits if that is limited; zeros in front are
allowed or not. -/
def number (base bound : Nat) (places : Option Nat) (zeros : Bool) (cs : List Char) :
    Option (Nat × List Char) :=
  let ds := cs.takeWhile fun c => (digit? base c).isSome
  let n := ofDigits base ds
  let tooLong := places.elim false (· < ds.length)
  let badZero := !zeros && 1 < ds.length && ds.head? = some '0'
  if ds.isEmpty || tooLong || badZero || bound ≤ n then none else some (n, cs.drop ds.length)

/-- Reads a given character. -/
def char (c : Char) : List Char → Option (Unit × List Char)
  | d :: cs => if d = c then some ((), cs) else none
  | [] => none

/-- Reads an octet of a version 4 address. -/
def octet (cs : List Char) : Option (Nat × List Char) := number 10 256 (some 3) false cs

/-- Reads a version 4 address. -/
def ipv4 (cs : List Char) : Option (List Nat × List Char) := do
  let (a, cs) ← octet cs
  let ((), cs) ← char '.' cs
  let (b, cs) ← octet cs
  let ((), cs) ← char '.' cs
  let (c, cs) ← octet cs
  let ((), cs) ← char '.' cs
  let (d, cs) ← octet cs
  return ([a, b, c, d], cs)

/-- The two groups that a version 4 address makes. -/
def groupsOfOctets : List Nat → List Nat
  | [a, b, c, d] => [a * 256 + b, c * 256 + d]
  | _ => []

/-- Reads the separator in front of a group, which the first group does not have. -/
def separator (isFirst : Bool) (cs : List Char) : Option (Unit × List Char) :=
  if isFirst then some ((), cs) else char ':' cs

/-- Reads at most `room` groups, `isFirst` telling whether there is none before them; the groups, and
whether they end in a version 4 address. -/
def groups (isFirst : Bool) (cs : List Char) : Nat → (List Nat × Bool) × List Char
  | 0 => (([], false), cs)
  | room + 1 =>
    let embedded : Option (List Nat × List Char) :=
      if room = 0 then none else (separator isFirst cs).bind fun (_, cs) => ipv4 cs
    match embedded with
    | some (os, rest) => ((groupsOfOctets os, true), rest)
    | none =>
      match (separator isFirst cs).bind fun (_, cs) => number 16 (2 ^ 16) (some 4) true cs with
      | none => (([], false), cs)
      | some (g, rest) =>
        let ((gs, isEmbedded), rest) := groups false rest room
        ((g :: gs, isEmbedded), rest)

/-- Reads a version 6 address. -/
def ipv6 (cs : List Char) : Option (List Nat × List Char) :=
  let ((head, isEmbedded), cs) := groups true cs 8
  if head.length = 8 then some (head, cs)
  else if isEmbedded then none
  else
    match cs with
    | ':' :: ':' :: cs =>
      let ((tail, _), cs) := groups true cs (7 - head.length)
      some (head ++ List.replicate (8 - head.length - tail.length) 0 ++ tail, cs)
    | _ => none

/-- Reads a port with the colon in front of it. -/
def port (cs : List Char) : Option (Nat × List Char) := do
  let ((), cs) ← char ':' cs
  number 10 (2 ^ 16) none true cs

/-- Reads the number of a zone with the sign in front of it; there need not be one. -/
def zone (cs : List Char) : Nat × List Char :=
  ((char '%' cs).bind fun (_, cs) => number 10 (2 ^ 32) none true cs).getD (0, cs)

/-- Reads an address of version 4 with a port. -/
def socket4 (cs : List Char) : Option (SocketAddress × List Char) := do
  let (os, cs) ← ipv4 cs
  let (p, cs) ← port cs
  return (.v4 os p, cs)

/-- Reads an address of version 6 in brackets with a port. -/
def socket6 (cs : List Char) : Option (SocketAddress × List Char) := do
  let ((), cs) ← char '[' cs
  let (gs, cs) ← ipv6 cs
  let (z, cs) := zone cs
  let ((), cs) ← char ']' cs
  let (p, cs) ← port cs
  return (.v6 gs z p, cs)

/-- The address that a text writes. -/
def ofText? (s : String) : Option SocketAddress :=
  match socket4 s.toList <|> socket6 s.toList with
  | some (a, []) => some a
  | _ => none

/-! ### Writing -/

/-- A version 4 address. -/
def octetsText (os : List Nat) : String :=
  ".".intercalate (os.map toString)

/-- A group in hexadecimal digits. -/
def groupText (g : Nat) : String :=
  String.ofList (Nat.toDigits 16 g)

/-- The length of the run of zeros in front. -/
def zeroRun (gs : List Nat) : Nat :=
  (gs.takeWhile (· == 0)).length

/-- The position and the length of the longest run of zeros, of the first one of several. -/
def longestRun : List Nat → Nat × Nat
  | [] => (0, 0)
  | g :: gs =>
    let here := zeroRun (g :: gs)
    let (i, n) := longestRun gs
    if n ≤ here then (0, here) else (i + 1, n)

/-- Groups with colons between them. -/
def groupsText (gs : List Nat) : String :=
  ":".intercalate (gs.map groupText)

/-- A version 6 address with its longest run of zeros left out. -/
def compressed (gs : List Nat) : String :=
  let (i, n) := longestRun gs
  if 1 < n then groupsText (gs.take i) ++ "::" ++ groupsText (gs.drop (i + n)) else groupsText gs

/-- A version 6 address; one that stands for a version 4 address shows it. -/
def ipv6Text (gs : List Nat) : String :=
  match gs with
  | [0, 0, 0, 0, 0, 0xFFFF, a, b] => "::ffff:" ++ octetsText [a / 256, a % 256, b / 256, b % 256]
  | gs => compressed gs

/-- An address with its port. -/
def text : SocketAddress → String
  | v4 os p => octetsText os ++ ":" ++ toString p
  | v6 gs z p => "[" ++ ipv6Text gs ++ (if z = 0 then "" else "%" ++ toString z) ++ "]:" ++ toString p

example : (ofText? "[1:0:0:2:0:0:0:3%7]:080").map (·.text) = some "[1:0:0:2::3%7]:80" := by decide +kernel
example : (ofText? "01.2.3.4:5").map (·.text) = none := by decide +kernel

end SocketAddress

end ChatRace
