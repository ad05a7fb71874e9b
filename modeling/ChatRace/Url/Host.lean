import ChatRace.Domain.Name
import ChatRace.Url.Escape

/-!
# Hosts

What a URL that is fetched over a network names as its host is a domain name or an IP address: one of
version 6 in brackets, or one of version 4 in any of its usual spellings, namely with up to four numbers of
base 8, 10 or 16, the last of which fills the octets that are left. The hosts of other URLs are kept as they
are, unless they stand in brackets.
-/

namespace ChatRace.Url

/-! ### Addresses -/

/-- The number that a part of an address writes: octal behind a zero, hexadecimal behind `0x`. -/
def addressPart? (cs : List Char) : Option Nat :=
  let read (base : Nat) (ds : List Char) : Option Nat :=
    if ds.all fun c => (SocketAddress.digit? base c).isSome then some (SocketAddress.ofDigits base ds)
    else none
  match cs with
  | '0' :: 'x' :: ds => read 16 ds
  | '0' :: d :: ds => read 8 (d :: ds)
  | [] => none
  | ds => read 10 ds

/-- The parts of a host, without an empty one at the end. -/
def hostParts (cs : List Char) : List (List Char) :=
  let ps := Text.split (· == '.') cs
  if 1 < ps.length && ps.getLast? = some [] then ps.dropLast else ps

/-- Whether a host ends in a number, so that it has to be an address. -/
def endsInNumber (cs : List Char) : Bool :=
  match (hostParts cs).getLast? with
  | some [] | none => false
  | some p => p.all Char.isDigit || (p.take 2 = ['0', 'x'] && (addressPart? p).isSome)

/-- The address of version 4 that a host writes. -/
def address? (cs : List Char) : Option String := do
  let parts := hostParts cs
  let ns ← parts.mapM addressPart?
  let last ← ns.getLast?
  let front := ns.dropLast
  if 4 < ns.length || front.any (255 < ·) || 256 ^ (5 - ns.length) ≤ last then none
  else
    let n := (front.zipIdx.map fun (x, i) => x * 256 ^ (3 - i)).sum + last
    return SocketAddress.octetsText [n / 256 ^ 3, n / 256 ^ 2 % 256, n / 256 % 256, n % 256]

/-- The address of version 6 in brackets. -/
def bracketed? : List Char → Option String
  | '[' :: cs =>
    match SocketAddress.ipv6 cs with
    | some (gs, [']']) => some ("[" ++ SocketAddress.compressed gs ++ "]")
    | _ => none
  | _ => none

/-! ### Hosts -/

/-- The host of a URL that is fetched over a network, in its normal form. -/
def networkHost? (cs : List Char) : Option String := do
  if cs.head? = some '[' then bracketed? cs
  else
    let name ← Domain.ofText? (← unescaped? cs)
    if name.isEmpty then none
    else if endsInNumber name.toList then address? name.toList
    else return name

/-- The host of a file; an empty one is the machine itself. -/
def fileHost? (cs : List Char) : Option String := do
  if cs.isEmpty then return ""
  let host ← networkHost? cs
  return if host = "localhost" then "" else host

/-- Whether a character may not stand in the host of any other URL. -/
def isForbidden (c : Char) : Bool := c = '\x00' || " #/:<>?@[\\]^|".toList.contains c

/-- The host of any other URL. -/
def otherHost? (cs : List Char) : Option String :=
  if cs.head? = some '[' then bracketed? cs
  else if cs.any isForbidden then none
  else some (String.ofList (escape [] cs))

end ChatRace.Url
