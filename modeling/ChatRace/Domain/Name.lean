import ChatRace.Domain.Direction
import ChatRace.Domain.Joiner
import ChatRace.Domain.Mapping
import ChatRace.Domain.Punycode
import ChatRace.Text.Blank

/-!
# Domain names

A domain name in the form in which it is looked up: labels with points between them, in small letters of
ASCII. A label with other characters is written with `xn--` in front of its Punycode. Names that are written
in other ways are brought to this form; those that cannot be are refused.
-/

namespace ChatRace.Domain

/-- What stands in front of a label that is written in Punycode. -/
def codedPrefix : List Char := ['x', 'n', '-', '-']

/-- The longest label that is read from Punycode, without what stands in front of it. -/
def maxCoded : Nat := 2000

/-- The longest label that is written in Punycode. -/
def maxDecoded : Nat := 1000

/-- Whether a character of ASCII may not stand in a domain name. -/
def isForbidden (c : Char) : Bool :=
  c.toNat ≤ 0x20 || c.toNat = 0x7F || "%#/:<>?@[\\]^|".toList.contains c

/-- Whether a label has characters beyond ASCII. -/
def isWide (label : List Char) : Bool := label.any (0x80 ≤ ·.toNat)

/-- A label as it is read and as it is written. -/
structure Label where
  read : List Char
  written : List Char

namespace Label

/-- Reads a label that is written in Punycode. -/
def decoded? (label : List Char) : Option (List Char) := do
  let coded := label.drop codedPrefix.length
  if coded.isEmpty || coded.getLast? = some '-' || maxCoded < coded.length then none
  else
    let cs ← Punycode.decode? coded
    if cs.all isPlain && !cs.contains '.' && Text.canonical cs = cs then some cs else none

/-- Whether the characters of a label may stand together. -/
def isValid (label : List Char) : Bool :=
  !label.any isForbidden && !codedPrefix.isPrefixOf label && !label.head?.any isMark && joinersStand [] label

/-- The label that is written in either way. -/
def ofChars? (label : List Char) : Option Label := do
  let isCoded := codedPrefix.isPrefixOf label
  let read ← if isCoded then decoded? label else some label
  if !isValid read then none
  else if isCoded || !isWide read then some ⟨read, label⟩
  else if maxDecoded < read.length then none
  else some ⟨read, codedPrefix ++ Punycode.encode read⟩

end Label

/-- The form of a domain name in which it is looked up. -/
def ofText? (s : String) : Option String := do
  let mapped ← s.toList.mapM mapped?
  let labels ← (Text.split (· == '.') (Text.canonical mapped.flatten)).mapM Label.ofChars?
  if directionsAgree (labels.map (·.read)) then
    some (".".intercalate (labels.map fun l => String.ofList l.written))
  else none

end ChatRace.Domain
