import ChatRace.Instances

/-!
# Random identifiers

Version 4 UUIDs: 128 random bits of which six are fixed.
-/

namespace ChatRace

/-- A version 4 UUID by its 32 hexadecimal digits. -/
structure Uuid where
  digits : List Char
  deriving DecidableEq, Repr

namespace Uuid

/-- The hexadecimal digits of the low `n` half-octets of a number, the highest first. -/
def hexDigits (bits : Nat) : Nat → List Char
  | 0 => []
  | n + 1 => Nat.digitChar (bits / 16 ^ n % 16) :: hexDigits bits n

/-- The UUID of some random bits: the version is 4, and the two highest bits of the variant digit are `10`. -/
def ofRandom (bits : Nat) : Uuid :=
  ⟨hexDigits (bits / 16 ^ 20) 12 ++ '4' :: hexDigits (bits / 16 ^ 16) 3 ++
    Nat.digitChar (8 + bits / 16 ^ 15 % 4) :: hexDigits bits 15⟩

/-- The five groups of digits with hyphens between them. -/
def text (u : Uuid) : String :=
  let ds := u.digits
  let group (start n : Nat) : String := String.ofList ((ds.drop start).take n)
  "-".intercalate [group 0 8, group 8 4, group 12 4, group 16 4, group 20 12]

/-- Whether a character is a lower-case hexadecimal digit. -/
def isHex (c : Char) : Bool :=
  ('0' ≤ c && c ≤ '9') || ('a' ≤ c && c ≤ 'f')

/-- What each character of the text of a version 4 UUID has to be. -/
def shape : List (Char → Bool) :=
  let hex (n : Nat) : List (Char → Bool) := List.replicate n isHex
  let hyphen : Char → Bool := (· == '-')
  hex 8 ++ hyphen :: hex 4 ++ hyphen :: (· == '4') :: hex 3 ++
    hyphen :: (fun c => "89ab".toList.contains c) :: hex 3 ++ hyphen :: hex 12

/-- Whether a text is that of a version 4 UUID. -/
def isText (s : String) : Bool :=
  s.length = shape.length && (List.zipWith (fun p c => p c) shape s.toList).all id

example : (ofRandom 0).text = "00000000-0000-4000-8000-000000000000" := by decide +kernel
example : isText (ofRandom (2 ^ 128 - 1)).text = true := by decide +kernel

end Uuid

end ChatRace
