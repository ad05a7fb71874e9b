import ChatRace.Config.Address
import ChatRace.Text.Utf8

/-!
# Percent escapes

A URL is written in ASCII without controls: any other character, and one that has a meaning where it stands,
is written as the octets of its UTF-8 form, each as a percent sign and two hexadecimal digits.
-/

namespace ChatRace.Url

/-- An octet as an escape. -/
def percent (b : UInt8) : List Char :=
  ['%', (Nat.digitChar (b.toNat / 16)).toUpper, (Nat.digitChar (b.toNat % 16)).toUpper]

/-- Whether a character is always escaped. -/
def isControl (c : Char) : Bool := c.toNat < 0x20 || 0x7E < c.toNat

/-- Escapes the controls and some more characters. -/
def escape (more : List Char) (cs : List Char) : List Char :=
  cs.flatMap fun c =>
    if isControl c || more.contains c then (Text.toUtf8 c.toString).flatMap percent else [c]

/-- The characters that are escaped in a fragment. -/
def fragmentSet : List Char := " \"<>`".toList

/-- The characters that are escaped in a path. -/
def pathSet : List Char := fragmentSet ++ "#?\x7b\x7d".toList

/-- The characters that are escaped in the name and the password of a user. -/
def userSet : List Char := pathSet ++ "/:;=@[\\]^|".toList

/-- The characters that are escaped in a query. -/
def querySet (isSpecial : Bool) : List Char := " \"#<>".toList ++ if isSpecial then ['\''] else []

/-- The octets that a text with escapes stands for. -/
def unescape : List Char → List UInt8
  | '%' :: a :: b :: cs =>
    match SocketAddress.digit? 16 a, SocketAddress.digit? 16 b with
    | some x, some y => UInt8.ofNat (x * 16 + y) :: unescape cs
    | _, _ => 0x25 :: unescape (a :: b :: cs)
  | c :: cs => Text.toUtf8 c.toString ++ unescape cs
  | [] => []

/-- The text that a text with escapes stands for, if its octets are one. -/
def unescaped? (cs : List Char) : Option String := Text.ofUtf8? (unescape cs)

end ChatRace.Url
