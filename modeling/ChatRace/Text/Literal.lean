import ChatRace.Text.Unprintable

/-!
# String literals

A text between double quotes in which every character is visible: the usual escapes for the usual
characters, and the code point in hexadecimal digits for every other one that cannot be printed on its own.
-/

namespace ChatRace.Text

/-- The code point of a character as an escape. -/
def codeEscape (c : Char) : String :=
  "\\u\x7b" ++ String.ofList (Nat.toDigits 16 c.toNat) ++ "\x7d"

/-- A character within a literal. -/
def literalChar (c : Char) : String :=
  match c with
  | '\x00' => "\\0"
  | '\t' => "\\t"
  | '\n' => "\\n"
  | '\r' => "\\r"
  | '"' => "\\\""
  | '\\' => "\\\\"
  | c => if isUnprintable c then codeEscape c else c.toString

/-- A text as a literal. -/
def literal (s : String) : String :=
  "\"" ++ String.join (s.toList.map literalChar) ++ "\""

example : literal "a\"b\\c" = "\"a\\\"b\\\\c\"" := by decide +kernel
example : literal "\x7f" = "\"\\u\x7b7f\x7d\"" := by decide +kernel

end ChatRace.Text
