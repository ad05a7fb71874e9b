/-!
# Faults of a document

What can be wrong with a JSON document that should hold a value of some type: it stops too early, it is no
JSON, or it holds something else. A `Fault` is a cause together with the place in the value under
construction at which it was met, as a path from the root. Its description also tells how far the reader had come
in the text; a `Locator` knows that.
-/

namespace ChatRace.Json

/-- The three sorts of faults. -/
inductive Category where
  /-- The document ends too early. -/
  | eof
  /-- The document is not JSON. -/
  | syntactic
  /-- The document holds another kind of value than was asked for. -/
  | data
  deriving DecidableEq, Repr

/-- What is wrong. -/
inductive Cause where
  | endInValue
  | endInString
  | endInArray
  | endInObject
  | valueExpected
  | wordExpected
  | colonExpected
  | arrayCommaExpected
  | objectCommaExpected
  | stringKeyExpected
  | trailingComma
  | trailingCharacters
  | invalidNumber
  | numberOutOfRange
  | invalidEscape
  | unpairedSurrogate
  | endOfHexEscape
  | controlCharacter
  | notUtf8
  /-- A value of another type: what was `found` and what was `wanted`. -/
  | wrongType (found wanted : String)
  /-- A value of the right type that is out of range. -/
  | wrongValue (found wanted : String)
  /-- An array of `length` elements for a record. -/
  | wrongLength (length : Nat) (wanted : String)
  | missingField (key : String)
  | duplicateField (key : String)
  | unknownVariant (name : String) (known : List String)
  deriving DecidableEq, Repr

namespace Cause

/-- The names of the variants of an enumeration, each in backticks. -/
def listed (names : List String) : String :=
  ", ".intercalate (names.map fun n => "`" ++ n ++ "`")

/-- The description of a cause. -/
def message : Cause → String
  | endInValue => "EOF while parsing a value"
  | endInString => "EOF while parsing a string"
  | endInArray => "EOF while parsing a list"
  | endInObject => "EOF while parsing an object"
  | valueExpected => "expected value"
  | wordExpected => "expected ident"
  | colonExpected => "expected `:`"
  | arrayCommaExpected => "expected `,` or `]`"
  | objectCommaExpected => "expected `,` or `\x7d`"
  | stringKeyExpected => "key must be a string"
  | trailingComma => "trailing comma"
  | trailingCharacters => "trailing characters"
  | invalidNumber => "invalid number"
  | numberOutOfRange => "number out of range"
  | invalidEscape => "invalid escape"
  | unpairedSurrogate => "lone leading surrogate in hex escape"
  | endOfHexEscape => "unexpected end of hex escape"
  | controlCharacter => "control character (\\u0000-\\u001F) found while parsing a string"
  | notUtf8 => "invalid unicode code point"
  | wrongType found wanted => "invalid type: " ++ found ++ ", expected " ++ wanted
  | wrongValue found wanted => "invalid value: " ++ found ++ ", expected " ++ wanted
  | wrongLength n wanted => "invalid length " ++ toString n ++ ", expected " ++ wanted
  | missingField key => "missing field `" ++ key ++ "`"
  | duplicateField key => "duplicate field `" ++ key ++ "`"
  | unknownVariant name known =>
    "unknown variant `" ++ name ++ "`, expected one of " ++ listed known

/-- The sort of fault that a cause makes. -/
def category : Cause → Category
  | endInValue | endInString | endInArray | endInObject => .eof
  | wrongType .. | wrongValue .. | wrongLength .. => .data
  | missingField _ | duplicateField _ | unknownVariant .. => .data
  | _ => .syntactic

end Cause

/-- One step from a value to a value within it. -/
inductive Segment where
  | index (i : Nat)
  | key (k : String)
  /-- The entry whose key has not been read yet. -/
  | unread
  deriving DecidableEq, Repr

/-- The text of a segment, without the point in front of it. -/
def Segment.text : Segment → String
  | .index i => "[" ++ toString i ++ "]"
  | .key k => k
  | .unread => "?"

/-- A cause and where it was met, as the path from the root. -/
structure Fault where
  path : List Segment
  cause : Cause
  deriving DecidableEq, Repr

/-- How far a reader has come in a text. Lines are counted from one, and the line zero is none. -/
structure Position where
  line : Nat
  column : Nat
  deriving DecidableEq, Repr

/-- The words for a position that follow a description. -/
def Position.text (p : Position) : String :=
  if p.line = 0 then "" else " at line " ++ toString p.line ++ " column " ++ toString p.column

/-- Tells how far a reader of a document has come when it meets a fault. How far it looks ahead is its own affair, so a
locator is given and not computed. -/
abbrev Locator := List UInt8 → Fault → Position

/-- Tells nothing. -/
def Locator.mute : Locator := fun _ _ => ⟨0, 0⟩

namespace Fault

/-- A fault at the root. -/
def here (cause : Cause) : Fault := ⟨[], cause⟩

/-- The same fault, seen from the value that holds the one with the fault. -/
def under (s : Segment) (f : Fault) : Fault := { f with path := s :: f.path }

/-- A path: its segments with a point before each one but the first and the indices. -/
def pathText : List Segment → String
  | [] => "."
  | s :: rest => s.text ++ String.join (rest.map fun
      | .index i => (Segment.index i).text
      | t => "." ++ t.text)

/-- The description of a fault in a document. -/
def message (locate : Locator) (document : List UInt8) (f : Fault) : String :=
  f.cause.message ++ (locate document f).text

/-- The description with the path in front; a path of unread keys alone says nothing and is left out. -/
def located (locate : Locator) (document : List UInt8) (f : Fault) : String :=
  if f.path.all (· == .unread) then f.message locate document
  else pathText f.path ++ ": " ++ f.message locate document

end Fault

/-- Puts a step in front of the path of a fault. -/
def within (s : Segment) (r : Except Fault α) : Except Fault α :=
  match r with
  | .ok a => .ok a
  | .error f => .error (f.under s)

/-- A fault at the root as the outcome. -/
def fail (cause : Cause) : Except Fault α :=
  .error (.here cause)

end ChatRace.Json
