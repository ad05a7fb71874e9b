import ChatRace.Instances
import ChatRace.Text.Utf8

/-!
# Header fields

The fields of a message: names, which are compared without case, each with one or more values.
`Headers.apply` sets a field if its name and its value are permitted, and otherwise leaves everything as it
is.
-/

namespace ChatRace.Http

/-- Whether a character may stand in a token. -/
def isTokenChar (c : Char) : Bool :=
  c.isAlphanum || "!#$%&'*+-.^_`|~".toList.contains c

/-- The longest name of a field. -/
def maxNameLength : Nat := 2 ^ 16 - 1

/-- Whether a text may be the name of a field. -/
def isName (s : String) : Bool :=
  !s.isEmpty && s.length ≤ maxNameLength && s.toList.all isTokenChar

/-- Whether a character may stand in the value of a field: no control character but the tab. -/
def isValueChar (c : Char) : Bool :=
  c = '\t' || (0x20 ≤ c.toNat && c.toNat ≠ 0x7F)

/-- Whether a text may be the value of a field. -/
def isValue (s : String) : Bool :=
  s.toList.all isValueChar

/-- A text with lower-case letters in place of the upper-case ones of ASCII. -/
def lowerCase (s : String) : String :=
  String.ofList (s.toList.map Char.toLower)

/-- The fields of a message, with lower-case names. -/
structure Headers where
  fields : List (String × String)
  deriving DecidableEq, Repr

namespace Headers

/-- No field. -/
def empty : Headers := ⟨[]⟩

/-- The values of a field. -/
def values (name : String) (h : Headers) : List String :=
  (h.fields.filter (·.1 == lowerCase name)).map (·.2)

/-- The first value of a field. -/
def get? (name : String) (h : Headers) : Option String :=
  (h.values name).head?

/-- The names that occur, each once. -/
def names (h : Headers) : List String :=
  (h.fields.map (·.1)).eraseDups

/-- Adds a value to a field. -/
def append (name value : String) (h : Headers) : Headers :=
  ⟨h.fields ++ [(lowerCase name, value)]⟩

/-- Makes a value the only one of a field. -/
def insert (name value : String) (h : Headers) : Headers :=
  ⟨h.fields.filter (·.1 != lowerCase name) ++ [(lowerCase name, value)]⟩

/-- Makes a value the only one of a field, if both are permitted. -/
def apply (name value : String) (h : Headers) : Headers :=
  if isName name && isValue value then h.insert name value else h

end Headers

end ChatRace.Http
