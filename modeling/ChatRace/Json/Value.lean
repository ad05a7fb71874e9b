import ChatRace.Decimal.Shortest

/-!
# Writing values

A `Value` is what the program writes, and `Value.render` its text: no blanks, the entries of an object in
the given order, and in a string an escape for each quote, backslash and control character and nothing else.
-/

namespace ChatRace.Json

/-- A value to be written. -/
inductive Value where
  | null
  | bool (b : Bool)
  | int (n : Int)
  | single (x : Float32)
  | text (s : String)
  | array (items : List Value)
  | object (entries : List (String × Value))

namespace Value

/-- Two hexadecimal digits. -/
def hexPair (n : Nat) : List Char :=
  [Nat.digitChar (n / 16), Nat.digitChar (n % 16)]

/-- A character within a string. -/
def escape (c : Char) : List Char :=
  match c with
  | '"' => ['\\', '"']
  | '\\' => ['\\', '\\']
  | '\x08' => ['\\', 'b']
  | '\x0c' => ['\\', 'f']
  | '\n' => ['\\', 'n']
  | '\r' => ['\\', 'r']
  | '\t' => ['\\', 't']
  | c => if c.toNat < 0x20 then ['\\', 'u', '0', '0'] ++ hexPair c.toNat else [c]

/-- A text in quotes. -/
def quote (s : String) : String :=
  "\"" ++ String.ofList (s.toList.flatMap escape) ++ "\""

/-- A single-precision number as the shortest decimal of the equal double; one that is not finite is
`null`. -/
def numeral (x : Float32) : String :=
  let y := x.toFloat
  if y.isFinite then (Decimal.ofFloat .even y).plain else "null"

mutual

/-- The text of a value. -/
def render : Value → String
  | .null => "null"
  | .bool b => if b then "true" else "false"
  | .int n => toString n
  | .single x => numeral x
  | .text s => quote s
  | .array items => "[" ++ ",".intercalate (renderItems items) ++ "]"
  | .object entries => "\x7b" ++ ",".intercalate (renderEntries entries) ++ "\x7d"

/-- The texts of the items of an array. -/
def renderItems : List Value → List String
  | [] => []
  | v :: rest => v.render :: renderItems rest

/-- The texts of the entries of an object. -/
def renderEntries : List (String × Value) → List String
  | [] => []
  | e :: rest => renderEntry e :: renderEntries rest

/-- The text of an entry of an object. -/
def renderEntry : String × Value → String
  | (k, v) => quote k ++ ":" ++ v.render

end

/-- What an object has for a key. -/
def member? (key : String) : Value → Option Value
  | .object entries => entries.lookup key
  | _ => none

/-- A text, or `null`. -/
def ofText? : Option String → Value
  | some s => .text s
  | none => .null

end Value

end ChatRace.Json
