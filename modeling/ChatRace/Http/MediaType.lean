import ChatRace.Http.Header

/-!
# Media types

Whether the `Content-Type` of a message says that it holds JSON: its type is `application`, and `json` is
its subtype or the suffix of that. The suffix is what follows the last plus sign. The parameters have to be
well formed.
-/

namespace ChatRace.Http

/-- A media type without its parameters, in lower case. -/
structure MediaType where
  main : String
  sub : String
  suffix : Option String
  deriving DecidableEq, Repr

namespace MediaType

/-- A place within the parameters of a media type. -/
inductive Place where
  /-- After a semicolon and blanks. -/
  | start
  | name
  /-- After the equals sign. -/
  | valueStart
  | value
  /-- After the opening quote; a quote here belongs to the value. -/
  | quoteStart
  | quoted
  /-- After the closing quote and blanks. -/
  | afterQuote
  | broken
  deriving DecidableEq, Repr

/-- Whether a character may stand between quotes. -/
def isQuotedChar (c : Char) : Bool :=
  0x1F < c.toNat && c.toNat ≠ 0x7F

/-- Takes one character of the parameters. -/
def Place.step (p : Place) (c : Char) : Place :=
  match p with
  | .start => if c = ' ' then .start else if isTokenChar c then .name else .broken
  | .name => if c = '=' then .valueStart else if isTokenChar c then .name else .broken
  | .valueStart => if c = '"' then .quoteStart else if isTokenChar c then .value else .broken
  | .value => if c = ';' then .start else if isTokenChar c then .value else .broken
  | .quoteStart => if isQuotedChar c then .quoted else .broken
  | .quoted => if c = '"' then .afterQuote else if isQuotedChar c then .quoted else .broken
  | .afterQuote => if c = ';' then .start else if c = ' ' then .afterQuote else .broken
  | .broken => .broken

/-- Whether the parameters may end here. -/
def Place.mayEnd : Place → Bool
  | .start | .valueStart | .value | .afterQuote => true
  | .name | .quoteStart | .quoted | .broken => false

/-- Whether parameters are well formed. -/
def areParameters (cs : List Char) : Bool :=
  (cs.foldl Place.step .start).mayEnd

/-- The part of a text before its last plus sign, unless that is its first character, and the part behind
it. -/
def splitSuffix (cs : List Char) : List Char × Option (List Char) :=
  let back := cs.reverse
  match back.dropWhile (· != '+') with
  | _ :: c :: before => ((c :: before).reverse, some (back.takeWhile (· != '+')).reverse)
  | _ => (cs, none)

/-- Reads a media type. -/
def ofText? (s : String) : Option MediaType :=
  let cs := s.toList
  let main := cs.takeWhile isTokenChar
  match cs.dropWhile isTokenChar with
  | '/' :: rest =>
    let sub := rest.takeWhile isTokenChar
    let (stem, suffix) := splitSuffix sub
    let lower (cs : List Char) : String := lowerCase (String.ofList cs)
    let result : MediaType := ⟨lower main, lower stem, suffix.map lower⟩
    match rest.dropWhile isTokenChar with
    | [] => if main.isEmpty then none else some result
    | ';' :: params => if main.isEmpty || sub.isEmpty || !areParameters params then none else some result
    | _ => none
  | _ => none

/-- Whether a media type is one of JSON. -/
def isJson (t : MediaType) : Bool :=
  t.main == "application" && (t.sub == "json" || t.suffix == some "json")

end MediaType

/-- Whether a character is visible in ASCII, a space or a tab. -/
def isVisible (c : Char) : Bool :=
  c = '\t' || (0x20 ≤ c.toNat && c.toNat < 0x7F)

/-- Whether the fields of a message say that it holds JSON. -/
def Headers.saysJson (h : Headers) : Bool :=
  match h.get? "content-type" with
  | none => false
  | some s => s.toList.all isVisible && ((MediaType.ofText? s).map (·.isJson)).getD false

example : (MediaType.ofText? "application/vnd.api+json; charset=utf-8").map (·.isJson) = some true := by
  decide +kernel
example : (MediaType.ofText? "application/json; charset").map (·.isJson) = none := by decide +kernel

end ChatRace.Http
