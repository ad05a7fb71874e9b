import ChatRace.Json.Token

/-!
# Document trees

The tree of a JSON document as far as it can be read. A `Node` holds what stands in the document in its
order, and a container says how it ends, so that whoever reads a tree meets everything that is wrong in the
order of the text, and can tell a mistake in a value that matters from one in a value that is passed over.
`Document.ofTokens` builds the tree with a stack of open containers, so that no depth is too great.
-/

namespace ChatRace.Json

/-- Why no value stands where one is due. -/
inductive Gap where
  /-- The document ends. -/
  | missing
  /-- Something stands there that begins no value. -/
  | junk
  | cutWord (atEnd : Bool)
  | cutNumeral (atEnd : Bool)
  /-- The key is not followed by a colon; `atEnd` if the document ends after the key. -/
  | noColon (atEnd : Bool)
  deriving DecidableEq, Repr

/-- How a container ends. -/
inductive Stop where
  | closed
  /-- The document ends where a comma or the closing bracket is due. -/
  | ended
  /-- Something else stands where a comma or the closing bracket is due. -/
  | noComma
  /-- The closing bracket follows a comma. -/
  | trailingComma
  /-- The document ends after a comma. -/
  | endedAfterComma
  /-- Something else than a string stands where a key is due. -/
  | noKey
  deriving DecidableEq, Repr

/-- A value as it stands in a document. -/
inductive Node where
  | null
  | bool (b : Bool)
  | number (n : Numeral)
  | string (q : Quoted)
  | array (items : List Node) (stop : Stop)
  | object (entries : List (Quoted × Node)) (stop : Stop)
  | gap (g : Gap)
  deriving Repr

/-- What an object has for a key. -/
def Node.member? (key : String) : Node → Option Node
  | .object entries _ => (entries.find? (·.1.text.toOption == some key)).map (·.2)
  | _ => none

/-- A document: the first value, and whether anything follows it. -/
structure Document where
  root : Node
  more : Bool
  deriving Repr

/-- The node that a token begins. -/
def Token.node : Token → Node
  | .null => .null
  | .bool b => .bool b
  | .number n => .number n
  | .string q => .string q
  | .openArray => .array [] .ended
  | .openObject => .object [] .ended
  | .cutWord atEnd => .gap (.cutWord atEnd)
  | .cutNumeral atEnd => .gap (.cutNumeral atEnd)
  | .comma | .colon | .closeArray | .closeObject | .junk => .gap .junk

namespace Document

/-- A container that waits for a value, its elements last first. -/
inductive Frame where
  | array (items : List Node)
  | object (entries : List (Quoted × Node)) (key : Quoted)

/-- What may come next in the innermost open container, or at the root. -/
inductive Place where
  | root
  | firstItem
  /-- After a comma in an array. -/
  | nextItem (items : List Node)
  | afterItem (items : List Node)
  | firstKey
  /-- After a comma in an object. -/
  | nextKey (entries : List (Quoted × Node))
  | colon (entries : List (Quoted × Node)) (key : Quoted)
  /-- After a colon. -/
  | entry (entries : List (Quoted × Node)) (key : Quoted)
  | afterEntry (entries : List (Quoted × Node))

/-- A document under construction. -/
inductive Build where
  /-- The containers around the innermost one, and the place in that. -/
  | within (outer : List Frame) (place : Place)
  | done (d : Document)

/-- Puts a whole value into the container that waits for it. -/
def deliver (v : Node) : List Frame → Build
  | [] => .done ⟨v, false⟩
  | .array items :: outer => .within outer (.afterItem (v :: items))
  | .object es k :: outer => .within outer (.afterEntry ((k, v) :: es))

/-- The container with its last element. -/
def Frame.close (v : Node) : Frame → Node
  | .array items => .array (v :: items).reverse .ended
  | .object es k => .object ((k, v) :: es).reverse .ended

/-- The document that ends with a value within open containers. -/
def cutAt (v : Node) (outer : List Frame) : Document :=
  ⟨outer.foldl Frame.close v, false⟩

/-- Ends the document with a value after which nothing is read any more. -/
def halt (v : Node) (outer : List Frame) : Build :=
  .done (cutAt v outer)

/-- Takes a token where a value is due. -/
def value (outer : List Frame) : Token → Build
  | .openArray => .within outer .firstItem
  | .openObject => .within outer .firstKey
  | .null => deliver .null outer
  | .bool b => deliver (.bool b) outer
  | .number n => deliver (.number n) outer
  | .string q => deliver (.string q) outer
  | t => halt t.node outer

/-- Takes a token where a key is due. -/
def key (outer : List Frame) (entries : List (Quoted × Node)) : Token → Build
  | .string q => .within outer (.colon entries q)
  | _ => halt (.object entries.reverse .noKey) outer

/-- Takes one token. -/
def step : Build → Token → Build
  | .done d, _ => .done { d with more := true }
  | .within outer place, t =>
    match place with
    | .root => value outer t
    | .firstItem =>
      if t = .closeArray then deliver (.array [] .closed) outer else value (.array [] :: outer) t
    | .nextItem items =>
      if t = .closeArray then halt (.array items.reverse .trailingComma) outer
      else value (.array items :: outer) t
    | .afterItem items =>
      if t = .closeArray then deliver (.array items.reverse .closed) outer
      else if t = .comma then .within outer (.nextItem items)
      else halt (.array items.reverse .noComma) outer
    | .firstKey =>
      if t = .closeObject then deliver (.object [] .closed) outer else key outer [] t
    | .nextKey entries =>
      if t = .closeObject then halt (.object entries.reverse .trailingComma) outer
      else key outer entries t
    | .colon entries k =>
      if t = .colon then .within outer (.entry entries k)
      else halt (.object ((k, .gap (.noColon false)) :: entries).reverse .ended) outer
    | .entry entries k => value (.object entries k :: outer) t
    | .afterEntry entries =>
      if t = .closeObject then deliver (.object entries.reverse .closed) outer
      else if t = .comma then .within outer (.nextKey entries)
      else halt (.object entries.reverse .noComma) outer

/-- The value that stands in the innermost open container when the document ends. -/
def Place.close : Place → Node
  | .root => .gap .missing
  | .firstItem => .array [] .ended
  | .nextItem items => .array items.reverse .endedAfterComma
  | .afterItem items => .array items.reverse .ended
  | .firstKey => .object [] .ended
  | .nextKey entries => .object entries.reverse .endedAfterComma
  | .colon entries k => .object ((k, .gap (.noColon true)) :: entries).reverse .ended
  | .entry entries k => .object ((k, .gap .missing) :: entries).reverse .ended
  | .afterEntry entries => .object entries.reverse .ended

/-- The document when there are no more tokens. -/
def finish : Build → Document
  | .done d => d
  | .within outer place => cutAt place.close outer

/-- The document that tokens make. -/
def ofTokens (ts : List Token) : Document :=
  finish (ts.foldl step (.within [] .root))

/-- The document in some octets. -/
def ofBytes (bytes : List UInt8) : Document :=
  ofTokens (tokens bytes)

end Document

end ChatRace.Json
