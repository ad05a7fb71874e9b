import ChatRace.Json.Node
import ChatRace.Text.Literal

/-!
# Typed readers

A `Reader` turns a document tree into a value of some type. It looks at the tree in the order of the text
and stops at the first thing that is wrong, and it looks no closer at what nobody asked for: the value of an
unknown key has to be well formed, but its strings may be no texts and its numbers as large as they like
(`Node.skip`). Records are read from objects, and also from arrays that hold the fields in their order;
`Record` describes one by its fields.
-/

namespace ChatRace.Json

/-- Reads a value of a type from a tree. -/
abbrev Reader (α : Type) := Node → Except Fault α

/-! ### What is wrong with a tree -/

/-- What is wrong where no value stands. -/
def Gap.cause : Gap → Cause
  | .missing => .endInValue
  | .junk => .valueExpected
  | .cutWord atEnd => if atEnd then .endInValue else .wordExpected
  | .cutNumeral atEnd => if atEnd then .endInValue else .invalidNumber
  | .noColon atEnd => if atEnd then .endInObject else .colonExpected

/-- What is wrong with the end of an array that is read item by item. -/
def Stop.arrayCause? : Stop → Option Cause
  | .closed => none
  | .ended => some .endInArray
  | .noComma => some .arrayCommaExpected
  | .trailingComma => some .trailingComma
  | .endedAfterComma => some .endInValue
  | .noKey => some .arrayCommaExpected

/-- What is wrong with the end of an object that is read entry by entry. -/
def Stop.objectCause? : Stop → Option Cause
  | .closed => none
  | .ended => some .endInObject
  | .noComma => some .objectCommaExpected
  | .trailingComma => some .trailingComma
  | .endedAfterComma => some .endInValue
  | .noKey => some .stringKeyExpected

/-- A cause, if there is one, as an outcome. -/
def refuse : Option Cause → Except Cause Unit
  | some c => .error c
  | none => .ok ()

/-! ### Values that are passed over -/

/-- What is wrong where no value stands and none was asked for. -/
def Gap.skip : Gap → Cause
  | .cutNumeral _ => .invalidNumber
  | g => g.cause

/-- What is wrong with the end of an array that is passed over. -/
def Stop.skipArray : Stop → Except Cause Unit
  | .trailingComma => .error .valueExpected
  | s => refuse s.arrayCause?

/-- What is wrong with the end of an object that is passed over. -/
def Stop.skipObject : Stop → Except Cause Unit
  | .trailingComma => .error .stringKeyExpected
  | .endedAfterComma => .error .endInObject
  | s => refuse s.objectCause?

mutual

/-- The first thing that is wrong with a tree that is passed over. -/
def Node.skip : Node → Except Cause Unit
  | .null | .bool _ | .number _ => .ok ()
  | .string q => q.skip
  | .gap g => .error g.skip
  | .array items stop =>
    match skipItems items with
    | .error c => .error c
    | .ok () => stop.skipArray
  | .object entries stop =>
    match skipEntries entries with
    | .error c => .error c
    | .ok () => stop.skipObject

/-- The first thing that is wrong with the items of an array. -/
def skipItems : List Node → Except Cause Unit
  | [] => .ok ()
  | v :: rest =>
    match v.skip with
    | .error c => .error c
    | .ok () => skipItems rest

/-- The first thing that is wrong with the entries of an object. -/
def skipEntries : List (Quoted × Node) → Except Cause Unit
  | [] => .ok ()
  | e :: rest =>
    match skipEntry e with
    | .error c => .error c
    | .ok () => skipEntries rest

/-- The first thing that is wrong with an entry of an object. -/
def skipEntry : Quoted × Node → Except Cause Unit
  | (k, v) =>
    match k.skip with
    | .error c => .error c
    | .ok () => v.skip

end

/-! ### Single values -/

/-- What is wrong with a tree that is not what was `wanted`: its first own fault, or else its type. -/
def Node.mismatch (wanted : String) : Node → Cause
  | .null => .wrongType "null" wanted
  | .bool b => .wrongType ("boolean `" ++ (if b then "true" else "false") ++ "`") wanted
  | .number n =>
    match n.value with
    | .error c => c
    | .ok v => .wrongType v.found wanted
  | .string q =>
    match q.text with
    | .error c => c
    | .ok s => .wrongType ("string " ++ Text.literal s) wanted
  | .array _ _ => .wrongType "sequence" wanted
  | .object _ _ => .wrongType "map" wanted
  | .gap g => g.cause

/-- The nearest single-precision number. -/
def Number.single : Number → Float32
  | .natural n => n.toUInt64.toFloat32
  | .negative n => -n.toUInt64.toFloat32
  | .double x => x.toFloat32

/-- A cause at the root for a failure. -/
def atRoot : Except Cause α → Except Fault α
  | .ok a => .ok a
  | .error c => fail c

namespace Reader

/-- Reads a text. -/
def text : Reader String
  | .string q => atRoot q.text
  | v => fail (v.mismatch "a string")

/-- Reads a truth value. -/
def bool : Reader Bool
  | .bool b => .ok b
  | v => fail (v.mismatch "a boolean")

/-- Reads a natural number below `2 ^ 32`. -/
def word : Reader UInt32
  | .number n =>
    match n.value with
    | .error c => fail c
    | .ok (.natural k) =>
      if k < 2 ^ 32 then .ok k.toUInt32 else fail (.wrongValue (Number.natural k).found "u32")
    | .ok (.negative k) => fail (.wrongValue (Number.negative k).found "u32")
    | .ok (.double x) => fail (.wrongType (Number.double x).found "u32")
  | v => fail (v.mismatch "u32")

/-- Reads a single-precision number. -/
def single : Reader Float32
  | .number n =>
    match n.value with
    | .error c => fail c
    | .ok v => .ok v.single
  | v => fail (v.mismatch "f32")

/-- Reads a value or `null`. -/
def optional (r : Reader α) : Reader (Option α)
  | .null => .ok none
  | v => (r v).map some

/-- Reads items in order, `i` of them having been read before, last first. What is wrong between two items is
wrong with the array. -/
def items (r : Reader α) (stop : Stop) (i : Nat) (seen : List α) : List Node → Except Fault (List α)
  | [] =>
    match stop.arrayCause? with
    | some c => fail c
    | none => .ok seen.reverse
  | v :: rest =>
    match within (.index i) (r v) with
    | .error f => .error f
    | .ok a => items r stop (i + 1) (a :: seen) rest

/-- Reads an array. -/
def list (r : Reader α) : Reader (List α)
  | .array vs stop => items r stop 0 [] vs
  | v => fail (v.mismatch "a sequence")

/-! ### Enumerations -/

/-- A name among those that are known. -/
def known (names : List String) (q : Quoted) : Except Cause String :=
  match q.text with
  | .error c => .error c
  | .ok s => if names.contains s then .ok s else .error (.unknownVariant s names)

/-- What is wrong where an object for a variant goes on after its only entry. -/
def afterVariant : Stop → Except Cause Unit
  | .closed => .ok ()
  | .ended => .error .endInObject
  | _ => .error .valueExpected

/-- Reads one of the names of an enumeration: a string, or an object that maps it to `null`. -/
def variant (names : List String) : Reader String
  | .string q => atRoot (known names q)
  | .object [] stop =>
    match stop with
    | .noKey => fail .stringKeyExpected
    | .ended => fail .endInValue
    | _ => fail .valueExpected
  | .object ((k, v) :: rest) stop =>
    match known names k, v with
    | .error c, _ => fail c
    | .ok _, .gap (.noColon atEnd) => fail (Gap.cause (.noColon atEnd))
    | .ok name, .null =>
      if rest.isEmpty then atRoot ((afterVariant stop).map fun _ => name) else fail .valueExpected
    | .ok name, v => within (.key name) (fail (v.mismatch "unit"))
  | .gap .missing => fail .endInValue
  | .gap (.noColon atEnd) => fail (Gap.cause (.noColon atEnd))
  | _ => fail .valueExpected

end Reader

/-! ### Records -/

/-- A field of a record of which `δ` holds what has been read so far. -/
structure Field (δ : Type) where
  key : String
  /-- Whether a record without the field is refused. -/
  required : Bool
  isSet : δ → Bool
  read : Node → δ → Except Fault δ

/-- A record type: its fields in their order, and how what has been read of them makes a record. -/
structure Record (δ α : Type) where
  name : String
  fields : List (Field δ)
  empty : δ
  finish : δ → Except Cause α

namespace Record

/-- What a record should have been read from. -/
def wanted (r : Record δ α) : String := "struct " ++ r.name

/-- The same for an array that is too short. -/
def wantedLength (r : Record δ α) : String :=
  let n := r.fields.length
  r.wanted ++ " with " ++ toString n ++ (if n = 1 then " element" else " elements")

/-- Reads the value of an entry. A missing colon is wrong with the object; what is wrong behind it, with the
value. -/
def valueOf (key : String) (read : Node → Except Fault α) : Node → Except Fault α
  | .gap (.noColon atEnd) => fail (Gap.cause (.noColon atEnd))
  | v => within (.key key) (read v)

/-- Reads the entries of an object: a known key at most once, an unknown one with any value. -/
def entries (r : Record δ α) (stop : Stop) (d : δ) : List (Quoted × Node) → Except Fault δ
  | [] =>
    match stop.objectCause? with
    | some c => .error ⟨[.unread], c⟩
    | none => .ok d
  | (k, v) :: rest =>
    match k.text with
    | .error c => .error ⟨[.unread], c⟩
    | .ok key =>
      match r.fields.find? (·.key == key) with
      | none =>
        match valueOf key (atRoot ·.skip) v with
        | .error f => .error f
        | .ok () => entries r stop d rest
      | some f =>
        if f.isSet d then fail (.duplicateField key)
        else
          match valueOf key (f.read · d) v with
          | .error f => .error f
          | .ok d => entries r stop d rest

/-- What is wrong with an array after the last field. -/
def surplus (stop : Stop) : List Node → Except Cause Unit
  | _ :: _ => .error .trailingCharacters
  | [] =>
    match stop with
    | .closed => .ok ()
    | .ended => .error .endInArray
    | .trailingComma => .error .trailingComma
    | .noComma | .endedAfterComma | .noKey => .error .trailingCharacters

/-- Reads the items of an array as the fields from number `i` on; fields for which there is no item may be
missing if they are not required. -/
def items (r : Record δ α) (stop : Stop) (d : δ) (i : Nat) : List (Field δ) → List Node → Except Fault δ
  | [], vs => atRoot ((surplus stop vs).map fun _ => d)
  | f :: fs, v :: vs =>
    match within (.index i) (f.read v d) with
    | .error f => .error f
    | .ok d => items r stop d (i + 1) fs vs
  | f :: fs, [] =>
    match stop.arrayCause? with
    | some c => fail c
    | none => if f.required then fail (.wrongLength i r.wantedLength) else items r stop d (i + 1) fs []

/-- Reads a record. -/
def reader (r : Record δ α) : Reader α
  | .object es stop =>
    match r.entries stop r.empty es with
    | .error f => .error f
    | .ok d => atRoot (r.finish d)
  | .array vs stop =>
    match r.items stop r.empty 0 r.fields vs with
    | .error f => .error f
    | .ok d => atRoot (r.finish d)
  | v => fail (v.mismatch r.wanted)

/-- A field that has been read, or the cause that it is missing. -/
def require (key : String) : Option β → Except Cause β
  | some b => .ok b
  | none => .error (.missingField key)

end Record

/-! ### Whole documents -/

/-- Reads the first value of a document; what follows is not looked at. -/
def decodeFirst (r : Reader α) (bytes : List UInt8) : Except Fault α :=
  r (Document.ofBytes bytes).root

/-- Reads a document that holds one value and nothing else. -/
def decode (r : Reader α) (bytes : List UInt8) : Except Fault α :=
  let d := Document.ofBytes bytes
  match r d.root with
  | .error f => .error f
  | .ok a => if d.more then fail .trailingCharacters else .ok a

end ChatRace.Json
