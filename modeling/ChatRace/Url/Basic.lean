import ChatRace.Url.Host
import ChatRace.Url.Path

/-!
# URLs

URLs in their normal form: a scheme in small letters, a host in its normal form, no default port, no dot
segments in the path, and percent escapes where they are due. Schemes that are fetched over a network always
have a host. Files may have one, and other schemes any or none.
-/

namespace ChatRace

namespace Url

/-- The user of a host, with escapes. -/
structure User where
  name : List Char
  password : List Char
  deriving DecidableEq, Repr

/-- Where a URL leads to. -/
structure Place where
  user : Option User
  /-- The host behind two slashes, which may be empty, and the port, if it is not the default one. -/
  host : Option String
  port : Option Nat
  path : String
  deriving DecidableEq, Repr

end Url

/-- A URL in its normal form. -/
structure Url extends Url.Place where
  scheme : String
  query : Option String
  fragment : Option String
  deriving DecidableEq, Repr

namespace Url

/-! ### Users -/

namespace User

/-- The user that a text names; there is none if the name and the password are empty. -/
def ofChars? (cs : List Char) : Option User :=
  let name := cs.takeWhile (· != ':')
  let password := (cs.dropWhile (· != ':')).drop 1
  if name.isEmpty && password.isEmpty then none else some ⟨escape userSet name, escape userSet password⟩

/-- The text of a user. -/
def text (u : User) : String :=
  String.ofList (u.name ++ (if u.password.isEmpty then [] else ':' :: u.password) ++ ['@'])

/-- Whether a user can be told from the text: the name is one, or it is empty and the password is one. -/
def isReadable (u : User) : Bool :=
  (unescaped? u.name).any fun name =>
    !name.isEmpty || (!u.password.isEmpty && (unescaped? u.password).isSome)

end User

/-! ### Schemes and ports -/

/-- The schemes that are fetched over a network, with their default ports. -/
def networkSchemes : List (String × Nat) :=
  [("http", 80), ("https", 443), ("ws", 80), ("wss", 443), ("ftp", 21)]

/-- The default port of a scheme that is fetched over a network. -/
def defaultPort? (scheme : String) : Option Nat :=
  (networkSchemes.find? (·.1 == scheme)).map (·.2)

/-- The scheme of a text, and what follows the colon. -/
def scheme? (cs : List Char) : Option (String × List Char) :=
  let name := cs.takeWhile (· != ':')
  match name, cs.dropWhile (· != ':') with
  | c :: _, _ :: rest =>
    if c.isAlpha && name.all fun c => c.isAlphanum || "+-.".toList.contains c then
      some (String.ofList (name.map Char.toLower), rest)
    else none
  | _, _ => none

/-- The port behind a host, unless it is the default one or has no digits, and what follows it. -/
def port? (usual : Option Nat) : List Char → Option (Option Nat × List Char)
  | ':' :: cs =>
    let ds := cs.takeWhile Char.isDigit
    let rest := cs.dropWhile Char.isDigit
    let n := SocketAddress.ofDigits 10 ds
    if !rest.head?.all (· = '\\') || 2 ^ 16 ≤ n then none
    else some (if ds.isEmpty || usual = some n then none else some n, rest)
  | cs => some (none, cs)

/-! ### Authorities -/

/-- The text in front of the last `@`, if there is one, and the rest. -/
def cutUser (cs : List Char) : Option (List Char) × List Char :=
  let back := cs.reverse
  match back.dropWhile (· != '@') with
  | [] => (none, cs)
  | _ :: front => (some front.reverse, (back.takeWhile (· != '@')).reverse)

/-- Cuts a text in front of the first colon outside brackets. -/
def cutHost (isInside : Bool) : List Char → List Char × List Char
  | [] => ([], [])
  | c :: cs =>
    if c = ':' && !isInside then ([], c :: cs)
    else
      let (host, rest) := cutHost (if c = '[' then true else if c = ']' then false else isInside) cs
      (c :: host, rest)

/-- The user, the host and the port of an authority, and what follows them. An empty host can have no port
and no user. -/
def authority? (host? : List Char → Option String) (usual : Option Nat) (cs : List Char) :
    Option (Option User × String × Option Nat × List Char) := do
  let (user, named) := cutUser cs
  let (name, behind) := cutHost false named
  let host ← host? name
  let (port, rest) ← port? usual behind
  if host.isEmpty && (!behind.isEmpty || !user.all (· = [':'])) then none
  else return (user.bind User.ofChars?, host, port, rest)

/-! ### Places -/

/-- Cuts a text before the first character that is one of some. -/
def cutAt (stops : List Char) (cs : List Char) : List Char × List Char :=
  (cs.takeWhile (!stops.contains ·), cs.dropWhile (!stops.contains ·))

/-- What parts a path that is fetched over a network, or that of a file. -/
def isSlash (c : Char) : Bool := c = '/' || c = '\\'

/-- The place of something that is fetched over a network, with the usual port. -/
def networkPlace? (usual : Nat) (cs : List Char) : Option Place := do
  let (authority, path) := cutAt ['/', '\\'] (cs.dropWhile isSlash)
  let (user, host, port, _) ← authority? networkHost? usual authority
  return ⟨user, some host, port, pathText (segments false isSlash (path.drop 1))⟩

/-- The place of a file, given the text behind the first slash. A drive is on the machine itself, and the path
begins with a single slash. -/
def filePlace (host : String) (cs : List Char) : Place :=
  let ss := segments true isSlash cs
  ⟨none, if ss.head?.any isDrive then "" else host, none, pathText (ss.dropWhile List.isEmpty)⟩

/-- The place of a file. -/
def filePlace? (cs : List Char) : Option Place := do
  let slashes := (cs.takeWhile isSlash).length
  if slashes < 2 then return filePlace "" (cs.drop slashes)
  let (name, path) := cutAt ['/', '\\'] (cs.drop 2)
  if isDrive name then return filePlace "" (cs.drop 2)
  let host ← fileHost? name
  return filePlace host (if host.isEmpty then path else path.drop 1)

/-- The place of anything else. -/
def otherPlace? (cs : List Char) : Option Place := do
  let path (cs : List Char) := pathText (segments false (· = '/') cs)
  match cs with
  | '/' :: '/' :: cs =>
    let (authority, behind) := cutAt ['/'] cs
    let (user, host, port, rest) ← authority? otherHost? none authority
    let text := match rest ++ behind with
      | [] => ""
      | '/' :: cs => path cs
      | cs => path cs
    return ⟨user, some host, port, text⟩
  | '/' :: cs => return ⟨none, none, none, path cs⟩
  | _ => return ⟨none, none, none, String.ofList (escape [] cs)⟩

/-! ### Whole URLs -/

/-- The part behind a mark with its escapes, if the mark is there. -/
def behind? (mark : Char) (more : List Char) : List Char → Option String
  | c :: cs => if c = mark then some (String.ofList (escape more cs)) else none
  | [] => none

/-- Reads a URL that stands on its own. -/
def ofText? (s : String) : Option Url := do
  let isOuter (c : Char) : Bool := c.toNat ≤ 0x20
  let cs := ((s.toList.dropWhile isOuter).reverse.dropWhile isOuter).reverse
  let (scheme, rest) ← scheme? (cs.filter fun c => c != '\t' && c != '\n' && c != '\r')
  let usual := defaultPort? scheme
  let (rest, fragment) := cutAt ['#'] rest
  let (rest, query) := cutAt ['?'] rest
  let place ←
    if scheme = "file" then filePlace? rest else usual.elim (otherPlace? rest) (networkPlace? · rest)
  let isSpecial := usual.isSome || scheme = "file"
  return { toPlace := place, scheme, query := behind? '?' (querySet isSpecial) query,
           fragment := behind? '#' fragmentSet fragment }

/-- The text of a URL. Without a host, a path that begins with two slashes is set off by a point. -/
def text (u : Url) : String :=
  let authority := match u.host with
    | none => if u.path.startsWith "//" then "/." else ""
    | some h => "//" ++ u.user.elim "" User.text ++ h ++ u.port.elim "" fun p => ":" ++ toString p
  u.scheme ++ ":" ++ authority ++ u.path ++ u.query.elim "" ("?" ++ ·) ++ u.fragment.elim "" ("#" ++ ·)

/-- A URL without its user, if that one can be told from the text. -/
def withoutUser (u : Url) : Url :=
  if u.user.any User.isReadable then { u with user := none } else u

/-- Whether there is a host that has a name. -/
def hasHost (u : Url) : Bool := u.host.any (!·.isEmpty)

/-- Whether a URL can be fetched with HTTP. -/
def isHttp (u : Url) : Bool := u.scheme == "http" || u.scheme == "https"

/-- The octets of the longest URL that a request can have. -/
def maxLength : Nat := 65534

/-- Whether a request can have a URL. -/
def fitsRequest (u : Url) : Bool :=
  u.text.utf8ByteSize ≤ maxLength && !u.host.any fun h => h.toList.any "\"`\x7b\x7d".toList.contains

end Url

end ChatRace
