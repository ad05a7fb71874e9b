import ChatRace.Http.MediaType

/-!
# Requests

A request as it comes from a client. What is asked for is named by a target: a path, or a whole URL.
-/

namespace ChatRace.Http

/-- A request. -/
structure Request where
  method : String
  /-- A path, or a URL with a path; a query and a fragment may follow. -/
  target : String
  headers : Headers
  body : List UInt8

namespace Request

/-- What stands behind the scheme of a URL; nothing if it has none. -/
def behindScheme? : List Char → Option (List Char)
  | ':' :: '/' :: '/' :: rest => some rest
  | c :: rest => if c.isAlphanum || "+-.".toList.contains c then behindScheme? rest else none
  | [] => none

/-- The path in a target without query and fragment. A URL that ends after its host has the path `/`, and a
host that stands alone has none. -/
def pathOf (target : List Char) : List Char :=
  if target.head? = some '/' || target = ['*'] then target
  else
    match behindScheme? target with
    | none => []
    | some rest =>
      match rest.dropWhile (· != '/') with
      | [] => ['/']
      | path => path

/-- The path of a request. -/
def path (r : Request) : String :=
  String.ofList (pathOf (r.target.toList.takeWhile fun c => c != '?' && c != '#'))

end Request

end ChatRace.Http
