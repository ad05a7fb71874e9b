import ChatRace.Text.Blank
import ChatRace.Url.Escape

/-!
# Paths

The segments of a path in their normal form, in which no segment stands for the directory itself or for the
one above. A segment that names a drive cannot be left, and at the beginning of the path of a file its mark
is a colon.
-/

namespace ChatRace.Url

/-- Whether a segment stands for the directory itself. -/
def isSingleDot (s : List Char) : Bool :=
  [".", "%2e"].contains (String.ofList (s.map Char.toLower))

/-- Whether a segment stands for the directory above. -/
def isDoubleDot (s : List Char) : Bool :=
  ["..", ".%2e", "%2e.", "%2e%2e"].contains (String.ofList (s.map Char.toLower))

/-- Whether a text is the name of a drive: a letter and a mark. -/
def isDrive : List Char → Bool
  | [c, mark] => c.isAlpha && (mark = ':' || mark = '|')
  | _ => false

/-- Whether a segment cannot be left: it names a drive, or does so up to a backslash. -/
def isDriveRoot (s : List Char) : Bool :=
  isDrive (s.take 2) && (s.drop 2).head?.all (· = '\\')

/-- The segments of the directory above, last first. -/
def above : List (List Char) → List (List Char)
  | [] => []
  | s :: rest => if isDriveRoot s then s :: rest else rest

/-- The name of a drive with a colon as its mark. -/
def driveName (s : List Char) : List Char := s.take 1 ++ [':']

/-- Takes the segments of a path one by one; those so far stand last first. -/
def walk (isFile : Bool) (seen : List (List Char)) : List (List Char) → List (List Char)
  | [] => seen.reverse
  | s :: rest =>
    let stay (seen : List (List Char)) := if rest.isEmpty then [] :: seen else seen
    if isDoubleDot s then walk isFile (stay (above seen)) rest
    else if isSingleDot s then walk isFile (stay seen) rest
    else if isFile && seen.isEmpty && isDrive s then walk isFile (driveName s :: seen) rest
    else walk isFile (escape pathSet s :: seen) rest

/-- The segments of a path in their normal form, given the text behind the first slash. -/
def segments (isFile : Bool) (isSlash : Char → Bool) (cs : List Char) : List (List Char) :=
  walk isFile [] (Text.split isSlash cs)

/-- The text of a path. -/
def pathText (ss : List (List Char)) : String :=
  "/" ++ "/".intercalate (ss.map String.ofList)

example : pathText (segments false (· = '/') "a/./b/../c d/..".toList) = "/a/" := by decide +kernel
example : pathText (segments true (· = '/') "C|/../x".toList) = "/C:/x" := by decide +kernel

end ChatRace.Url
