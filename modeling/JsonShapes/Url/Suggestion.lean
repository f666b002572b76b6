import JsonShapes.Naming
import JsonShapes.Url.Basic

/-!
# Names suggested by a URL

The last path segment of a URL suggests what its definitions are called.
-/

namespace JsonShapes.Url

/-- Hyphens and underscores separate the words of a path segment. -/
def separatesSegment (c : Char) : Bool := c == '-' || c == '_'

/-- The last path segment that is not empty. -/
def lastSegment? (path : List Char) : Option (List Char) :=
  ((Text.pieces '/' path).filter fun s => !s.isEmpty).getLast?

/-- The words of the last path segment, capitalised and joined, and `ending` behind them; none when
the URL has no such segment or nothing remains. -/
def nameFrom? (url ending : String) : Option String := do
  let parsed ← parse? url
  guard parsed.isAbsolute
  let segment ← lastSegment? parsed.path
  let name := (Text.words separatesSegment segment).flatMap Naming.titleChars ++ ending.toList
  guard !name.isEmpty
  return String.ofList name

/-- What follows the words of a root name and of a file name. -/
def rootNameEnding : String := "Response"
def fileNameEnding : String := "Types"

/-- The file name of definitions without a better one. -/
def defaultFileName : String := "ApiTypes"

/-- The root name that a URL suggests. -/
def suggestRootName (url ending fallback : String) : String := (nameFrom? url ending).getD fallback

/-- The file name that a URL suggests, without its extension; else the name of the root type. -/
def suggestFileName (url : String) (root : Option String) : String :=
  match nameFrom? url fileNameEnding, root with
  | some name, _ => name
  | none, some name => if name.isEmpty then defaultFileName else name
  | none, none => defaultFileName

end JsonShapes.Url
