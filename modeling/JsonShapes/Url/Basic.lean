import JsonShapes.Text.Case
import JsonShapes.Url.Bracketed

/-!
# URLs

A URL is cut into its scheme, its authority and its path.  The query, the fragment and the
parameters of the last path segment are left out, since nothing here depends on them.

* `Url.parse?`: the parts of a text, none when its authority is not well formed;
* `Url.host?`: the host of the authority.
-/

namespace JsonShapes

open Text

structure Url where
  scheme : List Char
  authority : List Char
  path : List Char
deriving DecidableEq, Repr

namespace Url

/-- Characters that may stand in a scheme. -/
def isSchemeChar (c : Char) : Bool := c.isAlphanum || c == '+' || c == '-' || c == '.'

/-- The text without leading controls and blanks, and without tabs and line ends anywhere. -/
def clean (cs : List Char) : List Char :=
  (cs.dropWhile fun c => c.toNat ≤ 0x20).filter fun c => c != '\t' && c != '\r' && c != '\n'

/-- The scheme before the first colon, in lower case, and the rest; an empty scheme and the whole
text when there is none. -/
def splitScheme (cs : List Char) : List Char × List Char :=
  match cut ':' cs with
  | (c :: scheme, some rest) =>
    if c.isAlpha && scheme.all isSchemeChar then ((c :: scheme).map Char.toLower, rest)
    else ([], cs)
  | _ => ([], cs)

/-- The authority behind two slashes, and the rest. -/
def splitAuthority : List Char → List Char × List Char
  | '/' :: '/' :: rest =>
    let inside := fun c => c != '/' && c != '?' && c != '#'
    (rest.takeWhile inside, rest.dropWhile inside)
  | cs => ([], cs)

/-- The schemes whose paths may end in parameters. -/
def parametrisedSchemes : List String :=
  ["", "ftp", "hdl", "prospero", "http", "imap", "https", "shttp", "rtsp", "rtsps", "rtspu", "sip",
    "sips", "mms", "sftp", "tel"]

/-- A path without the parameters behind the first semicolon of its last segment. -/
def dropParameters (cs : List Char) : List Char :=
  uptoLast '/' cs ++ (cut ';' (afterLast '/' cs)).1

/-- The path at the head of what follows the authority. -/
def pathOf (scheme rest : List Char) : List Char :=
  let path := (cut '?' (cut '#' rest).1).1
  if parametrisedSchemes.contains (String.ofList scheme) then dropParameters path else path

/-! ### Well-formed authorities -/

/-- Characters whose compatibility form holds a slash, a question mark, a number sign, an at sign
or a colon. -/
def disguisedDelimiters : CharSet := ⟨[
  (0x2047, 0x2049), (0x2100, 0x2101), (0x2105, 0x2106), (0x2A74, 0x2A74), (0xFE13, 0xFE13),
  (0xFE16, 0xFE16), (0xFE55, 0xFE56), (0xFE5F, 0xFE5F), (0xFE6B, 0xFE6B), (0xFF03, 0xFF03),
  (0xFF0F, 0xFF0F), (0xFF1A, 0xFF1A), (0xFF1F, 0xFF20)]⟩

/-- Whether the brackets of an authority stand around its host, and the host may be there. -/
def bracketsFit (authority : List Char) : Bool :=
  let hostAndPort := afterLast '@' authority
  match cut '[' hostAndPort with
  | (before, some inside) =>
    let (host, behind) := cut ']' inside
    before.isEmpty && isBracketable host &&
      (match behind with
        | some (c :: _) => c == ':'
        | _ => true)
  | (_, none) => isBracketable (cut ':' hostAndPort).1

/-- Whether an authority is well formed: no disguised delimiter, and no brackets or fitting ones. -/
def isAuthority (authority : List Char) : Bool :=
  let opens := authority.contains '['
  let closes := authority.contains ']'
  opens == closes && (!opens || bracketsFit authority) && !authority.any disguisedDelimiters.has

/-- The parts of a URL. -/
def parse? (text : String) : Option Url :=
  let (scheme, rest) := splitScheme (clean text.toList)
  let (authority, rest) := splitAuthority rest
  if isAuthority authority then some ⟨scheme, authority, pathOf scheme rest⟩ else none

/-! ### Hosts -/

/-- The host of an authority: behind the last at sign, inside brackets or up to a colon. -/
def hostChars (authority : List Char) : List Char :=
  let hostAndPort := afterLast '@' authority
  match cut '[' hostAndPort with
  | (_, some inside) => (cut ']' inside).1
  | (_, none) => (cut ':' hostAndPort).1

/-- A host in lower case; a zone keeps its case. -/
def lowerHost (cs : List Char) : List Char :=
  match cut '%' cs with
  | (name, some zone) => lower name ++ '%' :: zone
  | (name, none) => lower name

/-- The host, none when it is empty. -/
def host? (u : Url) : Option String :=
  match lowerHost (hostChars u.authority) with
  | [] => none
  | cs => some (String.ofList cs)

/-- Whether a URL names both a scheme and an authority. -/
def isAbsolute (u : Url) : Bool := !u.scheme.isEmpty && !u.authority.isEmpty

end Url

end JsonShapes
