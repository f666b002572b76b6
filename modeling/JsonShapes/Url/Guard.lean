import JsonShapes.Rejection
import JsonShapes.Url.Basic

/-!
# URLs that may be fetched

Only web addresses are fetched, and none of the local machine or a private network.
-/

namespace JsonShapes.Url

/-- A letter as it counts in a comparison that ignores case. -/
def foldCase (c : Char) : Char := if c == 'ſ' then 's' else c.toLower

/-- A text without one line feed at its end. -/
def dropFinalLineFeed (cs : List Char) : List Char :=
  if cs.getLast? == some '\n' then cs.dropLast else cs

/-- What the addresses of private networks and of the local machine start with. -/
def localPrefixes : List (List Char) :=
  ["127.".toList, "192.168.".toList, "10.".toList] ++
    (List.range 16).map fun n => "172.".toList ++ Nat.toDigits 10 (16 + n) ++ ['.']

/-- Whether a host names the local machine or a private network. -/
def isLocalAddress (host : String) : Bool :=
  let cs := host.toList
  (dropFinalLineFeed cs).map foldCase == "localhost".toList
    || dropFinalLineFeed cs == "::1".toList
    || localPrefixes.any (·.isPrefixOf cs)
    || "fe80:".toList.isPrefixOf (cs.map foldCase)

/-- Why a URL is not fetched. -/
inductive Refusal
  | malformed
  | otherProtocol
  | localAddress
deriving DecidableEq, Repr

def Refusal.error : Refusal → ApiError
  | malformed => ⟨"Invalid URL format", "INVALID_URL", 400⟩
  | otherProtocol => ⟨"Only HTTP and HTTPS protocols are allowed", "INVALID_PROTOCOL", 400⟩
  | localAddress =>
    ⟨"Local addresses are not allowed for security reasons", "LOCAL_ADDRESS_NOT_ALLOWED", 400⟩

/-- The schemes that are fetched. -/
def webSchemes : List (List Char) := ["http".toList, "https".toList]

/-- Why a text is not fetched as a URL, if it is not. -/
def refusal? (text : String) : Option Refusal :=
  match parse? text with
  | none => some .malformed
  | some url =>
    match url.host? with
    | none => some .malformed
    | some host =>
      if url.scheme.isEmpty then some .malformed
      else if !webSchemes.contains url.scheme then some .otherProtocol
      else if isLocalAddress host then some .localAddress
      else none

end JsonShapes.Url
