import JsonShapes.Text.Words

/-!
# Hosts in brackets

What may stand between the brackets of an authority: an IPv6 address, with a zone perhaps, or an
address of a later version, marked by a `v`.
-/

namespace JsonShapes.Url

open Text

def isHexDigit (c : Char) : Bool :=
  c.isDigit || ('a' ≤ c && c ≤ 'f') || ('A' ≤ c && c ≤ 'F')

/-- One to four hexadecimal digits. -/
def isHextet (cs : List Char) : Bool := !cs.isEmpty && cs.length ≤ 4 && cs.all isHexDigit

/-- A number up to 255 in ASCII digits without a leading zero. -/
def isOctet (cs : List Char) : Bool :=
  !cs.isEmpty && cs.length ≤ 3 && cs.all Char.isDigit && (cs == ['0'] || cs.head? != some '0')
    && cs.foldl (fun n c => n * 10 + (c.toNat - 0x30)) 0 ≤ 255

/-- Four octets between points. -/
def isDotted (cs : List Char) : Bool :=
  (pieces '.' cs).length == 4 && (pieces '.' cs).all isOctet

/-- The number of hextets of one side of a double colon; none if they are no hextets. -/
def sideLength (side : List (List Char)) : Option Nat :=
  if side == [[]] then some 0
  else if side.all isHextet then some side.length
  else none

/-- Whether parts between colons are the hextets of an address.  An empty part inside stands for
the zeros that are left out, one at least. -/
def areHextets (parts : List (List Char)) : Bool :=
  let inner := (parts.drop 1).dropLast
  match inner.count [] with
  | 0 => parts.length == 8 && parts.all isHextet
  | 1 =>
    let gap := inner.idxOf [] + 1
    match sideLength (parts.take gap), sideLength (parts.drop (gap + 1)) with
    | some before, some behind => before + behind ≤ 7
    | _, _ => false
  | _ => false

/-- The parts of an address between its colons; a dotted last part counts as two hextets. -/
def colonParts (cs : List Char) : Option (List (List Char)) :=
  let parts := pieces ':' cs
  let last := parts.getLastD []
  if parts.length < 3 then none
  else if last.contains '.' then
    if isDotted last then some (parts.dropLast ++ [['0'], ['0']]) else none
  else some parts

/-- An IPv6 address, with a zone behind a percent sign perhaps. -/
def isIpv6 (cs : List Char) : Bool :=
  let (address, zone) := cut '%' cs
  (match zone with
    | none => true
    | some name => !name.isEmpty && !name.contains '%') &&
  (match colonParts address with
    | some parts => areHextets parts
    | none => false)

/-- An address of a later version: `v`, hexadecimal digits, a point, and anything. -/
def isLaterVersion (cs : List Char) : Bool :=
  let digits := (cs.drop 1).takeWhile isHexDigit
  cs.head? == some 'v' && !digits.isEmpty &&
    (match cs.drop (1 + digits.length) with
      | '.' :: _ :: _ => true
      | _ => false)

/-- Whether a host may stand in brackets. -/
def isBracketable (cs : List Char) : Bool :=
  if cs.head? == some 'v' then isLaterVersion cs else isIpv6 cs

end JsonShapes.Url
