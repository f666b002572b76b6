/-!
# The double nearest to a decimal

A decimal is a numeral and a power of ten.  Exponents far outside the range of doubles are decided
without building the power.
-/

namespace JsonShapes.Decimal

/-- The double nearest to `numeral * 10 ^ exponent`, an infinity above the largest one. -/
def nearest (numeral : Nat) (exponent : Int) : Float :=
  if numeral == 0 then 0.0
  else if exponent > 400 then Float.ofBits 0x7FF0000000000000
  else if -exponent > numeral.log2 + 400 then 0.0
  else Float.ofScientific numeral (exponent < 0) exponent.natAbs

/-- The value of a run of ASCII digits. -/
def ofDigits (cs : List Char) : Nat := cs.foldl (fun n c => n * 10 + (c.toNat - 0x30)) 0

/-- The double named by digits, decimals and a power of ten, with a sign. -/
def ofParts (negative : Bool) (whole decimals : List Char) (exponent : Int) : Float :=
  let magnitude := nearest (ofDigits (whole ++ decimals)) (exponent - decimals.length)
  if negative then -magnitude else magnitude

end JsonShapes.Decimal
