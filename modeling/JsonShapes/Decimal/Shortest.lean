/-!
# The shortest decimal of a double

The fewest digits that read back as the double; of those, the decimal nearest to it.
-/

namespace JsonShapes.Decimal

/-- A positive double `mantissa * 2 ^ exponent`; `isPower` says that the gap below it is half the
gap above it. -/
structure Binary where
  mantissa : Nat
  exponent : Int
  isPower : Bool

/-- The number of fractions, two to the power 52. -/
def fractionSize : Nat := 0x10000000000000

/-- The parts of the magnitude of a finite double. -/
def binaryOfBits (bits : UInt64) : Binary :=
  let fraction : Nat := bits.toNat % fractionSize
  let biased : Nat := bits.toNat / fractionSize % 0x800
  if biased == 0 then ⟨fraction, -1074, false⟩
  else ⟨fraction + fractionSize, (biased : Int) - 1075, fraction == 0 && biased > 1⟩

/-- Compares `a * 2 ^ p` with `b * 10 ^ q`. -/
def compareScaled (a : Nat) (p : Int) (b : Nat) (q : Int) : Ordering :=
  compare (a * Nat.pow 2 p.toNat * Nat.pow 10 (-q).toNat)
    (b * Nat.pow 10 q.toNat * Nat.pow 2 (-p).toNat)

/-- The largest power of ten that is not above the number. -/
def Binary.magnitude (x : Binary) : Int :=
  let estimate := (x.exponent + x.mantissa.log2) * 30103 / 100000
  if compareScaled x.mantissa x.exponent 1 (estimate + 1) != .lt then estimate + 1
  else if compareScaled x.mantissa x.exponent 1 estimate != .lt then estimate
  else estimate - 1

/-- Whether `b * 10 ^ q` lies among the reals that round to the number; the ends do when the
mantissa is even. -/
def Binary.roundsFrom (x : Binary) (b : Nat) (q : Int) : Bool :=
  let low := compareScaled (4 * x.mantissa - (if x.isPower then 1 else 2)) (x.exponent - 2) b q
  let high := compareScaled (4 * x.mantissa + 2) (x.exponent - 2) b q
  let closed := x.mantissa % 2 == 0
  (low == .lt || closed && low == .eq) && (high == .gt || closed && high == .eq)

/-- The multiple of `10 ^ q` just below the number, or on it. -/
def Binary.floorAt (x : Binary) (q : Int) : Nat :=
  x.mantissa * Nat.pow 2 x.exponent.toNat * Nat.pow 10 (-q).toNat
    / (Nat.pow 10 q.toNat * Nat.pow 2 (-x.exponent).toNat)

/-- On the grid of the multiples of `10 ^ q`, the nearer neighbour of the number that reads back;
between equally near ones the even one. -/
def Binary.onGrid? (x : Binary) (q : Int) : Option Nat :=
  let below := x.floorAt q
  match x.roundsFrom below q && below != 0, x.roundsFrom (below + 1) q with
  | true, true =>
    match compareScaled (2 * x.mantissa) x.exponent (2 * below + 1) q with
    | .lt => some below
    | .gt => some (below + 1)
    | .eq => some (if below % 2 == 0 then below else below + 1)
  | true, false => some below
  | false, true => some (below + 1)
  | false, false => none

/-- The first grid with a hit, from one digit to seventeen. -/
def Binary.shortest (x : Binary) : Nat × Int :=
  let start := x.magnitude
  let grids := (List.range 17).map fun (n : Nat) => start - n
  (grids.findSome? fun q => (x.onGrid? q).map (·, q)).getD (x.floorAt (start - 16), start - 16)

/-! ### Text -/

/-- How the digits of a number are laid out. -/
structure Layout where
  /-- The least and the first too large power of ten that are written without an exponent. -/
  leastPositional : Int
  firstScientific : Int
  exponentDigits : Nat

/-- Numbers from 1e-4 up to 1e16 are written positionally, others with two digits of exponent. -/
def layout : Layout := ⟨-4, 16, 2⟩

/-- Digits without trailing zeros, and the power of ten of the first one. -/
def significant (d : Nat) (q : Int) : List Char × Int :=
  let digits := Nat.toDigits 10 d
  let kept := (digits.reverse.dropWhile (· == '0')).reverse
  (if kept.isEmpty then ['0'] else kept, q + digits.length - 1)

/-- The text of a positive decimal. -/
def Layout.write (l : Layout) (d : Nat) (q : Int) : List Char :=
  let (digits, power) := significant d q
  if l.leastPositional ≤ power && power < l.firstScientific then
    if power < 0 then '0' :: '.' :: List.replicate (power.natAbs - 1) '0' ++ digits
    else
      let whole := digits.take (power.natAbs + 1)
      let rest := digits.drop (power.natAbs + 1)
      whole ++ List.replicate (power.natAbs + 1 - whole.length) '0' ++
        '.' :: (if rest.isEmpty then ['0'] else rest)
  else
    let exponent := Nat.toDigits 10 power.natAbs
    digits.take 1 ++ (if digits.length > 1 then '.' :: digits.drop 1 else []) ++
      'e' :: (if power < 0 then '-' else '+') ::
        List.replicate (l.exponentDigits - exponent.length) '0' ++ exponent

/-- The shortest text that reads back as the double. -/
def floatChars (x : Float) : List Char :=
  if x.isNaN then "nan".toList
  else
    let bits := x.toBits
    let sign := if bits.toNat ≥ 0x8000000000000000 then ['-'] else []
    if x.isInf then sign ++ "inf".toList
    else
      let binary := binaryOfBits bits
      if binary.mantissa == 0 then sign ++ "0.0".toList
      else sign ++ layout.write binary.shortest.1 binary.shortest.2

def floatText (x : Float) : String := String.ofList (floatChars x)

end JsonShapes.Decimal
