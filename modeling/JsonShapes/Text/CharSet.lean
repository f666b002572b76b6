/-!
# Sets of characters

A set of characters is written down as its ranges of code points.
-/

namespace JsonShapes.Text

/-- A set of characters: inclusive ranges of code points, in ascending order and apart. -/
structure CharSet where
  ranges : List (Nat × Nat)

/-- Whether one of the ranges holds `n`; the search stops at the first range that starts above it. -/
def covers : List (Nat × Nat) → Nat → Bool
  | [], _ => false
  | (first, last) :: rest, n =>
    if n < first then false else if n ≤ last then true else covers rest n

/-- Membership. -/
def CharSet.has (s : CharSet) (c : Char) : Bool := covers s.ranges c.toNat

/-- The distance of `n` from the start of the range that holds it. -/
def offsetIn : List (Nat × Nat) → Nat → Option Nat
  | [], _ => none
  | (first, last) :: rest, n =>
    if n < first then none else if n ≤ last then some (n - first) else offsetIn rest n

end JsonShapes.Text
