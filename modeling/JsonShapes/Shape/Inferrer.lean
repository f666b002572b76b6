import JsonShapes.Shape.Inference

/-!
# Inferrers

One registry can serve several values, one after the other: the names and signatures settled for
earlier values hold for later ones.
-/

namespace JsonShapes

open Inference (Failure Hint)

/-- What types values one after the other. -/
structure Inferrer where
  dates : Bool
  registry : Registry
deriving DecidableEq, Repr

namespace Inferrer

/-- An inferrer that has not typed anything yet. -/
def fresh (dates : Bool) : Inferrer := ⟨dates, .empty⟩

/-- Types a value.  A hint that fails does so before anything is put into the registry; a walk that
stops leaves behind what it has put there. -/
def infer (i : Inferrer) (v : Value) (hint : Hint) : Except Failure TypeExpr × Inferrer :=
  match Inference.start i.dates v hint i.registry with
  | .ok found => (.ok found.type, { i with registry := found.registry })
  | .error (.hint fault) => (.error (.hint fault), i)
  | .error (.stopped left events) => (.error (.stopped left events), { i with registry := left })

/-- The inferrer behind a sequence of values. -/
def run (i : Inferrer) (calls : List (Value × Hint)) : Inferrer :=
  calls.foldl (fun j call => (j.infer call.1 call.2).2) i

end Inferrer

end JsonShapes
