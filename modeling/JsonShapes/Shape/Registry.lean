import JsonShapes.Shape.TypeExpr

/-!
# The registry of declared types

What an inference has settled so far: the names that are taken, the declarations in the order they
were finished, and the name remembered for each signature.  A name is taken before its declaration
is finished, and a signature is remembered with it.

* `lookup`: the name remembered for a signature;
* `reserve`: takes a name, with a number behind it when it is taken already;
* `register`: records a finished declaration, and its signature unless that is remembered already.
-/

namespace JsonShapes

structure Registry where
  names : List String
  declarations : List Declaration
  /-- Signatures with the names of their types. -/
  memo : List (String × String)
deriving DecidableEq, Repr

namespace Registry

def empty : Registry := ⟨[], [], []⟩

/-- The name remembered for a signature. -/
def lookup (r : Registry) (signature : String) : Option String := r.memo.lookup signature

/-- The names to try after `candidate`: it with 2, 3, … behind it. -/
def numbered (candidate : String) (k : Nat) : String := candidate ++ toString (k + 2)

/-- A name that is not among `taken`: the candidate, or it with the least number from 2 on that
makes it new.  As many numbers as there are names, and one more, are enough. -/
def freshName (taken : List String) (candidate : String) : String :=
  if taken.contains candidate then
    (((List.range (taken.length + 1)).map (numbered candidate)).find?
      fun name => !taken.contains name).getD candidate
  else candidate

/-- Takes a fresh name for a candidate. -/
def reserve (r : Registry) (candidate : String) : String × Registry :=
  (freshName r.names candidate, { r with names := r.names ++ [freshName r.names candidate] })

/-- Records a finished declaration; the first one of a signature is remembered. -/
def register (r : Registry) (d : Declaration) : Registry :=
  { r with
    declarations := r.declarations ++ [d]
    memo := if (r.lookup d.signature).isSome then r.memo else r.memo ++ [(d.signature, d.name)] }

end Registry

end JsonShapes
