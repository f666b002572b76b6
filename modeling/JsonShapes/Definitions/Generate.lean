import JsonShapes.Definitions.Render
import JsonShapes.Json.Reader
import JsonShapes.Rejection

/-!
# Generation

A value becomes a definitions text: it is walked, and what was found is written down.
-/

namespace JsonShapes

open Inference (Hint)

/-- The name of a root that is given none. -/
def defaultRootName : String := "ApiResponse"

namespace Definitions

/-- Why there are no definitions. -/
inductive Failure
  | rejected (rejection : Rejection)
  /-- There is a rejection that cannot be told: its context cannot be shown. -/
  | untold
deriving DecidableEq, Repr

def Failure.message : Failure → String
  | rejected rejection => rejection.text
  | untold => Json.unwrittenIntegerText

/-- A definitions text or why there is none, and what was logged. -/
structure Generated where
  outcome : Except Failure String
  log : Log

/-- The hint as the context of a rejection. -/
def hintContext : Hint → Option String
  | .text s => some s
  | .other .null => none
  | .other v => some v.display

/-- Whether a hint can be shown as a context. -/
def canShow : Hint → Bool
  | .text _ => true
  | .other v => v.isShort && v.nesting ≤ Json.maxDepth

/-- The failure that a fault leads to. -/
def failure (root : Hint) (cause : String) : Failure :=
  if canShow root then .rejected (Rejection.inference cause (hintContext root)) else .untold

/-- The end with a fault, after the records of what went before it. -/
def failed (root : Hint) (before : Log) (cause : String) : Generated :=
  ⟨.error (failure root cause),
    before ++ [⟨.error, .definitions, "Type generation failed: " ++ cause⟩]⟩

/-- The record of a finished inference. -/
def inferredRecord (count : Nat) (root : Hint) : Record :=
  ⟨.debug, .definitions, "Inferred " ++ toString count ++ " declarations for "
    ++ (hintContext root).getD "None"⟩

/-- Generates the definitions of a value. -/
def generate (v : Value) (root : Hint) (dates : Bool) (now : Moment) : Generated :=
  match v with
  | .null => ⟨.error (.rejected ⟨.invalidInput, "No data provided for type generation", none⟩), []⟩
  | v =>
    match Inference.start dates v root .empty with
    | .error fault => failed root (fault.events.map (·.record)) fault.message
    | .ok found =>
      let declarations := found.registry.declarations
      let log := found.events.map (·.record) ++ [inferredRecord declarations.length root]
      match render declarations root found.type now with
      | .ok text => ⟨.ok text, log⟩
      | .error fault => failed root log fault.message

end Definitions

end JsonShapes
