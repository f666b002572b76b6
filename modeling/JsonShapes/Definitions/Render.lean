import JsonShapes.Calendar
import JsonShapes.Shape.Inference

/-!
# Definitions as text

Declarations are written as interfaces, the root as an alias, below a header that tells when.
-/

namespace JsonShapes.Definitions

open Inference (Hint HintFault)

/-- Why definitions cannot be written. -/
inductive Fault
  /-- The moment lies outside the calendar once put into universal time. -/
  | dateOutOfRange
  /-- Something stands in the place of a type and is none. -/
  | unsupportedType (shown : String)
  | hint (fault : HintFault)

def Fault.message : Fault → String
  | dateOutOfRange => "date value out of range"
  | unsupportedType shown => "Unsupported type expression: " ++ shown
  | hint fault => fault.message

/-- The text of a type. -/
def typeText : TypeExpr → Except Fault String
  | .primitive keyword => .ok keyword
  | .array item => (typeText item).map (· ++ "[]")
  | .ref name => .ok name
  | .unsupported shown => .error (.unsupportedType shown)

/-- The line of a field, after a line feed. -/
def fieldLine (name type : String) : String := "\n  " ++ name ++ ": " ++ type ++ ";"

/-- The lines of fields. -/
def fieldLines : List Field → Except Fault String
  | [] => .ok ""
  | f :: rest => do
    let type ← typeText f.type
    let lines ← fieldLines rest
    return fieldLine f.name type ++ lines

/-- A declaration as an interface. -/
def interfaceBlock (d : Declaration) : Except Fault String := do
  let lines ← fieldLines d.fields
  return "interface " ++ d.name ++ " \x7b" ++ lines ++ "\n\x7d"

/-- The alias that exports the root type. -/
def aliasLine (name type : String) : String := "export type " ++ name ++ " = " ++ type ++ ";"

/-- The name the header gives the program. -/
def toolName : String := "quicktypegen"

def header (stamp : String) : String :=
  "/**\n * Auto-generated TypeScript type definitions\n * Generated by " ++ toolName
    ++ "\n * Generated at: " ++ stamp ++ "\n */"

/-- The stamp of a moment, or the fault that it has none. -/
def stamp (now : Moment) : Except Fault String :=
  match now.stamp? with
  | some text => .ok text
  | none => .error .dateOutOfRange

/-- The blocks of a definitions text below its header: the interfaces in order, then the alias. -/
def blocks (root : Hint) (rootType : TypeExpr) : List Declaration → Except Fault (List String)
  | [] => do
    let type ← typeText rootType
    let name ← root.typeName.mapError .hint
    return [aliasLine name type]
  | d :: rest => do
    let block ← interfaceBlock d
    let others ← blocks root rootType rest
    return block :: others

/-- A whole definitions text. -/
def render (declarations : List Declaration) (root : Hint) (rootType : TypeExpr) (now : Moment) :
    Except Fault String := do
  let written ← stamp now
  let parts ← blocks root rootType declarations
  return String.intercalate "\n\n" (header written :: parts)

end JsonShapes.Definitions
