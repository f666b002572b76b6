/-!
# Type expressions and declarations

A position of a value has a type expression; every object shape has a declaration, a named record
type.
-/

namespace JsonShapes

/-- The type of a position. -/
inductive TypeExpr
  | primitive (keyword : String)
  | array (item : TypeExpr)
  /-- The declared type of that name. -/
  | ref (name : String)
  /-- What stands in the place of a type and is none, known by how messages show it. -/
  | unsupported (shown : String)
deriving DecidableEq, Repr, Inhabited

namespace TypeExpr

def any : TypeExpr := primitive "any"
def boolean : TypeExpr := primitive "boolean"
def number : TypeExpr := primitive "number"
def string : TypeExpr := primitive "string"
def date : TypeExpr := primitive "Date"

end TypeExpr

/-- A field of a declared type, under its emitted name. -/
structure Field where
  name : String
  type : TypeExpr
deriving DecidableEq, Repr

/-- A named record type, made for the objects of one signature. -/
structure Declaration where
  name : String
  signature : String
  fields : List Field
deriving DecidableEq, Repr

end JsonShapes
