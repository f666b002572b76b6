/-!
# Rejections

The errors that the program raises itself: what is wrong, and perhaps where.
-/

namespace JsonShapes

/-- The kinds of rejection. -/
inductive RejectionKind
  | general
  | invalidInput
  | inference
deriving DecidableEq, Repr

/-- A failure of the generation. -/
structure Rejection where
  kind : RejectionKind
  message : String
  /-- The input or the name concerned. -/
  context : Option String
deriving DecidableEq, Repr

namespace Rejection

/-- A message with its context behind it, unless that is missing or empty. -/
def withContext (message : String) : Option String → String
  | none => message
  | some context => if context.isEmpty then message else message ++ " (context: " ++ context ++ ")"

def text (r : Rejection) : String := withContext r.message r.context

/-- The rejection that stands for a failure inside the generation. -/
def inference (cause : String) (context : Option String) : Rejection :=
  ⟨.inference, "Failed to generate types: " ++ cause, context⟩

end Rejection

/-- A failure to retrieve a body: a message, a code for programs, and a status. -/
structure ApiError where
  message : String
  code : String
  status : Int
deriving DecidableEq, Repr

end JsonShapes
