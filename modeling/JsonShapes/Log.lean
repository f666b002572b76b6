/-!
# Log records

What a run tells about itself: records with a level, the part of the program they come from, and a
message.
-/

namespace JsonShapes

/-- How grave a record is. -/
inductive Level
  | debug
  | info
  | warning
  | error
deriving DecidableEq, Repr

def Level.text : Level → String
  | debug => "DEBUG"
  | info => "INFO"
  | warning => "WARNING"
  | error => "ERROR"

/-- Whether a record is shown when only warnings and errors are asked for. -/
def Level.isGrave : Level → Bool
  | debug | info => false
  | warning | error => true

/-- The part of the program a record comes from. -/
inductive Origin
  | shapes
  | definitions
  | exchange
  | requests
  | files
deriving DecidableEq, Repr

def Origin.text : Origin → String
  | shapes => "quicktypegen.shape_inference"
  | definitions => "quicktypegen.jsontots"
  | exchange => "quicktypegen.httpclient"
  | requests => "quicktypegen.urltots"
  | files => "quicktypegen.filemanager"

structure Record where
  level : Level
  origin : Origin
  message : String
deriving DecidableEq, Repr

def Record.line (r : Record) : String := r.level.text ++ " " ++ r.origin.text ++ ": " ++ r.message

/-- Records in the order they were made. -/
abbrev Log := List Record

end JsonShapes
