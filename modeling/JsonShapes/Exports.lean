/-!
# Public names

The names under which the functions of the program can be asked for, and where each is defined.
-/

namespace JsonShapes.Exports

/-- What a public name stands for: a function under its own name in a module, or a module. -/
inductive Item
  | function (name module : String)
  | module (name : String)
deriving DecidableEq, Repr

/-- The name of the whole program. -/
def package : String := "quicktypegen"

/-- The public functions: the public name, the module, and the name in it. -/
def functions : List (String × String × String) := [
  ("generate", "jsontots", "generate"),
  ("convert_json_to_typescript", "jsontots", "convert_json_to_typescript"),
  ("convert_json_value_to_typescript", "jsontots", "generate"),
  ("convert_url_to_typescript", "urltots", "convert_url_to_typescript"),
  ("process_request", "urltots", "process_request"),
  ("infer_types", "shape_inference", "infer_types"),
  ("is_valid_json_data", "common", "is_valid_json_data"),
  ("suggest_root_name", "common", "suggest_root_name"),
  ("to_pascal_case", "common", "to_pascal_case"),
  ("fetch_json", "httpclient", "fetch_json"),
  ("save_type_file", "filemanager", "save_type_file"),
  ("validate_request", "validate", "validate_request")]

/-- The modules that can be asked for. -/
def modules : List String := ["_version", "common", "constants", "errors", "filemanager",
  "httpclient", "jsontots", "quicktypegen", "shape_inference", "urltots", "validate"]

/-- A name of the program, behind its own. -/
def qualified (name : String) : String := package ++ "." ++ name

/-- Why a name stands for nothing. -/
structure Unknown where
  name : String
deriving DecidableEq, Repr

def Unknown.message (u : Unknown) : String := "No module named '" ++ qualified u.name ++ "'"

/-- What a public name stands for; functions come before modules. -/
def resolve (name : String) : Except Unknown Item :=
  match functions.lookup name with
  | some (home, own) => .ok (.function own (qualified home))
  | none => if modules.contains name then .ok (.module (qualified name)) else .error ⟨name⟩

end JsonShapes.Exports
