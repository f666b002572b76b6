import JsonShapes.Text.Words
import JsonShapes.Value

/-!
# Headers

The headers of a request come as lines `Name: value`, as an object, or as an array of pairs.

* `parseHeaders`: the headers of lines;
* `headersOf`: the headers that a value gives.
-/

namespace JsonShapes.Request

/-! ### Lines -/

/-- A line without a colon, or with nothing but blanks before it. -/
structure HeaderFault where
  line : String
deriving DecidableEq, Repr

def HeaderFault.message (f : HeaderFault) : String :=
  "Invalid header '" ++ f.line ++ "', expected 'Name: value'"

/-- The name and the value of a header line. -/
def parseHeader (line : String) : Except HeaderFault (String × String) :=
  match Text.cut ':' line.toList with
  | (name, some value) =>
    if (Text.trim name).isEmpty then .error ⟨line⟩
    else .ok (String.ofList (Text.trim name), String.ofList (Text.trim value))
  | (_, none) => .error ⟨line⟩

/-- A header put among others: in the place of the one with its name, or at the end. -/
def putHeader (name value : String) : List (String × String) → List (String × String)
  | [] => [(name, value)]
  | (n, v) :: rest => if n = name then (name, value) :: rest else (n, v) :: putHeader name value rest

/-- The headers of lines, behind the headers `done`. -/
def parseHeadersFrom (done : List (String × String)) :
    List String → Except HeaderFault (List (String × String))
  | [] => .ok done
  | line :: rest => do
    let (name, value) ← parseHeader line
    parseHeadersFrom (putHeader name value done) rest

/-- The headers of lines: each name in the place of its first line, with the value of its last. -/
def parseHeaders (lines : List String) : Except HeaderFault (List (String × String)) :=
  parseHeadersFrom [] lines

/-! ### Values -/

/-- Why a value gives no headers. -/
inductive HeadersFault
  /-- It is not made of parts. -/
  | noParts (kind : String)
  /-- One of its parts is not made of parts. -/
  | noPair (index : Nat)
  /-- One of its parts is made of more or fewer than two. -/
  | wrongLength (index length : Nat)
  /-- A name is an array or an object. -/
  | unfitName (kind : String)
deriving DecidableEq, Repr

def HeadersFault.message : HeadersFault → String
  | noParts kind => "'" ++ kind ++ "' object is not iterable"
  | noPair index =>
    "cannot convert dictionary update sequence element #" ++ toString index ++ " to a sequence"
  | wrongLength index length =>
    "dictionary update sequence element #" ++ toString index ++ " has length " ++ toString length
      ++ "; 2 is required"
  | unfitName kind => "unhashable type: '" ++ kind ++ "'"

/-- What a value is made of: items, characters, or keys. -/
def parts? : Value → Option (List Value)
  | .array items => some items
  | .tuple items => some items
  | .string s => some (s.toList.map fun c => .string (String.ofList [c]))
  | .object fields => some (fields.map fun f => f.1.value)
  | _ => none

/-- The key that a value can be; arrays and objects can be none. -/
def keyOf (v : Value) : Except HeadersFault Key :=
  match v with
  | .string s => .ok (.name s)
  | .int i => .ok (.int i)
  | .bool b => .ok (.bool b)
  | .null => .ok .null
  | .array _ | .object _ => .error (.unfitName v.kindName)
  | v => .ok (.name v.shown)

/-- The header in the part with an index. -/
def pairOf (index : Nat) (part : Value) : Except HeadersFault (Key × Value) :=
  match parts? part with
  | none => .error (.noPair index)
  | some [name, value] => (keyOf name).map (·, value)
  | some other => .error (.wrongLength index other.length)

/-- The headers in parts, the first of which has an index, put among the headers `done`. -/
def pairsFrom (index : Nat) (done : List (Key × Value)) :
    List Value → Except HeadersFault (List (Key × Value))
  | [] => .ok done
  | part :: rest => do
    let (name, value) ← pairOf index part
    pairsFrom (index + 1) (Value.putField name value done) rest

/-- The headers that a value gives: the fields of an object, or pairs; none when it is not given. -/
def headersOf (v : Value) : Except HeadersFault (List (Key × Value)) :=
  match v with
  | .object fields => .ok fields
  | v =>
    if !v.isGiven then .ok []
    else
      match parts? v with
      | some parts => pairsFrom 0 [] parts
      | none => .error (.noParts v.kindName)

end JsonShapes.Request
