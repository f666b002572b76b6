import JsonShapes.Decimal.Shortest
import JsonShapes.Json.Fault
import JsonShapes.Text.Quoted

/-!
# Values

The values that are typed: JSON values, with their object fields in order, and three further kinds
that a caller may hand over: tuples, which count as arrays, mappings whose keys are no texts, and
things that are no JSON value at all.
-/

namespace JsonShapes

/-- The key of a field. -/
inductive Key
  | name (s : String)
  | int (i : Int)
  | bool (b : Bool)
  | null
deriving DecidableEq, Repr

/-- Whether a key can be written out: an integer that is too long cannot. -/
def Key.isShort : Key → Bool
  | .int i => Json.isShort i
  | _ => true

/-- The text a key stands for. -/
def Key.text : Key → String
  | .name s => s
  | .int i => toString i
  | .bool true => "True"
  | .bool false => "False"
  | .null => "None"

/-- A value to be typed. -/
inductive Value
  | null
  | bool (b : Bool)
  | int (i : Int)
  | float (x : Float)
  | string (s : String)
  | array (items : List Value)
  /-- An array that cannot be changed; it is typed as one. -/
  | tuple (items : List Value)
  /-- The fields in order, with distinct keys. -/
  | object (fields : List (Key × Value))
  /-- Something that is no JSON value. -/
  | foreign
deriving Repr

instance : Inhabited Value := ⟨.null⟩

/-- A key as a value. -/
def Key.value : Key → Value
  | .name s => .string s
  | .int i => .int i
  | .bool b => .bool b
  | .null => .null

namespace Value

/-- Whether a value counts as given: nulls, zeros and empty things do not. -/
def isGiven : Value → Bool
  | null => false
  | bool b => b
  | int i => i != 0
  | float x => x != 0.0
  | string s => !s.isEmpty
  | array items => !items.isEmpty
  | tuple items => !items.isEmpty
  | object fields => !fields.isEmpty
  | foreign => true

/-- The value of a field, null when there is none. -/
def fieldOf (fields : List (Key × Value)) (name : String) : Value :=
  (fields.lookup (.name name)).getD null

/-- A field put into an object: in the place of the field with its key, or at the end. -/
def putField (k : Key) (v : Value) : List (Key × Value) → List (Key × Value)
  | [] => [(k, v)]
  | (k', v') :: rest => if k' = k then (k, v) :: rest else (k', v') :: putField k v rest

/-- The value itself when it counts as given, else `fallback`. -/
def orElse (v fallback : Value) : Value := if v.isGiven then v else fallback

def isObject : Value → Bool
  | object _ => true
  | _ => false

def isString : Value → Bool
  | string _ => true
  | _ => false

/-- Whether every part of the value has a JSON form. -/
def isWritable : Value → Bool
  | int i => Json.isShort i
  | array items => allWritable items
  | tuple items => allWritable items
  | object fields => allFieldsWritable fields
  | foreign => false
  | _ => true
where
  allWritable : List Value → Bool
    | [] => true
    | v :: rest => v.isWritable && allWritable rest
  allFieldsWritable : List (Key × Value) → Bool
    | [] => true
    | (k, v) :: rest => k.isShort && v.isWritable && allFieldsWritable rest

/-- How deep arrays and objects lie in each other. -/
def nesting : Value → Nat
  | array items => nestingOfItems items + 1
  | tuple items => nestingOfItems items + 1
  | object fields => nestingOfFields fields + 1
  | _ => 0
where
  nestingOfItems : List Value → Nat
    | [] => 0
    | v :: rest => max v.nesting (nestingOfItems rest)
  nestingOfFields : List (Key × Value) → Nat
    | [] => 0
    | (_, v) :: rest => max v.nesting (nestingOfFields rest)

/-! ### Values in messages -/

/-- Whether all integers in a value can be written out. -/
def isShort : Value → Bool
  | int i => Json.isShort i
  | array items => allShort items
  | tuple items => allShort items
  | object fields => allFieldsShort fields
  | _ => true
where
  allShort : List Value → Bool
    | [] => true
    | v :: rest => v.isShort && allShort rest
  allFieldsShort : List (Key × Value) → Bool
    | [] => true
    | (k, v) :: rest => k.isShort && v.isShort && allFieldsShort rest

/-- The text of a key among others. -/
def shownKey : Key → String
  | .name s => Text.quoted s
  | k => k.text

mutual

/-- A value as messages show it inside another one. -/
def shown : Value → String
  | null => "None"
  | bool true => "True"
  | bool false => "False"
  | int i => toString i
  | float x => Decimal.floatText x
  | string s => Text.quoted s
  | array items => "[" ++ shownItems items ++ "]"
  | tuple [v] => "(" ++ shown v ++ ",)"
  | tuple items => "(" ++ shownItems items ++ ")"
  | object fields => "\x7b" ++ shownFields fields ++ "\x7d"
  | foreign => "<object>"

def shownItems : List Value → String
  | [] => ""
  | [v] => shown v
  | v :: rest => shown v ++ ", " ++ shownItems rest

def shownFields : List (Key × Value) → String
  | [] => ""
  | [(k, v)] => shownKey k ++ ": " ++ shown v
  | (k, v) :: rest => shownKey k ++ ": " ++ shown v ++ ", " ++ shownFields rest

end

/-- A value as the text of a message. -/
def display : Value → String
  | string s => s
  | v => v.shown

/-- The word messages use for the kind of a value. -/
def kindName : Value → String
  | null => "NoneType"
  | bool _ => "bool"
  | int _ => "int"
  | float _ => "float"
  | string _ => "str"
  | array _ => "list"
  | tuple _ => "tuple"
  | object _ => "dict"
  | foreign => "object"

end Value

end JsonShapes
