import JsonShapes.Json.Scan

/-!
# Reading JSON texts

A text is read to a value, or refused with the first fault.  A name that occurs twice in an object
keeps its first place and its last value.
-/

namespace JsonShapes.Json

/-- The deepest nesting that is read or written. -/
def maxDepth : Nat := 1000

/-- The words that are values. -/
def literals : List (List Char × Value) := [
  ("null".toList, .null), ("true".toList, .bool true), ("false".toList, .bool false),
  ("NaN".toList, .float (0.0 / 0.0)), ("Infinity".toList, .float (1.0 / 0.0)),
  ("-Infinity".toList, .float (-1.0 / 0.0))]

/-- The literal at the head of a text, with its length. -/
def literal? (cs : List Char) : Option (Value × Nat) :=
  (literals.find? fun (word, _) => word.isPrefixOf cs).map fun (word, v) => (v, word.length)

/-- A value that does not nest, at the head of the text. -/
def readScalar (here : Cursor) : Except Stop (Value × Cursor) :=
  match literal? here.rest with
  | some (v, width) => .ok (v, here.advance width)
  | none =>
    match numeral? here.rest with
    | some (n, width) => n.value.map fun v => (v, here.advance width)
    | none => .error (.malformed .expectedValue here.offset)

mutual

/-- The value that starts here, inside `depth` containers. -/
def readValue : (fuel depth : Nat) → Cursor → Except Stop (Value × Cursor)
  | 0, _, here => .error (.malformed .expectedValue here.offset)
  | fuel + 1, depth, here =>
    match here.rest with
    | '"' :: rest =>
      (scanString here.offset (here.offset + 1) rest).map fun (cs, next) =>
        (.string (String.ofList cs), next)
    | '[' :: rest =>
      if depth ≥ maxDepth then .error (.deepNesting .array)
      else
        let inside := (Cursor.mk (here.offset + 1) rest).skipGaps
        match inside.rest with
        | ']' :: rest => .ok (.array [], ⟨inside.offset + 1, rest⟩)
        | _ => (readItems fuel (depth + 1) inside).map fun (items, next) => (.array items, next)
    | '{' :: rest =>
      if depth ≥ maxDepth then .error (.deepNesting .object)
      else
        let inside := (Cursor.mk (here.offset + 1) rest).skipGaps
        match inside.rest with
        | '}' :: rest => .ok (.object [], ⟨inside.offset + 1, rest⟩)
        | _ =>
          (readFields fuel (depth + 1) [] inside).map fun (fields, next) => (.object fields, next)
    | _ => readScalar here

/-- The items of an array from here to its bracket. -/
def readItems : (fuel depth : Nat) → Cursor → Except Stop (List Value × Cursor)
  | 0, _, here => .error (.malformed .expectedValue here.offset)
  | fuel + 1, depth, here => do
    let (v, behind) ← readValue fuel depth here
    let next := behind.skipGaps
    match next.rest with
    | ']' :: rest => return ([v], ⟨next.offset + 1, rest⟩)
    | ',' :: rest =>
      let (items, last) ← readItems fuel depth (Cursor.mk (next.offset + 1) rest).skipGaps
      return (v :: items, last)
    | _ => throw (.malformed .expectedComma next.offset)

/-- The fields of an object from here to its brace, after the fields `done`. -/
def readFields : (fuel depth : Nat) → List (Key × Value) → Cursor →
    Except Stop (List (Key × Value) × Cursor)
  | 0, _, _, here => .error (.malformed .expectedName here.offset)
  | fuel + 1, depth, done, here =>
    match here.rest with
    | '"' :: rest => do
      let (name, behind) ← scanString here.offset (here.offset + 1) rest
      let colon := behind.skipGaps
      match colon.rest with
      | ':' :: rest =>
        let (v, behind) ← readValue fuel depth (Cursor.mk (colon.offset + 1) rest).skipGaps
        let next := behind.skipGaps
        let fields := Value.putField (.name (String.ofList name)) v done
        match next.rest with
        | '}' :: rest => return (fields, ⟨next.offset + 1, rest⟩)
        | ',' :: rest => readFields fuel depth fields (Cursor.mk (next.offset + 1) rest).skipGaps
        | _ => throw (.malformed .expectedComma next.offset)
      | _ => throw (.malformed .expectedColon colon.offset)
    | _ => .error (.malformed .expectedName here.offset)

end

/-- The value of a text, read to its end.  Every character is left behind by at most two calls, so
the fuel suffices. -/
def readChars (cs : List Char) : Except Stop Value :=
  if cs.head? == some '\uFEFF' then .error (.malformed .byteOrderMark 0)
  else do
    let (v, behind) ← readValue (2 * cs.length + 2) 0 (Cursor.mk 0 cs).skipGaps
    let last := behind.skipGaps
    if last.rest.isEmpty then return v else throw (.malformed .extraData last.offset)

/-- Reads a JSON text. -/
def read (text : String) : Except Fault Value :=
  (readChars text.toList).mapError (Stop.toFault text.toList)

/-- Whether a value has a JSON form. -/
def canWrite (v : Value) : Bool := v.isWritable && v.nesting ≤ maxDepth

/-- Whether a value can be handed to the generation: a text that reads as JSON, or an object or
array that has a JSON form. -/
def isUsable : Value → Bool
  | .string s => (read s).isOk
  | .object fields => canWrite (.object fields)
  | .array items => canWrite (.array items)
  | _ => false

end JsonShapes.Json
