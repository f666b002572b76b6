import JsonShapes.DateText
import JsonShapes.Log
import JsonShapes.Naming
import JsonShapes.Shape.Registry
import JsonShapes.Value

/-!
# Inference

A value is walked once.  Every position gets a type expression; an array takes the type of its first
item; the first object of a signature becomes a declaration, and later ones refer to it.

The walk threads a registry.  What it tells about itself is collected beside the registry and never
read back.

* `infer`: the walk of a value;
* `stop?`: where the walk stops before its end, at a key that cannot be written out;
* `start`: the walk of a whole value, under any hint.
-/

namespace JsonShapes

/-- The signature of an object: its keys in ascending order, joined by commas. -/
def signature (fields : List (Key × Value)) : String :=
  String.intercalate "," ((fields.map fun f => f.1.text).mergeSort fun a b => decide (a ≤ b))

namespace Inference

/-- What happens during a walk. -/
inductive Event
  | dateCandidate (text : String)
  | nameTaken (candidate name : String)
  | declared (name signature : String)
deriving DecidableEq, Repr

def Event.message : Event → String
  | dateCandidate text => "Date-time candidate: " ++ text
  | nameTaken candidate name => "Type name " ++ candidate ++ " already in use, using " ++ name
  | declared name signature => "Declared " ++ name ++ " for shape [" ++ signature ++ "]"

def Event.record (e : Event) : Record := ⟨.debug, .shapes, e.message⟩

/-- The outcome of a walk: the type of its value, the registry behind it, what happened. -/
structure Result where
  type : TypeExpr
  registry : Registry
  events : List Event
deriving DecidableEq, Repr

/-- The type of a text: a date only when dates are wanted and the text is one. -/
def textType (dates : Bool) (s : String) : TypeExpr :=
  if dates && DateText.isDateText s then .date else .string

/-- What a walk tells about a text. -/
def textEvents (s : String) : List Event :=
  if DateText.isDateText s then [.dateCandidate s] else []

/-- What a walk tells about a name it took. -/
def nameEvents (candidate name : String) : List Event :=
  if name == candidate then [] else [.nameTaken candidate name]

/-- The naming hint for the value under a key of the type `owner`. -/
def fieldHint (owner key : String) : String := owner ++ Naming.capitalize key

/-- The naming hint for the items of an array. -/
def itemHint (hint : String) : String := hint ++ "Item"

mutual

/-- Walks a value; `hint` names the types made for it. -/
def infer (dates : Bool) : Value → (hint : String) → Registry → Result
  | .null, _, r => ⟨.any, r, []⟩
  | .bool _, _, r => ⟨.boolean, r, []⟩
  | .int _, _, r => ⟨.number, r, []⟩
  | .float _, _, r => ⟨.number, r, []⟩
  | .string s, _, r => ⟨textType dates s, r, textEvents s⟩
  | .array [], _, r => ⟨.array .any, r, []⟩
  | .array (v :: _), hint, r =>
    let item := infer dates v (itemHint hint) r
    ⟨.array item.type, item.registry, item.events⟩
  | .tuple [], _, r => ⟨.array .any, r, []⟩
  | .tuple (v :: _), hint, r =>
    let item := infer dates v (itemHint hint) r
    ⟨.array item.type, item.registry, item.events⟩
  | .object fields, hint, r =>
    match r.lookup (signature fields) with
    | some name => ⟨.ref name, r, []⟩
    | none =>
      let candidate := Naming.typeName hint
      let (name, reserved) := r.reserve candidate
      let (typed, walked, events) := inferFields dates name fields reserved
      ⟨.ref name, walked.register ⟨name, signature fields, typed⟩,
        nameEvents candidate name ++ events ++ [.declared name (signature fields)]⟩
  | .foreign, _, r => ⟨.any, r, []⟩

/-- Walks the fields of an object that becomes the type `owner`. -/
def inferFields (dates : Bool) (owner : String) :
    List (Key × Value) → Registry → List Field × Registry × List Event
  | [], r => ([], r, [])
  | (k, v) :: rest, r =>
    let here := infer dates v (fieldHint owner k.text) r
    let (typed, walked, events) := inferFields dates owner rest here.registry
    (⟨Naming.fieldName k.text, here.type⟩ :: typed, walked, here.events ++ events)

end

/-! ### Keys that cannot be written out -/

/-- Whether all keys of an object can be written out. -/
def hasShortKeys (fields : List (Key × Value)) : Bool := fields.all fun f => f.1.isShort

mutual

/-- The registry in which a walk stops, and what happened until then; none when it comes to its end.
It stops at an object with a key that cannot be written out, before a name is taken for that object;
the names taken for the objects around it stay taken. -/
def stop? (dates : Bool) : Value → (hint : String) → Registry → Option (Registry × List Event)
  | .array (v :: _), hint, r => stop? dates v (itemHint hint) r
  | .tuple (v :: _), hint, r => stop? dates v (itemHint hint) r
  | .object fields, hint, r =>
    if !hasShortKeys fields then some (r, [])
    else
      match r.lookup (signature fields) with
      | some _ => none
      | none =>
        let candidate := Naming.typeName hint
        let (name, reserved) := r.reserve candidate
        (stopFields? dates name fields reserved).map fun (left, events) =>
          (left, nameEvents candidate name ++ events)
  | _, _, _ => none

/-- Where the walk of the fields of an object stops. -/
def stopFields? (dates : Bool) (owner : String) :
    List (Key × Value) → Registry → Option (Registry × List Event)
  | [], _ => none
  | (k, v) :: rest, r =>
    let here := infer dates v (fieldHint owner k.text) r
    match stop? dates v (fieldHint owner k.text) r with
    | some stopped => some stopped
    | none => (stopFields? dates owner rest here.registry).map fun (left, events) =>
      (left, here.events ++ events)

end

/-! ### Hints that are no texts -/

/-- A naming hint for a whole value: a text, or what was given in its place. -/
inductive Hint
  | text (s : String)
  | other (v : Value)

/-- Why a hint names nothing. -/
inductive HintFault
  /-- It cannot be made a type name. -/
  | notText (kind : String)
  /-- Nothing can be put behind it to name the items of an array. -/
  | notExtensible (given : Value)

def HintFault.message : HintFault → String
  | notText kind => "expected string or bytes-like object, got '" ++ kind ++ "'"
  | notExtensible (.array _) => "can only concatenate list (not \"str\") to list"
  | notExtensible (.tuple _) => "can only concatenate tuple (not \"str\") to tuple"
  | notExtensible v => "unsupported operand type(s) for +: '" ++ v.kindName ++ "' and 'str'"

/-- The type name of a hint; a hint that does not count as given names the unknown. -/
def Hint.typeName : Hint → Except HintFault String
  | text s => .ok (Naming.typeName s)
  | other v => if v.isGiven then .error (.notText v.kindName) else .ok unknownName

/-- Why a whole value gets no type. -/
inductive Failure
  | hint (fault : HintFault)
  /-- The walk stopped, in a registry and after some events. -/
  | stopped (left : Registry) (events : List Event)

def Failure.message : Failure → String
  | hint fault => fault.message
  | stopped _ _ => Json.unwrittenIntegerText

/-- What happened before a failure. -/
def Failure.events : Failure → List Event
  | hint _ => []
  | stopped _ events => events

/-- Walks a value to its end, or to where the walk stops. -/
def walk (dates : Bool) (v : Value) (hint : String) (r : Registry) : Except Failure Result :=
  match stop? dates v hint r with
  | some (left, events) => .error (.stopped left events)
  | none => .ok (infer dates v hint r)

/-- Walks a whole value.  A hint that is no text fails exactly where it would be used. -/
def start (dates : Bool) (v : Value) (hint : Hint) (r : Registry) : Except Failure Result :=
  match hint, v with
  | .text s, v => walk dates v s r
  | .other h, .array (_ :: _) => .error (.hint (.notExtensible h))
  | .other h, .tuple (_ :: _) => .error (.hint (.notExtensible h))
  | .other h, .object fields =>
    if hasShortKeys fields && (r.lookup (signature fields)).isNone && h.isGiven then
      .error (.hint (.notText h.kindName))
    else walk dates (.object fields) "" r
  | .other _, v => walk dates v "" r

end Inference

end JsonShapes
