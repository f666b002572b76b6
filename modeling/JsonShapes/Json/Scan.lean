import JsonShapes.Json.Fault
import JsonShapes.Decimal.Nearest
import JsonShapes.Text.Charset
import JsonShapes.Text.Encoder
import JsonShapes.Value

/-!
# Blanks, numbers and strings of a JSON text

The parts of a JSON text that do not nest.  Each function works on what is left of the text, and
answers with what is left behind it.
-/

namespace JsonShapes.Json

open JsonShapes.Text.Charset (isHighSurrogate isLowSurrogate joinSurrogates)

/-- The blanks between the parts of a JSON text. -/
def isGap (c : Char) : Bool := c == ' ' || c == '\t' || c == '\n' || c == '\r'

/-- A place in a text: its offset and what is left of the text. -/
structure Cursor where
  offset : Nat
  rest : List Char
deriving DecidableEq, Repr

/-- The place `n` characters on. -/
def Cursor.advance (c : Cursor) (n : Nat) : Cursor := ⟨c.offset + n, c.rest.drop n⟩

/-- The next place without a gap. -/
def Cursor.skipGaps (c : Cursor) : Cursor := c.advance (c.rest.takeWhile isGap).length

/-! ### Numbers -/

/-- The parts of a number: its sign, whole digits, decimals, and its power of ten. -/
structure Numeral where
  negative : Bool
  whole : List Char
  decimals : List Char
  power : Option (Bool × List Char)
deriving DecidableEq, Repr

/-- The exponent at the head of a text, with its length: `e`, a sign or none, digits. -/
def exponent? : List Char → Option ((Bool × List Char) × Nat)
  | e :: rest =>
    if e == 'e' || e == 'E' then
      let signed := rest.head? == some '-' || rest.head? == some '+'
      let digits := (if signed then rest.drop 1 else rest).takeWhile Char.isDigit
      if digits.isEmpty then none
      else some ((rest.head? == some '-', digits), 1 + (if signed then 1 else 0) + digits.length)
    else none
  | [] => none

/-- The longest number at the head of a text, with its length. -/
def numeral? (cs : List Char) : Option (Numeral × Nat) :=
  let negative := cs.head? == some '-'
  let signWidth := if negative then 1 else 0
  let digits := (cs.drop signWidth).takeWhile Char.isDigit
  let whole := if digits.head? == some '0' then ['0'] else digits
  if whole.isEmpty then none
  else
    let start := signWidth + whole.length
    let decimals :=
      match cs.drop start with
      | '.' :: rest => rest.takeWhile Char.isDigit
      | _ => []
    let point := start + (if decimals.isEmpty then 0 else decimals.length + 1)
    match exponent? (cs.drop point) with
    | some (power, width) => some (⟨negative, whole, decimals, some power⟩, point + width)
    | none => some (⟨negative, whole, decimals, none⟩, point)

/-- The value of a number: an integer when it has neither decimals nor a power of ten. -/
def Numeral.value (n : Numeral) : Except Stop Value :=
  match n.decimals, n.power with
  | [], none =>
    if n.whole.length > maxIntegerDigits then .error (.longInteger n.whole.length)
    else
      let magnitude : Int := Decimal.ofDigits n.whole
      .ok (.int (if n.negative then -magnitude else magnitude))
  | decimals, power =>
    let exponent : Int :=
      match power with
      | some (true, digits) => -(Decimal.ofDigits digits : Int)
      | some (false, digits) => Decimal.ofDigits digits
      | none => 0
    .ok (.float (Decimal.ofParts n.negative n.whole decimals exponent))

/-! ### Strings -/

/-- The value of a hexadecimal digit. -/
def hexValue? (c : Char) : Option Nat :=
  if c.isDigit then some (c.toNat - 0x30)
  else if 'a' ≤ c && c ≤ 'f' then some (c.toNat - 0x61 + 10)
  else if 'A' ≤ c && c ≤ 'F' then some (c.toNat - 0x41 + 10)
  else none

/-- The code unit of four hexadecimal digits that do not end the text. -/
def codeUnit? : List Char → Option Nat
  | a :: b :: c :: d :: _ :: _ => do
    let a ← hexValue? a
    let b ← hexValue? b
    let c ← hexValue? c
    let d ← hexValue? d
    return ((a * 16 + b) * 16 + c) * 16 + d
  | _ => none

/-- The low surrogate written at the head of a text. -/
def lowSurrogate? : List Char → Option Nat
  | '\\' :: 'u' :: rest => (codeUnit? rest).filter isLowSurrogate
  | _ => none

/-- The character of a one-letter escape. -/
def simpleEscape? : Char → Option Char
  | '"' => some '"'
  | '\\' => some '\\'
  | '/' => some '/'
  | 'b' => some '\x08'
  | 'f' => some '\x0c'
  | 'n' => some '\n'
  | 'r' => some '\r'
  | 't' => some '\t'
  | _ => none

/-- One step inside a string: its end, a character with its width, or a fault. -/
inductive StringPart
  | close
  | char (c : Char) (width : Nat)
  | fault (fault : SyntaxFault) (distance : Nat)
deriving DecidableEq, Repr

/-- What the head of a text is inside a string.  A surrogate without its partner is stood in for. -/
def stringPart : List Char → Option StringPart
  | [] => none
  | '"' :: _ => some .close
  | '\\' :: rest =>
    match rest with
    | [] => none
    | 'u' :: code =>
      match codeUnit? code with
      | none => some (.fault .unicodeEscape 1)
      | some unit =>
        if isHighSurrogate unit then
          match lowSurrogate? (code.drop 4) with
          | some low => some (.char (joinSurrogates unit low) 12)
          | none => some (.char (Text.standIn unit) 6)
        else if isLowSurrogate unit then some (.char (Text.standIn unit) 6)
        else some (.char (Char.ofNat unit) 6)
    | e :: _ =>
      match simpleEscape? e with
      | some c => some (.char c 2)
      | none => some (.fault .unknownEscape 0)
  | c :: _ => if c.toNat < 0x20 then some (.fault .controlCharacter 0) else some (.char c 1)

/-- The characters of a string up to its closing quote, and the place behind it; `start` is the
offset of the opening quote. -/
def scanString (start offset : Nat) : List Char → Except Stop (List Char × Cursor)
  | [] => .error (.malformed .unterminatedString start)
  | c :: rest =>
    match stringPart (c :: rest) with
    | none => .error (.malformed .unterminatedString start)
    | some .close => .ok ([], ⟨offset + 1, rest⟩)
    | some (.fault fault distance) => .error (.malformed fault (offset + distance))
    | some (.char d width) =>
      (scanString start (offset + width) (rest.drop (width - 1))).map fun (ds, next) =>
        (d :: ds, next)
termination_by cs => cs.length
decreasing_by simp only [List.length_drop, List.length_cons]; omega

end JsonShapes.Json
