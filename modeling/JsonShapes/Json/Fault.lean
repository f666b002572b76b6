/-!
# Faults of JSON texts

Why a text is no JSON value, and where.
-/

namespace JsonShapes.Json

/-- What is wrong at a place of the text. -/
inductive SyntaxFault
  | expectedValue
  | extraData
  | expectedName
  | expectedColon
  | expectedComma
  | unterminatedString
  | controlCharacter
  | unknownEscape
  | unicodeEscape
  | byteOrderMark
deriving DecidableEq, Repr

def SyntaxFault.text : SyntaxFault → String
  | expectedValue => "Expecting value"
  | extraData => "Extra data"
  | expectedName => "Expecting property name enclosed in double quotes"
  | expectedColon => "Expecting ':' delimiter"
  | expectedComma => "Expecting ',' delimiter"
  | unterminatedString => "Unterminated string starting at"
  | controlCharacter => "Invalid control character at"
  | unknownEscape => "Invalid \\escape"
  | unicodeEscape => "Invalid \\uXXXX escape"
  | byteOrderMark => "Unexpected UTF-8 BOM (decode using utf-8-sig)"

/-- The two kinds of nesting. -/
inductive Container
  | array
  | object
deriving DecidableEq, Repr

/-- Why a reading stops, with the offset of the place. -/
inductive Stop
  | malformed (fault : SyntaxFault) (offset : Nat)
  | longInteger (digits : Nat)
  | deepNesting (inside : Container)
deriving DecidableEq, Repr

/-- A place of a text: code points before it, and line and column counted from one. -/
structure Position where
  offset : Nat
  line : Nat
  column : Nat
deriving DecidableEq, Repr

/-- The place `offset` code points into a text; a line ends at a line feed. -/
def Position.ofOffset (cs : List Char) (offset : Nat) : Position :=
  let before := cs.take offset
  ⟨offset, before.count '\n' + 1, (before.reverse.takeWhile (· != '\n')).length + 1⟩

/-- Why a text was not read.  Only the first is a fault of the grammar; the other two are limits. -/
inductive Fault
  | malformed (fault : SyntaxFault) (position : Position)
  | longInteger (digits : Nat)
  | deepNesting (inside : Container)
deriving DecidableEq, Repr

def Stop.toFault (cs : List Char) : Stop → Fault
  | malformed fault offset => .malformed fault (Position.ofOffset cs offset)
  | longInteger digits => .longInteger digits
  | deepNesting inside => .deepNesting inside

/-- The most digits an integer may have that is read or written out. -/
def maxIntegerDigits : Nat := 4300

/-- Whether an integer can be written out. -/
def isShort (i : Int) : Bool := (Nat.toDigits 10 i.natAbs).length ≤ maxIntegerDigits

/-- The text of the limit on integers that are read. -/
def longIntegerText (digits : Nat) : String :=
  s!"Exceeds the limit (4300 digits) for integer string conversion: value has {digits} digits; "
    ++ "use sys.set_int_max_str_digits() to increase the limit"

/-- The text of the limit on integers that are written out. -/
def unwrittenIntegerText : String :=
  "Exceeds the limit (4300 digits) for integer string conversion; "
    ++ "use sys.set_int_max_str_digits() to increase the limit"

def Fault.message : Fault → String
  | malformed fault position =>
    let text := fault.text
    let line := position.line
    let column := position.column
    let offset := position.offset
    s!"{text}: line {line} column {column} (char {offset})"
  | longInteger digits => longIntegerText digits
  | deepNesting .array =>
    "maximum recursion depth exceeded while decoding a JSON array from a unicode string"
  | deepNesting .object =>
    "maximum recursion depth exceeded while decoding a JSON object from a unicode string"

end JsonShapes.Json
