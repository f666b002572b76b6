import JsonShapes.Text.Letter
import JsonShapes.Text.Numeral
import JsonShapes.Text.Mark
import JsonShapes.Text.Symbol

/-!
# Character classes

The classes of characters that names and messages are decided by, built from the sets of letters,
numerals, marks and symbols.

* `isWord`: what a type name is made of;
* `isIdentifierStart`, `isIdentifierPart`: what a bare field name is made of;
* `isBlank`: what is stripped from the ends of a text;
* `isPrintable`: what a quoted text shows as itself.
-/

namespace JsonShapes.Text

/-- A decimal digit of any script. -/
def isDecimal (c : Char) : Bool := decimalDigits.has c

/-- A character with a digit value: a decimal digit, a superscript, a circled digit and the like. -/
def isDigitValued (c : Char) : Bool := isDecimal c || digitSigns.has c

/-- A character with a numeric property that is not a letter. -/
def isNumeral (c : Char) : Bool := isDigitValued c || numberSigns.has c

def isLetter (c : Char) : Bool := letters.has c

/-- A word character: a letter, a numeral or the underscore. -/
def isWord (c : Char) : Bool := isLetter c || isNumeral c || c == '_'

/-- The value of a decimal digit; each script has its ten digits in order. -/
def decimalValue? (c : Char) : Option Nat := (offsetIn decimalDigits.ranges c.toNat).map (· % 10)

/-- White space: the ASCII controls that separate, and the separators of Unicode. -/
def blanks : CharSet := ⟨[
  (0x9, 0xD), (0x1C, 0x20), (0x85, 0x85), (0xA0, 0xA0), (0x1680, 0x1680), (0x2000, 0x200A),
  (0x2028, 0x2029), (0x202F, 0x202F), (0x205F, 0x205F), (0x3000, 0x3000)]⟩

def isBlank (c : Char) : Bool := blanks.has c

/-! ### Identifiers -/

/-- Letters that start no identifier, since their compatibility form would not. -/
def nonStartingLetters : CharSet := ⟨[
  (0x37A, 0x37A), (0xE33, 0xE33), (0xEB3, 0xEB3), (0x2E2F, 0x2E2F), (0xFC5E, 0xFC63),
  (0xFDFA, 0xFDFB), (0xFE70, 0xFE70), (0xFE72, 0xFE72), (0xFE74, 0xFE74), (0xFE76, 0xFE76),
  (0xFE78, 0xFE78), (0xFE7A, 0xFE7A), (0xFE7C, 0xFE7C), (0xFE7E, 0xFE7E), (0xFF9E, 0xFF9F)]⟩

/-- Characters other than letters that start an identifier: letter numbers and a few signs. -/
def startingSigns : CharSet := ⟨[
  (0x16EE, 0x16F0), (0x1885, 0x1886), (0x2118, 0x2118), (0x212E, 0x212E), (0x2160, 0x2182),
  (0x2185, 0x2188), (0x3007, 0x3007), (0x3021, 0x3029), (0x3038, 0x303A), (0xA6E6, 0xA6EF),
  (0x10140, 0x10174), (0x10341, 0x10341), (0x1034A, 0x1034A), (0x103D1, 0x103D5),
  (0x12400, 0x1246E)]⟩

/-- Further characters that continue an identifier: connectors, middle dots, a few signs. -/
def continuingSigns : CharSet := ⟨[
  (0xB7, 0xB7), (0x387, 0x387), (0xE33, 0xE33), (0xEB3, 0xEB3), (0x1369, 0x1371),
  (0x19DA, 0x19DA), (0x203F, 0x2040), (0x2054, 0x2054), (0xFE33, 0xFE34), (0xFE4D, 0xFE4F),
  (0xFF3F, 0xFF3F), (0xFF9E, 0xFF9F)]⟩

/-- A character that may start an identifier. -/
def isIdentifierStart (c : Char) : Bool :=
  isLetter c && !nonStartingLetters.has c || startingSigns.has c || c == '_'

/-- A character that may stand inside an identifier. -/
def isIdentifierPart (c : Char) : Bool :=
  isIdentifierStart c || isDecimal c || marks.has c || continuingSigns.has c

/-! ### Printable characters -/

/-- A character with a visible form, or the plain blank. -/
def isPrintable (c : Char) : Bool :=
  isLetter c || isNumeral c || marks.has c || symbols.has c

end JsonShapes.Text
