import JsonShapes.Text.CharClass

/-!
# Quoted texts in messages

A text shown inside a message stands between single quotes, or between double quotes when it holds
a single and no double one; a backslash, the quote itself and all that does not show is escaped.
-/

namespace JsonShapes.Text

/-- Lower-case hexadecimal digits, at least `width` of them. -/
def hex (width n : Nat) : List Char :=
  let digits := Nat.toDigits 16 n
  List.replicate (width - digits.length) '0' ++ digits

/-- One character inside quotes `quote`. -/
def quotedChar (quote c : Char) : List Char :=
  if c == quote || c == '\\' then ['\\', c]
  else if c == '\n' then ['\\', 'n']
  else if c == '\r' then ['\\', 'r']
  else if c == '\t' then ['\\', 't']
  else if isPrintable c then [c]
  else if c.toNat < 0x100 then '\\' :: 'x' :: hex 2 c.toNat
  else if c.toNat < 0x10000 then '\\' :: 'u' :: hex 4 c.toNat
  else '\\' :: 'U' :: hex 8 c.toNat

/-- The quotes that a text is shown in. -/
def quoteFor (cs : List Char) : Char := if cs.contains '\'' && !cs.contains '"' then '"' else '\''

def quotedChars (cs : List Char) : List Char :=
  quoteFor cs :: cs.flatMap (quotedChar (quoteFor cs)) ++ [quoteFor cs]

/-- A text as messages show it. -/
def quoted (s : String) : String := String.ofList (quotedChars s.toList)

end JsonShapes.Text
