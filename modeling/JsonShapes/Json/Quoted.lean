import JsonShapes.Text.Quoted

/-!
# JSON strings, written

A JSON string as it is written with all characters that need no escape left as they are.
-/

namespace JsonShapes.Json

/-- One character inside a JSON string. -/
def quotedChar (c : Char) : List Char :=
  match c with
  | '"' => ['\\', '"']
  | '\\' => ['\\', '\\']
  | '\n' => ['\\', 'n']
  | '\r' => ['\\', 'r']
  | '\t' => ['\\', 't']
  | '\x0c' => ['\\', 'f']
  | '\x08' => ['\\', 'b']
  | c => if c.toNat < 0x20 then '\\' :: 'u' :: Text.hex 4 c.toNat else [c]

/-- A text as a JSON string. -/
def quotedChars (cs : List Char) : List Char := '"' :: cs.flatMap quotedChar ++ ['"']

def quoted (s : String) : String := String.ofList (quotedChars s.toList)

end JsonShapes.Json
