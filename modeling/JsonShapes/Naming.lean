import JsonShapes.Json.Quoted
import JsonShapes.Text.Case
import JsonShapes.Text.Words

/-!
# Names

How texts become names: type names from naming hints, field names from object keys.

* `typeName`: words are capitalised and joined, their other letters keep their case;
* `pascalCase`: words are capitalised, their other letters put in lower case;
* `fieldName`: a key itself when it is an identifier, else the key in quotes.
-/

namespace JsonShapes

/-- The name of what has no name. -/
def unknownName : String := "Unknown"

namespace Naming

open Text

/-- The first character in upper case, the rest as it is. -/
def capitalizeChars : List Char → List Char
  | [] => []
  | c :: rest => upperChar c ++ rest

/-- The first character in upper case, the rest in lower case. -/
def titleChars : List Char → List Char
  | [] => []
  | c :: rest => upperChar c ++ lower rest

def capitalize (s : String) : String := String.ofList (capitalizeChars s.toList)

/-- Hyphens, underscores and blanks separate the words of a text. -/
def separatesWords (c : Char) : Bool := c == '-' || c == '_' || isBlank c

/-- The words of a text, each capitalised and otherwise in lower case, without separators. -/
def pascalCase (s : String) : String :=
  if s.isEmpty then unknownName
  else String.ofList ((words separatesWords s.toList).flatMap titleChars)

/-- All that is no letter and no numeral separates the words of a naming hint. -/
def separatesHint (c : Char) : Bool := !isWord c || c == '_'

/-- The words of a naming hint, each capitalised, without separators. -/
def hintChars (cs : List Char) : List Char := (words separatesHint cs).flatMap capitalizeChars

/-- The type name of a naming hint: its words, behind an underscore when they start with a digit. -/
def typeName (hint : String) : String :=
  match hintChars hint.toList with
  | [] => unknownName
  | c :: rest => String.ofList (if isDigitValued c then '_' :: c :: rest else c :: rest)

/-- Whether characters form an identifier; the dollar sign may stand anywhere. -/
def isIdentifierChars : List Char → Bool
  | [] => false
  | c :: rest =>
    (c == '$' || isIdentifierStart c) && rest.all fun d => d == '$' || isIdentifierPart d

/-- Whether a text can stand as a bare field name. -/
def isIdentifier (s : String) : Bool := isIdentifierChars s.toList

/-- A key with an underscore in front when it starts with a decimal digit. -/
def guardDigit : List Char → List Char
  | [] => []
  | c :: rest => if isDecimal c then '_' :: c :: rest else c :: rest

/-- The field name of an object key. -/
def fieldName (key : String) : String :=
  let bare := guardDigit key.toList
  if isIdentifierChars bare then String.ofList bare else Json.quoted key

end Naming

end JsonShapes
