import JsonShapes.Json.Scan
import JsonShapes.Text.Words

/-!
# Numbers as people write them

A decimal number with blanks around it perhaps, digits of any script, single underscores between
digits, and the words for infinity and for what is no number.
-/

namespace JsonShapes.Decimal

open Text

/-- A decimal digit of any script as its ASCII digit. -/
def asciiDigit (c : Char) : Char :=
  match decimalValue? c with
  | some v => Char.ofNat (0x30 + v)
  | none => c

/-- A text without its underscores; each has to stand between two digits. -/
def dropUnderscores : (afterDigit : Bool) → List Char → Option (List Char)
  | _, [] => some []
  | afterDigit, '_' :: rest =>
    if afterDigit && (rest.head?.map Char.isDigit).getD false then dropUnderscores false rest
    else none
  | _, c :: rest => (dropUnderscores c.isDigit rest).map (c :: ·)

/-- The word for a number that has no digits. -/
def numberWord? (cs : List Char) : Option Float :=
  let word := String.ofList (cs.map Char.toLower)
  if word == "inf" || word == "infinity" then some (Float.ofBits 0x7FF0000000000000)
  else if word == "nan" then some (Float.ofBits 0x7FF8000000000000)
  else none

/-- The number written by digits, decimals and a power of ten. -/
def unsigned? (cs : List Char) : Option Float :=
  let whole := cs.takeWhile Char.isDigit
  let behind := cs.drop whole.length
  let hasPoint := behind.head? == some '.'
  let decimals := if hasPoint then (behind.drop 1).takeWhile Char.isDigit else []
  let rest := behind.drop (if hasPoint then decimals.length + 1 else 0)
  if whole.isEmpty && decimals.isEmpty then none
  else if rest.isEmpty then some (ofParts false whole decimals 0)
  else
    match Json.exponent? rest with
    | some ((negative, digits), width) =>
      let power : Int := ofDigits digits
      if width == rest.length then
        some (ofParts false whole decimals (if negative then -power else power))
      else none
    | none => none

/-- The number that a text names. -/
def parse? (text : String) : Option Float := do
  let cs ← dropUnderscores false ((trim text.toList).map asciiDigit)
  let sign := cs.head?
  let rest := if sign == some '-' || sign == some '+' then cs.drop 1 else cs
  let magnitude ← (numberWord? rest).or (unsigned? rest)
  return if sign == some '-' then -magnitude else magnitude

end JsonShapes.Decimal
