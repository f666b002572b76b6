/-!
# Date-time texts

A date-time text is `YYYY-MM-DDThh:mm:ss`, then perhaps a point and three digits, then perhaps `Z`,
all in ASCII digits, and names a day of the calendar and a time of that day.
-/

namespace JsonShapes

/-- Leap years of the Gregorian calendar. -/
def isLeapYear (year : Nat) : Bool := year % 4 == 0 && (year % 100 != 0 || year % 400 == 0)

/-- The number of days of a month. -/
def daysInMonth (year month : Nat) : Nat :=
  match month with
  | 4 | 6 | 9 | 11 => 30
  | 2 => if isLeapYear year then 29 else 28
  | _ => 31

/-- Whether a year, a month and a day name a day; the years are 1 to 9999. -/
def isDay (year month day : Nat) : Bool :=
  1 ≤ year && year ≤ 9999 && 1 ≤ month && month ≤ 12 && 1 ≤ day && day ≤ daysInMonth year month

namespace DateText

/-- The value of exactly `n` ASCII digits at the head of a text, and what follows. -/
def digits? : (n : Nat) → List Char → Option (Nat × List Char)
  | 0, cs => some (0, cs)
  | n + 1, c :: rest =>
    if c.isDigit then (digits? n rest).map fun (v, r) => ((c.toNat - 0x30) * Nat.pow 10 n + v, r)
    else none
  | _ + 1, [] => none

/-- What follows the character `c` at the head of a text. -/
def mark? (c : Char) : List Char → Option (List Char)
  | d :: rest => if d == c then some rest else none
  | [] => none

/-- The decimals of a second that may come next. -/
def skipDecimals (cs : List Char) : List Char :=
  match mark? '.' cs with
  | some rest =>
    match digits? 3 rest with
    | some (_, behind) => behind
    | none => cs
  | none => cs

/-- The fields of a date-time text. -/
structure Fields where
  year : Nat
  month : Nat
  day : Nat
  hour : Nat
  minute : Nat
  second : Nat
deriving DecidableEq, Repr

def Fields.isValid (f : Fields) : Bool :=
  isDay f.year f.month f.day && f.hour < 24 && f.minute < 60 && f.second < 60

/-- The fields that a text is made of, whether they name a time or not. -/
def fields? (cs : List Char) : Option Fields := do
  let (year, cs) ← digits? 4 cs
  let (month, cs) ← digits? 2 (← mark? '-' cs)
  let (day, cs) ← digits? 2 (← mark? '-' cs)
  let (hour, cs) ← digits? 2 (← mark? 'T' cs)
  let (minute, cs) ← digits? 2 (← mark? ':' cs)
  let (second, cs) ← digits? 2 (← mark? ':' cs)
  let cs := skipDecimals cs
  if cs.isEmpty || cs == ['Z'] then some ⟨year, month, day, hour, minute, second⟩ else none

/-- Whether a text is a date-time text. -/
def isDateText (s : String) : Bool :=
  match fields? s.toList with
  | some f => f.isValid
  | none => false

end DateText

end JsonShapes
