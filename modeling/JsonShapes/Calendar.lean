import JsonShapes.DateText

/-!
# Moments

A moment is a day and a time of day with a distance from universal time, or without one.  Its
stamp is the moment in universal time, to the millisecond.
-/

namespace JsonShapes

/-- A day of the calendar. -/
structure Day where
  year : Nat
  month : Nat
  day : Nat
deriving DecidableEq, Repr

namespace Day

/-- The next day, none after the last day of 9999. -/
def next? (d : Day) : Option Day :=
  if d.day < daysInMonth d.year d.month then some ⟨d.year, d.month, d.day + 1⟩
  else if d.month < 12 then some ⟨d.year, d.month + 1, 1⟩
  else if d.year < 9999 then some ⟨d.year + 1, 1, 1⟩
  else none

/-- The day before, none before the first day of year 1. -/
def previous? (d : Day) : Option Day :=
  if 1 < d.day then some ⟨d.year, d.month, d.day - 1⟩
  else if 1 < d.month then some ⟨d.year, d.month - 1, daysInMonth d.year (d.month - 1)⟩
  else if 1 < d.year then some ⟨d.year - 1, 12, 31⟩
  else none

/-- The day `n` days on, or the last day of the calendar. -/
def plus (d : Day) : Nat → Day
  | 0 => d
  | n + 1 => (d.next?.getD d).plus n

end Day

/-- A day and a time of day; `offset` is the distance east of universal time in seconds, less than a
day, and none for a moment taken as it stands. -/
structure Moment where
  day : Day
  hour : Nat
  minute : Nat
  second : Nat
  microsecond : Nat
  offset : Option Int
deriving DecidableEq, Repr

namespace Moment

/-- A time of day in seconds. -/
def seconds (m : Moment) : Nat := m.hour * 3600 + m.minute * 60 + m.second

/-- The moment with another day and time of day, in universal time. -/
def atSeconds (m : Moment) (day : Day) (seconds : Nat) : Moment :=
  ⟨day, seconds / 3600, seconds / 60 % 60, seconds % 60, m.microsecond, none⟩

/-- The moment in universal time, none when that lies outside the calendar. -/
def utc? (m : Moment) : Option Moment :=
  match m.offset with
  | none => some m
  | some offset =>
    let shifted := (m.seconds : Int) - offset
    if shifted < 0 then m.day.previous?.map fun d => m.atSeconds d (shifted + 86400).toNat
    else if shifted < 86400 then some (m.atSeconds m.day shifted.toNat)
    else m.day.next?.map fun d => m.atSeconds d (shifted - 86400).toNat

/-- The moment some seconds after the start of 1970, in universal time. -/
def ofEpoch (seconds microsecond : Nat) : Moment :=
  atSeconds ⟨⟨1970, 1, 1⟩, 0, 0, 0, microsecond, none⟩
    ((Day.mk 1970 1 1).plus (seconds / 86400)) (seconds % 86400)

/-- A numeral with at least `width` digits. -/
def padded (width n : Nat) : String :=
  let digits := Nat.toDigits 10 n
  String.ofList (List.replicate (width - digits.length) '0' ++ digits)

/-- The text of a moment; the year is written without leading zeros. -/
def text (m : Moment) : String :=
  toString m.day.year ++ "-" ++ padded 2 m.day.month ++ "-" ++ padded 2 m.day.day ++ "T"
    ++ padded 2 m.hour ++ ":" ++ padded 2 m.minute ++ ":" ++ padded 2 m.second ++ "."
    ++ padded 3 (m.microsecond / 1000) ++ "Z"

/-- The stamp of a moment: its text in universal time. -/
def stamp? (m : Moment) : Option String := m.utc?.map text

end Moment

end JsonShapes
