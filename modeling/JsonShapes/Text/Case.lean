import JsonShapes.Text.Cased
import JsonShapes.Text.CaseTable

/-!
# Upper and lower case

The full case mappings: one character may become several, and a capital sigma becomes the final
form at the end of a word.
-/

namespace JsonShapes.Text

/-- The shift of the run that holds `n`. -/
def shiftOf : List CaseRun → Nat → Option Int
  | [], _ => none
  | run :: rest, n =>
    if n < run.first then none
    else if n ≤ run.last && (n - run.first) % run.step == 0 then some run.shift
    else shiftOf rest n

/-- A character mapped by a table of single shifts and a table of expansions. -/
def mapCase (runs : List CaseRun) (expansions : List (Nat × List Nat)) (c : Char) : List Char :=
  match expansions.lookup c.toNat with
  | some several => several.map Char.ofNat
  | none =>
    match shiftOf runs c.toNat with
    | some shift => [Char.ofNat (c.toNat + shift).toNat]
    | none => [c]

/-- The upper case of one character. -/
def upperChar (c : Char) : List Char :=
  if c.toNat < 0x80 then [c.toUpper] else mapCase upperRuns upperExpansions c

/-- The lower case of one character that needs no context. -/
def lowerChar (c : Char) : List Char :=
  if c.toNat < 0x80 then [c.toLower] else mapCase lowerRuns lowerExpansions c

/-- Whether the next character that is not ignorable has a case. -/
def leadsCased : List Char → Bool
  | [] => false
  | c :: rest => if caseIgnorable.has c then leadsCased rest else cased.has c

/-- The lower case of a text; `afterCased` says whether a cased character comes before it. -/
def lowerFrom (afterCased : Bool) : List Char → List Char
  | [] => []
  | c :: rest =>
    (if c == 'Σ' then [if afterCased && !leadsCased rest then 'ς' else 'σ'] else lowerChar c)
      ++ lowerFrom (if caseIgnorable.has c then afterCased else cased.has c) rest

/-- The lower case of a text. -/
def lower (cs : List Char) : List Char := lowerFrom false cs

end JsonShapes.Text
