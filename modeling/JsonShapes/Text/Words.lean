import JsonShapes.Text.CharClass

/-!
# Cutting texts

Words between separators, pieces between single marks, blank ends, line ends.
-/

namespace JsonShapes.Text

/-- The maximal runs of characters that are no separators. -/
def words (isSeparator : Char → Bool) : List Char → List (List Char)
  | [] => []
  | c :: rest =>
    if isSeparator c then words isSeparator rest
    else
      match rest, words isSeparator rest with
      | d :: _, w :: ws => if isSeparator d then [c] :: w :: ws else (c :: w) :: ws
      | _, ws => [c] :: ws

/-- The pieces between the marks, empty ones included. -/
def pieces (mark : Char) : List Char → List (List Char)
  | [] => [[]]
  | c :: rest =>
    if c == mark then [] :: pieces mark rest
    else
      match pieces mark rest with
      | p :: ps => (c :: p) :: ps
      | [] => [[c]]

/-- A text cut at the first `mark`: what comes before it, and what follows it if there is one. -/
def cut (mark : Char) : List Char → List Char × Option (List Char)
  | [] => ([], none)
  | c :: rest =>
    if c == mark then ([], some rest)
    else ((c :: (cut mark rest).1), (cut mark rest).2)

/-- What follows the last `mark`, or the whole text. -/
def afterLast (mark : Char) (cs : List Char) : List Char :=
  (cs.reverse.takeWhile (· != mark)).reverse

/-- What ends with the last `mark`, or nothing. -/
def uptoLast (mark : Char) (cs : List Char) : List Char :=
  (cs.reverse.dropWhile (· != mark)).reverse

/-- A text without the characters of a class at its end. -/
def dropEnd (p : Char → Bool) (cs : List Char) : List Char := (cs.reverse.dropWhile p).reverse

/-- A text without blanks at its ends. -/
def trim (cs : List Char) : List Char := dropEnd isBlank (cs.dropWhile isBlank)

/-- A text with every line end written as one line feed. -/
def unixLines : List Char → List Char
  | [] => []
  | '\r' :: '\n' :: rest => '\n' :: unixLines rest
  | '\r' :: rest => '\n' :: unixLines rest
  | c :: rest => c :: unixLines rest

/-- The texts one after the other with `separator` between them. -/
def join (separator : List Char) : List (List Char) → List Char
  | [] => []
  | [t] => t
  | t :: ts => t ++ separator ++ join separator ts

end JsonShapes.Text
