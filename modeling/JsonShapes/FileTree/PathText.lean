import JsonShapes.Text.Words

/-!
# Path texts

Operations on the text of a path that look at no file: joining, cutting, bringing into normal form.

* `PathText.parent`, `PathText.leaf`: the text before and behind the last slash;
* `PathText.join`: one path below another;
* `PathText.absolute`: the normal form of a path as seen from a directory.
-/

namespace JsonShapes.PathText

open Text

/-- What follows the last slash. -/
def leaf (path : List Char) : List Char := afterLast '/' path

/-- What comes before the last slash, without slashes at its end unless it holds nothing else. -/
def parent (path : List Char) : List Char :=
  let head := uptoLast '/' path
  if head.all (· == '/') then head else dropEnd (· == '/') head

/-- A path below another one; an absolute path stands for itself. -/
def join (base path : List Char) : List Char :=
  if path.head? == some '/' then path
  else if base.isEmpty || base.getLast? == some '/' then base ++ path
  else base ++ '/' :: path

/-- A component put on a stack of components: nothing for a dot, one less for two dots. -/
def push (isAbsolute : Bool) (stack : List (List Char)) (part : List Char) : List (List Char) :=
  if part.isEmpty || part == ['.'] then stack
  else if part == ['.', '.'] then
    match stack with
    | [] => if isAbsolute then [] else [part]
    | top :: below => if top == ['.', '.'] then part :: stack else below
  else part :: stack

/-- The slashes that a normal form keeps in front: two of two, one of any other number. -/
def leadingSlashes (path : List Char) : List Char :=
  match (path.takeWhile (· == '/')).length with
  | 0 => []
  | 2 => ['/', '/']
  | _ => ['/']

/-- A path without dots, double slashes and avoidable pairs of dots. -/
def normal (path : List Char) : List Char :=
  let slashes := leadingSlashes path
  let parts := ((pieces '/' path).foldl (push (!slashes.isEmpty)) []).reverse
  let text := slashes ++ Text.join ['/'] parts
  if text.isEmpty then ['.'] else text

/-- The normal form of a path as seen from `directory`, a text without a slash at its end; that of the
root is empty. -/
def absolute (directory path : List Char) : List Char :=
  normal (if path.head? == some '/' then path else directory ++ '/' :: path)

/-- The leaf of a path without its extension: what starts with the last point, unless only points
come before that. -/
def stem (path : List Char) : List Char :=
  let name := leaf path
  let head := (uptoLast '.' name).dropLast
  if head.all (· == '.') then name else head

/-- The parent of a path with a leaf is shorter. -/
theorem length_uptoLast_lt {path : List Char} (h : (leaf path).isEmpty = false) :
    (uptoLast '/' path).length < path.length := by
  have split := congrArg List.length
    (List.takeWhile_append_dropWhile (p := (· != '/')) (l := path.reverse))
  simp only [List.length_append, List.length_reverse] at split
  simp only [leaf, afterLast, List.isEmpty_reverse, List.isEmpty_eq_false_iff] at h
  have := List.length_pos_iff.2 h
  simp only [uptoLast, List.length_reverse]
  omega

theorem length_dropEnd_le (p : Char → Bool) (cs : List Char) :
    (dropEnd p cs).length ≤ cs.length := by
  have := (List.dropWhile_suffix p (l := cs.reverse)).length_le
  simpa [dropEnd] using this

theorem length_parent_le (path : List Char) :
    (parent path).length ≤ (uptoLast '/' path).length := by
  simp only [parent]
  split
  · exact Nat.le_refl _
  · exact length_dropEnd_le _ _

theorem length_parent_lt {path : List Char} (h : (leaf path).isEmpty = false) :
    (parent path).length < path.length :=
  Nat.lt_of_le_of_lt (length_parent_le path) (length_uptoLast_lt h)

end JsonShapes.PathText
