import JsonShapes.FileTree.Basic

/-!
# Operations on files

Reading, writing and removing files, and making directories.  An operation that fails leaves the
tree as it was; only the making of several directories may have made some of them.
-/

namespace JsonShapes.FileTree

open Text

/-- The outcome of an operation, and the tree behind it. -/
abbrev Outcome (α : Type) := Except Fault α × FileTree

def containsNul (text : List Char) : Bool := text.contains '\x00'

/-- Names the path in what the system refuses; a path with a NUL never gets there. -/
def checked {α : Type} (text : List Char) (answer : Except Errno α) : Except Fault α :=
  if containsNul text then .error .nulByte else answer.mapError fun errno => .system errno text

/-- Whether a path text leads to anything. -/
def hasNode (t : FileTree) (workingDirectory : Path) (text : List Char) : Bool :=
  !containsNul text && (t.find workingDirectory text).isOk

/-- Whether a path text leads to a directory. -/
def hasDirectory (t : FileTree) (workingDirectory : Path) (text : List Char) : Bool :=
  !containsNul text &&
    match t.find workingDirectory text with
    | .ok .directory => true
    | _ => false

/-- The content of a file. -/
def readFile (t : FileTree) (workingDirectory : Path) (text : List Char) :
    Except Fault (List UInt8) :=
  checked text <|
    match t.find workingDirectory text with
    | .ok (.file content) => .ok content
    | .ok .directory => .error .isDirectory
    | .error errno => .error errno

/-- The path at which a file may be written. -/
def writablePath (t : FileTree) (workingDirectory : Path) (text : List Char) :
    Except Errno Path := do
  match ← t.locate workingDirectory text with
  | .directory => throw .isDirectory
  | .named directory name =>
    if demandsDirectory text then throw .isDirectory
    if isLongName name then throw .nameTooLong
    if t.isDirectory (directory ++ [name]) then throw .isDirectory
    return directory ++ [name]

/-- Writes a file, in the place of the one that is there. -/
def writeFile (t : FileTree) (workingDirectory : Path) (text : List Char) (content : List UInt8) :
    Outcome Unit :=
  match checked text (t.writablePath workingDirectory text) with
  | .ok path => (.ok (), t.put path (.file content))
  | .error fault => (.error fault, t)

/-- The path at which a directory may be made. -/
def vacantPath (t : FileTree) (workingDirectory : Path) (text : List Char) :
    Except Errno Path := do
  match ← t.locate workingDirectory text with
  | .directory => throw .exists
  | .named directory name =>
    if isLongName name then throw .nameTooLong
    if (t.node? (directory ++ [name])).isSome then throw .exists
    return directory ++ [name]

/-- Makes one directory. -/
def makeDirectory (t : FileTree) (workingDirectory : Path) (text : List Char) : Outcome Unit :=
  match checked text (t.vacantPath workingDirectory text) with
  | .ok path => (.ok (), t.put path .directory)
  | .error fault => (.error fault, t)

/-- The path of a file that may be removed. -/
def filePath (t : FileTree) (workingDirectory : Path) (text : List Char) : Except Errno Path := do
  match ← t.locate workingDirectory text with
  | .directory => throw .isDirectory
  | .named directory name =>
    if isLongName name then throw .nameTooLong
    match t.node? (directory ++ [name]) with
    | none => throw .noEntry
    | some .directory => throw .isDirectory
    | some (.file _) =>
      if demandsDirectory text then throw .notDirectory else return directory ++ [name]

/-- Removes a file. -/
def removeFile (t : FileTree) (workingDirectory : Path) (text : List Char) : Outcome Unit :=
  match checked text (t.filePath workingDirectory text) with
  | .ok path => (.ok (), t.erase path)
  | .error fault => (.error fault, t)

/-! ### Making a directory and its parents -/

/-- Makes the directory `text` itself; when `existing` is allowed, one that is there will do. -/
def makeLast (existing : Bool) (t : FileTree) (workingDirectory : Path) (text : List Char) :
    Outcome Unit :=
  match t.makeDirectory workingDirectory text with
  | (.error (.system errno path), after) =>
    if existing && after.hasDirectory workingDirectory text then (.ok (), after)
    else (.error (.system errno path), after)
  | outcome => outcome

/-- A path text without the slashes at its end, if it has a leaf before them. -/
def trimSlash (text : List Char) : List Char :=
  if (PathText.leaf text).isEmpty then PathText.parent text else text

theorem length_trimSlash_le (text : List Char) : (trimSlash text).length ≤ text.length := by
  unfold trimSlash
  split
  · refine Nat.le_trans (PathText.length_parent_le text) ?_
    have := (List.dropWhile_suffix (· != '/') (l := text.reverse)).length_le
    simpa [uptoLast] using this
  · exact Nat.le_refl _

/-- Makes a directory and the parents it lacks.  A parent that turns out to exist is no obstacle,
and nothing is made for a last component that is a dot. -/
def makeDirectories (existing : Bool) (t : FileTree) (workingDirectory : Path)
    (text : List Char) : Outcome Unit :=
  let whole := trimSlash text
  let head := PathText.parent whole
  if _ : (PathText.leaf whole).isEmpty = false then
    if !head.isEmpty && !t.hasNode workingDirectory head then
      match makeDirectories existing t workingDirectory head with
      | (.ok (), after) => finish after whole
      | (.error (.system .exists _), after) => finish after whole
      | (.error fault, after) => (.error fault, after)
    else makeLast existing t workingDirectory text
  else makeLast existing t workingDirectory text
termination_by text.length
decreasing_by exact Nat.lt_of_lt_of_le (PathText.length_parent_lt ‹_›) (length_trimSlash_le text)
where
  /-- The last step, once the parents are there. -/
  finish (after : FileTree) (whole : List Char) : Outcome Unit :=
    if PathText.leaf whole == ['.'] then (.ok (), after)
    else makeLast existing after workingDirectory text

/-! ### Temporary files -/

/-- The names that temporary files may have. -/
def temporaryName (ending : List Char) (k : Nat) : List Char :=
  "tmp".toList ++ Nat.toDigits 10 k ++ ending

/-- A new empty file in a directory, with a name that is not taken there. -/
def makeTemporary (t : FileTree) (directory : Path) (ending : List Char) : Path × FileTree :=
  let vacant := fun k => (t.node? (directory ++ [temporaryName ending k])).isNone
  let k := ((List.range (t.entries.length + 1)).find? vacant).getD t.entries.length
  let path := directory ++ [temporaryName ending k]
  (path, t.put path (.file []))

/-- The text of a path from the root. -/
def pathText (path : Path) : List Char := path.flatMap fun name => '/' :: name

/-! ### Comparing trees -/

/-- The entries of `after` that `before` does not have. -/
def added (before after : FileTree) : List (Path × Node) :=
  after.entries.filter fun e => before.node? e.1 != some e.2

/-- The paths of `before` with nothing in `after`. -/
def missing (before after : FileTree) : List (Path × Node) :=
  before.entries.filter fun e => (after.node? e.1).isNone

end JsonShapes.FileTree
