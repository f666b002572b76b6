import JsonShapes.FileTree.PathText
import JsonShapes.Text.Utf8

/-!
# File trees

A file tree is a value: the directories and files below a root that is always there.  Path texts
are followed component by component, and what stands in the way is told as an error.

* `FileTree.node?`: what is at a path;
* `FileTree.locate`: the directory that a path text leads to, and the last component;
* `FileTree.Fault`: why an operation on a file fails.
-/

namespace JsonShapes

open Text

/-- A path from the root: the names of directories, and of a file perhaps. -/
abbrev Path := List (List Char)

/-- What is at a path. -/
inductive Node
  | directory
  | file (content : List UInt8)
deriving DecidableEq, Repr

/-- The nodes of a tree below its root, each path once. -/
structure FileTree where
  entries : List (Path × Node)

/-- What a system refuses an operation with. -/
inductive Errno
  | noEntry
  | exists
  | notDirectory
  | isDirectory
  | nameTooLong
deriving DecidableEq, Repr

namespace FileTree

/-- Why an operation on a file fails: the system refuses it, or the path holds a NUL. -/
inductive Fault
  | system (errno : Errno) (path : List Char)
  | nulByte
deriving DecidableEq, Repr

def errnoText : Errno → String
  | .noEntry => "[Errno 2] No such file or directory"
  | .exists => "[Errno 17] File exists"
  | .notDirectory => "[Errno 20] Not a directory"
  | .isDirectory => "[Errno 21] Is a directory"
  | .nameTooLong => "[Errno 36] File name too long"

def Fault.message : Fault → String
  | system errno path => errnoText errno ++ ": " ++ quoted (String.ofList path)
  | nulByte => "embedded null byte"

/-! ### Nodes -/

/-- What is at a path; the root is a directory. -/
def node? (t : FileTree) : Path → Option Node
  | [] => some .directory
  | path => t.entries.lookup path

def isDirectory (t : FileTree) (path : Path) : Bool := t.node? path == some .directory

/-- The entries with a node at a path, in the place of what was there. -/
def putEntry (path : Path) (n : Node) : List (Path × Node) → List (Path × Node)
  | [] => [(path, n)]
  | (p, m) :: rest => if p = path then (path, n) :: rest else (p, m) :: putEntry path n rest

/-- The tree with a node at a path. -/
def put (t : FileTree) (path : Path) (n : Node) : FileTree := ⟨putEntry path n t.entries⟩

/-- The tree without what is at a path. -/
def erase (t : FileTree) (path : Path) : FileTree := ⟨t.entries.filter fun e => e.1 ≠ path⟩

/-! ### Following path texts -/

/-- The components of a path text. -/
def components (text : List Char) : List (List Char) :=
  (pieces '/' text).filter fun c => !c.isEmpty

/-- The most bytes a name and a path text may have. -/
def maxNameBytes : Nat := 255
def maxPathBytes : Nat := 4095

def isLongName (name : List Char) : Bool := (Utf8.encode name).length > maxNameBytes

/-- One step from a path to what a component leads to; it has to be there. -/
def enter (t : FileTree) (here : Path) (component : List Char) : Except Errno Path :=
  if !t.isDirectory here then .error .notDirectory
  else if component == ['.'] then .ok here
  else if component == ['.', '.'] then .ok here.dropLast
  else if isLongName component then .error .nameTooLong
  else if (t.node? (here ++ [component])).isSome then .ok (here ++ [component])
  else .error .noEntry

/-- Follows components one after the other. -/
def walk (t : FileTree) (here : Path) : List (List Char) → Except Errno Path
  | [] => .ok here
  | c :: rest => (t.enter here c).bind fun next => t.walk next rest

/-- Where a path text starts: the root or the working directory. -/
def origin (workingDirectory : Path) (text : List Char) : Path :=
  if text.head? == some '/' then [] else workingDirectory

/-- Where a path text leads: to a directory and a name in it, or to a directory that its last
component does not name. -/
inductive Place
  | named (directory : Path) (name : List Char)
  | directory
deriving DecidableEq, Repr

/-- The place that a path text leads to.  All but the last component have to lead to a directory. -/
def locate (t : FileTree) (workingDirectory : Path) (text : List Char) : Except Errno Place := do
  if text.isEmpty then throw .noEntry
  if (Utf8.encode text).length > maxPathBytes then throw .nameTooLong
  let parts := components text
  let directory ← t.walk (origin workingDirectory text) parts.dropLast
  if !t.isDirectory directory then throw .notDirectory
  match parts.getLast? with
  | none => return .directory
  | some name =>
    if name == ['.'] || name == ['.', '.'] then return .directory else return .named directory name

/-- Whether a path text ends with a slash, so that it has to lead to a directory. -/
def demandsDirectory (text : List Char) : Bool := text.getLast? == some '/'

/-- The node that a path text leads to. -/
def find (t : FileTree) (workingDirectory : Path) (text : List Char) : Except Errno Node := do
  match ← t.locate workingDirectory text with
  | .directory => return .directory
  | .named directory name =>
    if isLongName name then throw .nameTooLong
    match t.node? (directory ++ [name]) with
    | none => throw .noEntry
    | some .directory => return .directory
    | some (.file content) =>
      if demandsDirectory text then throw .notDirectory else return .file content

end FileTree

end JsonShapes
