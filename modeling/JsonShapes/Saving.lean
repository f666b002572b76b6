import JsonShapes.FileTree.Operations
import JsonShapes.Log

/-!
# Saving definitions

Definitions are saved as a file of a directory that is made when it is missing; and a directory is
probed for whether files can be made in it.
-/

namespace JsonShapes

/-- Where a program runs: its working directory and its home directory. -/
structure Surroundings where
  workingDirectory : Path
  home : List Char

namespace Saving

open FileTree (Outcome Fault)

/-- The directory below the home directory that definitions are saved in by default. -/
def defaultDirectory (s : Surroundings) : List Char :=
  PathText.join s.home "quick-type-types".toList

def fileEnding : List Char := ".ts".toList

/-- A file name with its ending. -/
def withEnding (name : List Char) : List Char :=
  if fileEnding.isSuffixOf name then name else name ++ fileEnding

/-- The directory that definitions are saved in: the given one, unless that is missing or empty. -/
def targetDirectory (s : Surroundings) (directory : Option String) : List Char :=
  match directory with
  | none => defaultDirectory s
  | some text =>
    if text.isEmpty then defaultDirectory s
    else PathText.absolute (FileTree.pathText s.workingDirectory) text.toList

/-- The path that definitions are saved at. -/
def targetPath (s : Surroundings) (name : String) (directory : Option String) : List Char :=
  PathText.join (targetDirectory s directory) (withEnding name.toList)

/-- The bytes of a text. -/
def bytesOf (text : String) : List UInt8 := Text.Utf8.encode text.toList

/-- Makes a directory, then writes a file. -/
def write (s : Surroundings) (t : FileTree) (content : List UInt8) (directory path : List Char) :
    Outcome Unit :=
  match t.makeDirectories true s.workingDirectory directory with
  | (.error fault, made) => (.error fault, made)
  | (.ok (), made) => made.writeFile s.workingDirectory path content

/-- The outcome of saving: the path of the file or why there is none, the tree, and what was
logged. -/
structure Saved where
  outcome : Except Fault String
  tree : FileTree
  log : Log

/-- Saves definitions as a file of a directory. -/
def saveAt (s : Surroundings) (t : FileTree) (content : String) (directory path : List Char) : Saved :=
  let full := String.ofList path
  match write s t (bytesOf content) directory path with
  | (.ok (), after) =>
    ⟨.ok full, after, [⟨.info, .files, "Saved type definitions to " ++ full⟩]⟩
  | (.error .nulByte, after) => ⟨.error .nulByte, after, []⟩
  | (.error fault, after) =>
    ⟨.error fault, after,
      [⟨.warning, .files, "Could not save " ++ full ++ ": " ++ fault.message⟩]⟩

/-- Saves definitions. -/
def save (s : Surroundings) (t : FileTree) (content name : String) (directory : Option String) :
    Saved :=
  saveAt s t content (targetDirectory s directory) (targetPath s name directory)

/-! ### Probing -/

/-- The file that a directory is probed with. -/
def probePath (directory : String) : List Char :=
  PathText.join directory.toList ".write-test".toList

/-- Whether a file can be made in a directory: one is written and removed.  A path with a NUL is no
answer but a fault. -/
def isWritable (s : Surroundings) (t : FileTree) (directory : String) : Outcome Bool :=
  let path := probePath directory
  match t.writeFile s.workingDirectory path (bytesOf "test") with
  | (.error .nulByte, after) => (.error .nulByte, after)
  | (.error _, after) => (.ok false, after)
  | (.ok (), written) =>
    match written.removeFile s.workingDirectory path with
    | (.ok (), after) => (.ok true, after)
    | (.error _, after) => (.ok false, after)

/-- What is told about the machine: where definitions go, and whether they can. -/
structure Machine where
  platform : String
  home : String
  defaultDirectory : String
  isWritable : Bool

/-- Describes the machine. -/
def describe (s : Surroundings) (t : FileTree) : Outcome Machine :=
  let home := String.ofList s.home
  let (answer, after) := isWritable s t home
  (answer.map fun writable => ⟨"linux", home, String.ofList (defaultDirectory s), writable⟩, after)

end Saving

end JsonShapes
