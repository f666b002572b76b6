import JsonShapes.CommandLine.Run
import Std.Time.DateTime

/-!
# The program

The command line on the files of the machine: the files and directories that the arguments may
concern are read into a file tree, the run is computed, and what it changed is written back.  No
network is reached from here: every call fails as a connection that cannot be made.
-/

namespace JsonShapes.Main

/-- The present moment. -/
def present : IO Moment := do
  let elapsed := (← Std.Time.Timestamp.now).toMillisecondsSinceUnixEpoch.val.toNat
  return Moment.ofEpoch (elapsed / 1000) (elapsed % 1000 * 1000)

def textOf (path : Path) : String := String.ofList (FileTree.pathText path)

/-- What is at a path whose parent is a directory. -/
def look (path : Path) : IO (Option Node) := do
  try
    let content ← IO.FS.readBinFile (textOf path)
    return some (.file content.toList)
  catch
    | .noFileOrDirectory .. => return none
    | _ => return some .directory

/-- A tree with what lies on the way along components. -/
def follow (t : FileTree) : Path → List (List Char) → IO FileTree
  | _, [] => return t
  | here, c :: rest =>
    if c == ['.'] then follow t here rest
    else if c == ['.', '.'] then follow t here.dropLast rest
    else do
      match ← look (here ++ [c]) with
      | some .directory => follow (t.put (here ++ [c]) .directory) (here ++ [c]) rest
      | some n => return t.put (here ++ [c]) n
      | none => return t

/-- A tree with what lies on the way of a path text. -/
def followText (workingDirectory : Path) (t : FileTree) (text : String) : IO FileTree :=
  follow t (FileTree.origin workingDirectory text.toList) (FileTree.components text.toList)

/-- The texts in an argument that may be paths. -/
def pathTexts (arg : String) : List String :=
  let (_, value) := CommandLine.cutSign arg
  [arg] ++ value.toList

/-- Writes what a run changed. -/
def store (before after : FileTree) : IO Unit := do
  for (path, n) in before.added after do
    match n with
    | .directory => IO.FS.createDirAll (textOf path)
    | .file content => IO.FS.writeBinFile (textOf path) ⟨content.toArray⟩
  for (path, _) in before.missing after do
    IO.FS.removeFile (textOf path)

/-- The text on the input, or why it cannot be read. -/
def readInput : IO (Except String String) := do
  try return .ok (← (← IO.getStdin).readToEnd)
  catch fault => return .error (toString fault)

/-- Runs the program on the machine. -/
def run (args : List String) : IO UInt32 := do
  let workingDirectory := FileTree.components (← IO.currentDir).toString.toList
  let temporary : Path := ["tmp".toList]
  let home := (← IO.getEnv "HOME").getD "/"
  let input ← if args.any (!·.startsWith "-") then readInput else pure (.ok "")
  let mut tree ← follow ⟨[]⟩ [] workingDirectory
  tree ← follow tree [] temporary
  for text in args.flatMap pathTexts do
    tree ← followText workingDirectory tree text
  let world : Request.World :=
    ⟨⟨workingDirectory, home.toList⟩, ← present, fun _ => .failure ⟨.connection, "no network"⟩,
      Text.Charset.codecs, .strict⟩
  let finished := CommandLine.run ⟨world, temporary, input⟩ tree args
  store tree finished.tree
  IO.print finished.output
  IO.eprint finished.diagnostics
  return UInt32.ofNat finished.exitCode

end JsonShapes.Main

def main (args : List String) : IO UInt32 := JsonShapes.Main.run args
