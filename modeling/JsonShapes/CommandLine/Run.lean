import JsonShapes.CommandLine.Commands
import JsonShapes.Conversion

/-!
# Running the program

A run takes arguments and what stands on the input, and ends with an exit code, texts on the two
outputs, and a file tree.
-/

namespace JsonShapes.CommandLine

open Conversion (Fault)

/-- What a run needs: the world, where temporary files go, and what reading the input gives: a text,
or why it cannot be read. -/
structure Console where
  world : Request.World
  temporary : Path
  input : Except String String

/-- How a run ends. -/
structure Finished where
  exitCode : Nat
  output : String
  diagnostics : String
  calls : List Http.Call
  tree : FileTree

/-- The lines of the records that are shown. -/
def logLines (verbose : Bool) (log : Log) : String :=
  String.join ((log.filter fun r => verbose || r.level.isGrave).map fun r => r.line ++ "\n")

/-- The text about a failed command. -/
def failureText (fault : Fault) : String := "Error:  " ++ fault.message ++ "\n"

/-- The end of a command: its texts, and exit code 1 when it failed. -/
def finish (verbose : Bool) (outcome : Except Fault Unit) (output : String) (log : Log)
    (calls : List Http.Call) (tree : FileTree) : Finished :=
  match outcome with
  | .ok () => ⟨0, output, logLines verbose log, calls, tree⟩
  | .error fault => ⟨1, output ++ failureText fault, logLines verbose log, calls, tree⟩

/-! ### json2ts -/

/-- The input of a conversion: the file named, or a temporary one that the input text is copied to. -/
structure Source where
  path : String
  temporary : Option Path
  rootName : Option String
  tree : FileTree
  /-- Whether there is an input, or why it cannot be read. -/
  ready : Except String Unit

def source (c : Console) (t : FileTree) (o : FileOptions) : Source :=
  match o.input with
  | some path => ⟨path, none, o.rootName, t, .ok ()⟩
  | none =>
    let (path, made) := t.makeTemporary c.temporary ".json".toList
    let given := if Conversion.isNonempty o.rootName then o.rootName else some defaultRootName
    let copied := match c.input with
      | .ok text => made.put path (.file (Saving.bytesOf text))
      | .error _ => made
    ⟨String.ofList (FileTree.pathText path), some path, given, copied, c.input.map fun _ => ()⟩

/-- The name of the file that is written when the output is named by an empty text. -/
def unnamedOutput : String := "output_file_path"

/-- The output of a conversion: the file named, or a temporary one. -/
def target (c : Console) (t : FileTree) (o : FileOptions) : String × Option Path × FileTree :=
  match o.output with
  | some path => (if path.isEmpty then unnamedOutput else path, none, t)
  | none =>
    let (path, made) := t.makeTemporary c.temporary []
    (String.ofList (FileTree.pathText path), some path, made)

/-- A tree without a temporary file. -/
def discard (t : FileTree) : Option Path → FileTree
  | some path => t.erase path
  | none => t

/-- What is printed of a temporary output: its text and a line feed. -/
def printed (c : Console) (t : FileTree) (path : String) :
    Option Path → Except Fault String
  | none => .ok ""
  | some _ => (Conversion.readText c.world t path).map fun text => String.ofList text ++ "\n"

/-- Converts the input, and prints what stands in a temporary output. -/
def runReady (c : Console) (input : Source) (verbose : Bool) (o : FileOptions) : Finished :=
  let (output, temporary, prepared) := target c input.tree o
  let converted :=
    Conversion.convertFile c.world prepared input.path output input.rootName o.dates
  let result := converted.outcome.bind fun () => printed c converted.tree output temporary
  let cleaned := discard (discard converted.tree input.temporary) temporary
  finish verbose (result.map fun _ => ()) (result.toOption.getD "") converted.log [] cleaned

/-- Runs json2ts. -/
def runFile (c : Console) (t : FileTree) (verbose : Bool) (o : FileOptions) : Finished :=
  let input := source c t o
  match input.ready with
  | .ok () => runReady c input verbose o
  | .error message =>
    finish verbose (.error (.input message)) "" [] [] (discard input.tree input.temporary)

/-! ### url2ts -/

/-- The job that options ask for. -/
def urlJob (o : UrlOptions) : Conversion.UrlJob where
  url := o.url
  output := o.output
  method := o.method
  headers := (Request.parseHeaders o.headers).map fun headers =>
    headers.map fun (name, value) => (.name name, .string value)
  body := o.body
  rootName := o.rootName
  timeout := (o.timeout.map Value.float).getD Http.defaultTimeout
  savePath := o.savePath

/-- Runs url2ts. -/
def runUrl (c : Console) (t : FileTree) (verbose : Bool) (o : UrlOptions) : Finished :=
  let converted := Conversion.convertUrl c.world t (urlJob o)
  finish verbose converted.outcome converted.output converted.log converted.calls converted.tree

/-! ### The program -/

/-- Runs the program. -/
def run (c : Console) (t : FileTree) (args : List String) : Finished :=
  match parse args with
  | .error (.help text) => ⟨0, text, "", [], t⟩
  | .error (.misuse program usage message) =>
    ⟨2, "", usage ++ program ++ ": error: " ++ message ++ "\n", [], t⟩
  | .ok .help => ⟨0, mainHelp, "", [], t⟩
  | .ok .version => ⟨0, programName ++ " " ++ version ++ "\n", "", [], t⟩
  | .ok (.file verbose options) => runFile c t verbose options
  | .ok (.url verbose options) => runUrl c t verbose options

end JsonShapes.CommandLine
