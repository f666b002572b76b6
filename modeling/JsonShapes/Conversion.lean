import JsonShapes.Request.Process

/-!
# Conversions

The two jobs of the program: the definitions of a JSON file are written to a file, and the
definitions of what a URL answers are written to files or to the output.
-/

namespace JsonShapes.Conversion

open FileTree (Outcome)
open Request (World)

/-- Why a conversion fails. -/
inductive Fault
  | file (fault : FileTree.Fault)
  /-- The processing of a request breaks off. -/
  | broken (reason : Request.Break)
  | encoding (fault : Text.Utf8.Fault)
  /-- The text is within the grammar but beyond a limit of the reader. -/
  | limit (fault : Json.Fault)
  | rejected (rejection : Rejection)
  | header (fault : Request.HeaderFault)
  /-- The standard input cannot be read. -/
  | input (message : String)
  /-- A text is refused when it is written. -/
  | unencodable (message : String)

def Fault.message : Fault → String
  | file fault => fault.message
  | broken reason => reason.message
  | encoding fault => fault.message
  | limit fault => fault.message
  | rejected rejection => rejection.text
  | header fault => fault.message
  | input message => message
  | unencodable message => message

/-- A failure of the generation as one of the conversion. -/
def Fault.ofGeneration : Definitions.Failure → Fault
  | .rejected rejection => .rejected rejection
  | .untold => .broken .unshownName

/-! ### Files -/

/-- The text of a file, with line feeds at all line ends. -/
def readText (w : World) (t : FileTree) (path : String) : Except Fault (List Char) := do
  let bytes ← (t.readFile w.surroundings.workingDirectory path.toList).mapError .file
  let text ← (Text.Utf8.decode bytes).mapError .encoding
  return Text.unixLines text

/-- The value of a JSON document; blanks around it do not count. -/
def readDocument (path : String) (text : List Char) : Except Fault Value := do
  let content := Text.trim text
  if content.isEmpty then
    throw (.rejected ⟨.invalidInput, "Input file is empty", some path⟩)
  match Json.read (String.ofList content) with
  | .ok v => return v
  | .error (.malformed fault position) =>
    let reason := (Json.Fault.malformed fault position).message
    throw (.rejected ⟨.invalidInput, "Input is not valid JSON: " ++ reason, some path⟩)
  | .error limit => throw (.limit limit)

/-- The root name of a file: the one given, or the one its name suggests. -/
def fileRootName (path : String) (given : Option String) : String :=
  match given with
  | some name => if name.isEmpty then fromPath else name
  | none => fromPath
where
  fromPath : String := Naming.typeName (String.ofList (PathText.stem path.toList))

/-- Makes the directory of a path, if it has one that is missing. -/
def makeParent (w : World) (t : FileTree) (path : String) : Outcome Unit :=
  let directory := PathText.parent path.toList
  if directory.isEmpty || t.hasNode w.surroundings.workingDirectory directory then (.ok (), t)
  else t.makeDirectories false w.surroundings.workingDirectory directory

/-- Writes a text to a file. -/
def writeFile (w : World) (t : FileTree) (path text : String) : Except Fault Unit × FileTree :=
  let (opened, after) := t.writeFile w.surroundings.workingDirectory path.toList
    (Saving.bytesOf (w.encoder.left text))
  (opened.mapError .file >>= fun () => (w.encoder.check text).mapError .unencodable, after)

/-- Writes a text, making the directory of its path first. -/
def writeText (w : World) (t : FileTree) (path text : String) : Except Fault Unit × FileTree :=
  match makeParent w t path with
  | (.error fault, made) => (.error (.file fault), made)
  | (.ok (), made) => writeFile w made path text

/-- The outcome of a conversion, with the tree behind it and what was logged. -/
structure Converted where
  outcome : Except Fault Unit
  tree : FileTree
  log : Log

/-- Writes the definitions of a JSON file. -/
def convertFile (w : World) (t : FileTree) (input output : String) (root : Option String)
    (dates : Bool) : Converted :=
  match readText w t input >>= readDocument input with
  | .error fault => ⟨.error fault, t, []⟩
  | .ok v =>
    let generated := Definitions.generate v (.text (fileRootName input root)) dates w.now
    match generated.outcome with
    | .error failure => ⟨.error (.ofGeneration failure), t, generated.log⟩
    | .ok text =>
      let (written, after) := writeText w t output text
      ⟨written, after, generated.log⟩

/-! ### URLs -/

/-- What a conversion of a URL is asked to do. -/
structure UrlJob where
  url : String
  /-- The file to write. -/
  output : Option String
  method : String
  headers : Except Request.HeaderFault (List (Key × Value))
  body : Option String
  rootName : Option String
  timeout : Value
  /-- The directory to save in under a suggested name. -/
  savePath : Option String

/-- A text that may be missing, as a value. -/
def textOrNull : Option String → Value
  | some s => .string s
  | none => .null

/-- Whether a text is there and not empty. -/
def isNonempty : Option String → Bool
  | some s => !s.isEmpty
  | none => false

/-- The request of a job. -/
def UrlJob.request (job : UrlJob) (headers : List (Key × Value)) : Value :=
  .object [
    (.name "url", .string job.url),
    (.name "method", .string job.method),
    (.name "headers", .object headers),
    (.name "body", textOrNull job.body),
    (.name "rootTypeName", textOrNull job.rootName),
    (.name "saveToFile", .bool (isNonempty job.savePath)),
    (.name "savePath", textOrNull job.savePath),
    (.name "timeout", job.timeout)]

/-- The outcome of a job, the tree, what was printed, the calls and the log. -/
structure UrlConverted where
  outcome : Except Fault Unit
  tree : FileTree
  output : String
  calls : List Http.Call
  log : Log

/-- Hands out the definitions of a job: tells where they were saved, writes the file asked for, and
prints them when neither was. -/
def UrlJob.handOut (job : UrlJob) (w : World) (t : FileTree) (delivery : Request.Delivery) :
    Except Fault Unit × FileTree × String :=
  match delivery.file with
  | some ⟨false, _, _⟩ =>
    (.error (.rejected ⟨.general, "Could not save type definitions", job.savePath⟩), t, "")
  | file =>
    let told := match file with
      | some info => "Saved " ++ info.filePath.getD "None" ++ "\n"
      | none => ""
    match job.output with
    | some path => if path.isEmpty then direct file told else
      let (written, after) := writeFile w t path delivery.types
      (written, after, told)
    | none => direct file told
where
  /-- What is printed when no file is asked for. -/
  direct (file : Option Request.FileInfo) (told : String) : Except Fault Unit × FileTree × String :=
    match file, w.encoder.check delivery.types with
    | some _, _ => (.ok (), t, told)
    | none, .ok () => (.ok (), t, told ++ delivery.types ++ "\n")
    | none, .error message => (.error (.unencodable message), t, told)

/-- Does a job. -/
def convertUrl (w : World) (t : FileTree) (job : UrlJob) : UrlConverted :=
  match job.headers with
  | .error fault => ⟨.error (.header fault), t, "", [], []⟩
  | .ok headers =>
    let processed := Request.process w t (job.request headers)
    let done := fun (outcome : Except Fault Unit × FileTree × String) =>
      (⟨outcome.1, outcome.2.1, outcome.2.2, processed.calls, processed.log⟩ : UrlConverted)
    match processed.outcome with
    | .error reason => done (.error (.broken reason), processed.tree, "")
    | .ok report =>
      match report.outcome with
      | .error message =>
        done (.error (.rejected ⟨.general, message, some job.url⟩), processed.tree, "")
      | .ok delivery => done (job.handOut w processed.tree delivery)

end JsonShapes.Conversion
