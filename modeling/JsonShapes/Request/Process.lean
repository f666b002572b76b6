import JsonShapes.Definitions.Generate
import JsonShapes.Request.Basic
import JsonShapes.Request.Check
import JsonShapes.Saving
import JsonShapes.Url.Suggestion

/-!
# Processing requests

A request is checked, its URL fetched, definitions are generated from the answer, and saved when
that is asked for.  What goes wrong on the way is part of the report; only a save path that no
system takes, a root name that no message can show, and definitions that the system refuses to write
break off the processing itself.
-/

namespace JsonShapes.Request

open Inference (Hint)

/-- What processing needs of the world. -/
structure World where
  surroundings : Surroundings
  now : Moment
  transport : Http.Call → Http.Exchange
  codecs : Text.Codecs
  encoder : Text.Encoder

/-- Where definitions were saved. -/
structure FileInfo where
  saved : Bool
  fileName : String
  filePath : Option String
deriving DecidableEq, Repr

/-- What a successful request yields. -/
structure Delivery where
  types : String
  data : Value
  file : Option FileInfo

/-- The answer to a request: a delivery or a message. -/
structure Report where
  requestedUrl : Value
  outcome : Except String Delivery

/-- What breaks off processing without a report. -/
inductive Break
  /-- A path holds a NUL. -/
  | nulByte
  /-- The root name cannot be shown as the context of a rejection. -/
  | unshownName
  /-- The definitions are refused when they are written, or a path is refused. -/
  | unencodable (message : String)
deriving DecidableEq, Repr

def Break.message : Break → String
  | nulByte => FileTree.Fault.nulByte.message
  | unshownName => Definitions.Failure.untold.message
  | unencodable message => message

/-- The outcome of processing: a report, or what breaks it off; the tree, the calls, the log. -/
structure Processed where
  outcome : Except Break Report
  tree : FileTree
  calls : List Http.Call
  log : Log

/-- A hint given as a value. -/
def hintOf : Value → Hint
  | .string s => .text s
  | v => .other v

/-- The name of the root type: the one asked for, or the one the URL suggests. -/
def rootHint (r : Request) : Hint :=
  if r.rootTypeName.isGiven then hintOf r.rootTypeName
  else .text (Url.suggestRootName r.urlText Url.rootNameEnding defaultRootName)

/-- A hint as a file name. -/
def hintText : Hint → String
  | .text s => s
  | .other v => v.display

/-- The name of the file to save in. -/
def fileNameOf (r : Request) : String :=
  match r.fileName with
  | .string name =>
    if name.isEmpty then Url.suggestFileName r.urlText (some (hintText r.rootHint)) else name
  | _ => Url.suggestFileName r.urlText (some (hintText r.rootHint))

/-- The directory to save in. -/
def directoryOf (r : Request) : Option String :=
  match r.savePath with
  | .string path => some path
  | _ => none

/-- The value that a body stands for; a text is read. -/
def dataOf : Value → Value
  | .string text =>
    match Json.read text with
    | .ok v => v
    | .error _ => .null
  | v => v

/-- The definitions of what a request fetches with its value, or a message, unless processing breaks
off; with the calls and the log. -/
def retrieve (w : World) (r : Request) :
    Except Break (Except String (String × Value)) × List Http.Call × Log :=
  let fetched := Http.fetch w.codecs w.transport r.urlText r.method r.headers r.body r.timeout
    Http.defaultLimit
  let refused := fun (message : String) (log : Log) =>
    (.ok (.error message), fetched.calls,
      log ++ [⟨.error, .requests, "Process request error: " ++ message⟩])
  match fetched.outcome with
  | .error e => refused e.message fetched.log
  | .ok body =>
    if !Json.isUsable body then
      (.ok (.error "The API response is not valid JSON data"), fetched.calls, fetched.log)
    else
      let data := dataOf body
      let generated := Definitions.generate data r.rootHint false w.now
      match generated.outcome with
      | .error (.rejected rejection) => refused rejection.text (fetched.log ++ generated.log)
      | .error .untold => (.error .unshownName, fetched.calls, fetched.log ++ generated.log)
      | .ok types => (.ok (.ok (types, data)), fetched.calls, fetched.log ++ generated.log)

/-- The directory that a request is saved in. -/
def directoryText (w : World) (r : Request) : List Char :=
  Saving.targetDirectory w.surroundings r.directoryOf

/-- The path that a request is saved at. -/
def pathText (w : World) (r : Request) : List Char :=
  Saving.targetPath w.surroundings r.fileNameOf r.directoryOf

/-- What breaks off the saving of a request at a path that no system takes: a surrogate, if the system
refuses it, or a NUL. -/
def pathBreak (w : World) (r : Request) : Break :=
  let refused := do
    w.encoder.checkPath (String.ofList (r.directoryText w))
    w.encoder.checkPath (String.ofList (r.pathText w))
  match refused with
  | .ok () => .nulByte
  | .error message => .unencodable message

/-- Saves the definitions of a request. -/
def deliver (w : World) (t : FileTree) (r : Request) (types : String) (data : Value) :
    Processed :=
  let name := r.fileNameOf
  let saved := Saving.saveAt w.surroundings t (w.encoder.left types)
    (w.encoder.met (r.directoryText w)) (w.encoder.met (r.pathText w))
  let report := fun (path : Option String) =>
    (⟨r.url, .ok ⟨types, data, some ⟨path.isSome, name, path⟩⟩⟩ : Report)
  match saved.outcome, w.encoder.check types with
  | .ok path, .ok () => ⟨.ok (report (some path)), saved.tree, [], saved.log⟩
  | .ok _, .error message => ⟨.error (.unencodable message), saved.tree, [], []⟩
  | .error .nulByte, _ => ⟨.error (r.pathBreak w), saved.tree, [], saved.log⟩
  | .error fault, _ =>
    ⟨.ok (report none), saved.tree, [],
      saved.log ++ [⟨.error, .requests, "File save error: " ++ fault.message⟩]⟩

/-- Carries out a request that was checked. -/
def run (w : World) (t : FileTree) (r : Request) : Processed :=
  match r.retrieve w with
  | (.error broken, calls, log) => ⟨.error broken, t, calls, log⟩
  | (.ok (.error message), calls, log) => ⟨.ok ⟨r.url, .error message⟩, t, calls, log⟩
  | (.ok (.ok (types, data)), calls, log) =>
    if r.saveToFile then
      let delivered := r.deliver w t types data
      { delivered with calls := calls, log := log ++ delivered.log }
    else ⟨.ok ⟨r.url, .ok ⟨types, data, none⟩⟩, t, calls, log⟩

/-- Processes a request. -/
def process (w : World) (t : FileTree) (v : Value) : Processed :=
  let fields := fieldsOf v
  let refuse := fun (fault : Fault) =>
    (⟨.ok ⟨Value.fieldOf fields "url", .error fault.message⟩, t, [], []⟩ : Processed)
  match fault? v with
  | some fault => refuse fault
  | none =>
    match ofFields fields with
    | .ok r => r.run w t
    | .error _ => refuse .noUrl

end JsonShapes.Request
