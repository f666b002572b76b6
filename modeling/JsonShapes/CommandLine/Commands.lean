import JsonShapes.CommandLine.Grammar
import JsonShapes.Request.Check

/-!
# The commands

The grammar of the program and of its two commands, with their help texts, and the jobs that
arguments ask for.
-/

namespace JsonShapes.CommandLine

/-! ### Texts -/

def programName : String := "quicktypegen"
def version : String := "0.1.0"

def mainUsage : String :=
  "usage: quicktypegen [-h] [--version] [--verbose] \x7bjson2ts,url2ts\x7d ...\n"

def mainHelp : String := mainUsage ++ "
Generate TypeScript type definitions from JSON data.

positional arguments:
  \x7bjson2ts,url2ts\x7d
    json2ts         Generate TypeScript type definitions from a JSON file
    url2ts          Generate TypeScript type definitions from the JSON
                    response of a URL

options:
  -h, --help        show this help message and exit
  --version         Print the version of quicktypegen.
  --verbose         Print debug output.
"

def fileUsage : String :=
"usage: quicktypegen json2ts [-h] [--out OUT] [--root-name ROOT_NAME]
                            [--detect-dates]
                            [input]
"

def fileHelp : String := fileUsage ++ "
positional arguments:
  input                 Path to the JSON file (reads stdin if omitted)

options:
  -h, --help            show this help message and exit
  --out OUT             Path to the TypeScript output file (writes stdout if
                        omitted)
  --root-name ROOT_NAME
                        Name of the root type (defaults to the input file
                        name)
  --detect-dates        Type ISO-8601 date-time strings as Date
"

def urlUsage : String :=
"usage: quicktypegen url2ts [-h] [--out OUT]
                           [--method \x7bGET,POST,PUT,DELETE,PATCH\x7d]
                           [--header [HEADER ...]] [--body BODY]
                           [--root-name ROOT_NAME] [--timeout TIMEOUT]
                           [--save-path SAVE_PATH]
                           url
"

def urlHelp : String := urlUsage ++ "
positional arguments:
  url                   HTTP or HTTPS URL returning JSON

options:
  -h, --help            show this help message and exit
  --out OUT             Path to the TypeScript output file (writes stdout if
                        omitted)
  --method \x7bGET,POST,PUT,DELETE,PATCH\x7d
                        HTTP method
  --header [HEADER ...]
                        Request header as 'Name: value' (repeatable)
  --body BODY           Request body
  --root-name ROOT_NAME
                        Name of the root type (defaults to one derived from
                        the URL)
  --timeout TIMEOUT     Request timeout in seconds
  --save-path SAVE_PATH
                        Directory to save the definitions into under a name
                        derived from the URL
"

/-! ### Grammars -/

def helpFlag : Flag := ⟨["-h", "--help"], .none, .text, true⟩

/-- A flag without arguments. -/
def switch (name : String) : Flag := ⟨[name], .none, .text, false⟩

/-- An option with one text. -/
def textOption (name : String) : Flag := ⟨[name], .one, .text, false⟩

def commandNames : List String := ["json2ts", "url2ts"]

def mainGrammar : Grammar where
  program := programName
  usage := mainUsage
  help := mainHelp
  flags := [helpFlag, switch "--version", switch "--verbose"]
  positional := .command "command" commandNames

def fileGrammar : Grammar where
  program := programName ++ " json2ts"
  usage := fileUsage
  help := fileHelp
  flags := [helpFlag, textOption "--out", textOption "--root-name", switch "--detect-dates"]
  positional := .optional "input"

def urlGrammar : Grammar where
  program := programName ++ " url2ts"
  usage := urlUsage
  help := urlHelp
  flags := [helpFlag, textOption "--out", ⟨["--method"], .one, .choice Request.methods, false⟩,
    ⟨["--header"], .many, .text, false⟩, textOption "--body", textOption "--root-name",
    ⟨["--timeout"], .one, .number, false⟩, textOption "--save-path"]
  positional := .required "url"

/-! ### Jobs -/

/-- What json2ts is asked to do. -/
structure FileOptions where
  input : Option String
  output : Option String
  rootName : Option String
  dates : Bool
deriving DecidableEq, Repr

/-- What url2ts is asked to do. -/
structure UrlOptions where
  url : String
  output : Option String
  method : String
  headers : List String
  body : Option String
  rootName : Option String
  timeout : Option Float
  savePath : Option String
deriving Repr

/-- What the program is asked to do. -/
inductive Command
  | help
  | version
  | file (verbose : Bool) (options : FileOptions)
  | url (verbose : Bool) (options : UrlOptions)
deriving Repr

def fileOptions (s : Settings) : FileOptions where
  input := s.positional
  output := s.text? "--out"
  rootName := s.text? "--root-name"
  dates := s.has "--detect-dates"

/-- The texts among values. -/
def texts (data : List Datum) : List String :=
  data.filterMap fun
    | .text t => some t
    | .number _ => none

def urlOptions (s : Settings) : UrlOptions where
  url := s.positional.getD ""
  output := s.text? "--out"
  method := (s.text? "--method").getD "GET"
  headers := texts ((s.values? "--header").getD [])
  body := s.text? "--body"
  rootName := s.text? "--root-name"
  timeout :=
    match s.values? "--timeout" with
    | some (.number x :: _) => some x
    | _ => none
  savePath := s.text? "--save-path"

/-- The command of settings of the main grammar, and the arguments that it left over too. -/
def commandOf (s : Settings) : Except Stop (Command × List String) := do
  let verbose := s.has "--verbose"
  match s.command with
  | none => return (.help, [])
  | some (name, args) =>
    if name == "json2ts" then
      let sub ← fileGrammar.parse args
      return (.file verbose (fileOptions sub), sub.extras)
    else
      let sub ← urlGrammar.parse args
      return (.url verbose (urlOptions sub), sub.extras)

/-- What arguments ask for. -/
def parse (args : List String) : Except Stop Command := do
  let s ← mainGrammar.parse args
  let (command, leftOver) ← commandOf s
  let unknown := s.extras ++ leftOver
  if !unknown.isEmpty then
    throw (mainGrammar.misuse ("unrecognized arguments: " ++ String.intercalate " " unknown))
  return if s.has "--version" then .version else command

end JsonShapes.CommandLine
