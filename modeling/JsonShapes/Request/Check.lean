import JsonShapes.Url.Basic
import JsonShapes.Value

/-!
# Checking requests

A request comes as an object of any values.  It is checked before anything is fetched; the first
fault in the order of the checks is told.
-/

namespace JsonShapes.Request

/-- What is wrong with a request. -/
inductive Fault
  | missing
  | notObject
  | noUrl
  | malformedUrl
  | headersNotObject
  | unknownMethod
  | fileNameNotText
  | savePathNotText
deriving DecidableEq, Repr

def Fault.message : Fault → String
  | missing => "Request data is required"
  | notObject => "Request data must be an object"
  | noUrl => "URL is required and must be a string"
  | malformedUrl => "Invalid URL format"
  | headersNotObject => "Headers must be an object"
  | unknownMethod => "Invalid HTTP method"
  | fileNameNotText => "File name must be a string"
  | savePathNotText => "Save path must be a string"

/-- The methods a request may use. -/
def methods : List String := ["GET", "POST", "PUT", "DELETE", "PATCH"]

def isMethod : Value → Bool
  | .string s => methods.contains s
  | _ => false

/-- A fault unless a condition holds. -/
def demand (condition : Bool) (fault : Fault) : Except Fault Unit :=
  if condition then .ok () else .error fault

/-- The checks of the URL of a request. -/
def checkUrl : Value → Except Fault Unit
  | .string url => do
    demand (!url.isEmpty) .noUrl
    match Url.parse? url with
    | some parsed => demand parsed.isAbsolute .malformedUrl
    | none => throw .malformedUrl
  | _ => .error .noUrl

/-- Whether a value is missing or of a kind. -/
def absentOr (kind : Value → Bool) (v : Value) : Bool := !v.isGiven || kind v

/-- The checks of a request that is an object. -/
def checkFields (fields : List (Key × Value)) : Except Fault Unit := do
  let field := Value.fieldOf fields
  checkUrl (field "url")
  demand (absentOr Value.isObject (field "headers")) .headersNotObject
  demand (absentOr isMethod (field "method")) .unknownMethod
  if (field "saveToFile").isGiven then
    demand (absentOr Value.isString (field "fileName")) .fileNameNotText
    demand (absentOr Value.isString (field "savePath")) .savePathNotText

/-- Checks a request. -/
def check (v : Value) : Except Fault Unit :=
  if !v.isGiven then .error .missing
  else
    match v with
    | .object fields => checkFields fields
    | _ => .error .notObject

/-- What is wrong with a request, if anything is. -/
def fault? (v : Value) : Option Fault :=
  match check v with
  | .ok () => none
  | .error fault => some fault

end JsonShapes.Request
