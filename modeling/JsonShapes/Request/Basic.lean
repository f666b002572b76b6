import JsonShapes.Http.Fetch
import JsonShapes.Request.Headers

/-!
# Requests

A request to generate the definitions of what a URL answers, as an object describes it.
-/

namespace JsonShapes

/-- A request.  What was not given is null or has its default; nothing is checked here. -/
structure Request where
  url : Value
  headers : List (Key × Value)
  method : Value
  body : Value
  rootTypeName : Value
  saveToFile : Bool
  fileName : Value
  savePath : Value
  timeout : Value

namespace Request

/-- The fields of a value that is an object, none of any other. -/
def fieldsOf : Value → List (Key × Value)
  | .object fields => fields
  | _ => []

/-- Why a value describes no request. -/
inductive FormFault
  | notObject (given : Value)
  | noUrl
  | headers (fault : HeadersFault)

def FormFault.message : FormFault → String
  | notObject (.array _) => "list indices must be integers or slices, not str"
  | notObject (.tuple _) => "tuple indices must be integers or slices, not str"
  | notObject (.string _) => "string indices must be integers, not 'str'"
  | notObject v => "'" ++ v.kindName ++ "' object is not subscriptable"
  | noUrl => "'url'"
  | headers fault => fault.message

/-- The request that fields describe; they have to hold a URL. -/
def ofFields (fields : List (Key × Value)) : Except FormFault Request := do
  let field := Value.fieldOf fields
  let some url := fields.lookup (.name "url") | throw .noUrl
  let headers ← (headersOf (field "headers")).mapError .headers
  return {
    url := url
    headers := headers
    method := (field "method").orElse (.string "GET")
    body := field "body"
    rootTypeName := field "rootTypeName"
    saveToFile := (field "saveToFile").isGiven
    fileName := field "fileName"
    savePath := field "savePath"
    timeout := (field "timeout").orElse Http.defaultTimeout }

/-- The request that a value describes. -/
def ofValue : Value → Except FormFault Request
  | .object fields => ofFields fields
  | v => .error (.notObject v)

/-- The text of the URL. -/
def urlText (r : Request) : String := r.url.display

end Request

end JsonShapes
