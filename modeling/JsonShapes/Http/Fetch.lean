import JsonShapes.Http.Body
import JsonShapes.Url.Guard

/-!
# Fetching

A URL is checked, called once, and the answer is turned into a value or an error with a code and a
status.
-/

namespace JsonShapes.Http

/-! ### Errors -/

def Fault.message : Fault → String
  | status code reason => "HTTP " ++ toString code ++ ": " ++ reason.getD "None"
  | tooLarge => "Response too large"
  | notJson fault => "Invalid JSON in response: " ++ fault.message
  | timeout message => message
  | connection message => message
  | other message => message

/-- The error that a fault is reported as. -/
def Fault.error (f : Fault) : ApiError :=
  match f with
  | status code _ => ⟨f.message, "HTTP_ERROR", code⟩
  | tooLarge => ⟨f.message, "RESPONSE_TOO_LARGE", 413⟩
  | notJson _ => ⟨f.message, "UNKNOWN_ERROR", 500⟩
  | timeout _ => ⟨"Request timeout", "TIMEOUT", 408⟩
  | connection _ => ⟨"Network error: Unable to connect to the server", "NETWORK_ERROR", 503⟩
  | other message =>
    ⟨if message.isEmpty then "Unknown error occurred" else message, "UNKNOWN_ERROR", 500⟩

/-- What is logged about a fault. -/
def Fault.record (f : Fault) : Record :=
  match f with
  | timeout message => ⟨.error, .exchange, "HTTP request timed out: " ++ message⟩
  | connection message => ⟨.error, .exchange, "HTTP connection failed: " ++ message⟩
  | f => ⟨.error, .exchange, "HTTP request failed: " ++ f.message⟩

/-! ### Calls -/

/-- The headers of every call. -/
def defaultHeaders : List (Key × Value) := [
  (.name "User-Agent", .string "QuickType/1.0.0"),
  (.name "Accept", .string "application/json, text/plain, */*")]

/-- The default headers with further ones put in. -/
def withHeaders (headers : List (Key × Value)) : List (Key × Value) :=
  headers.foldl (fun all h => Value.putField h.1 h.2 all) defaultHeaders

/-- The timeout of a call that is given none, in seconds. -/
def defaultTimeout : Value := .int 30

/-- The largest body that is accepted, in bytes. -/
def defaultLimit : Int := 10485760

/-! ### Answers -/

/-- A value or a fault, and what was logged on the way. -/
structure Answer where
  outcome : Except Fault Value
  log : Log

/-- What a body amounts to under the encoding and the content type of a response. -/
def Response.read (codecs : Text.Codecs) (r : Response) (body : List UInt8) : Answer :=
  match decodeText codecs r.charset body with
  | .error fault => ⟨.error fault, []⟩
  | .ok (text, log) =>
    ⟨interpret ((r.header? "content-type").getD "") (String.ofList text), log⟩

/-- What a response amounts to. -/
def Response.answer (codecs : Text.Codecs) (limit : Int) (r : Response) : Answer :=
  if r.status < 200 || r.status ≥ 300 then ⟨.error (.status r.status r.reason), []⟩
  else
    match gather limit r with
    | .error fault => ⟨.error fault, []⟩
    | .ok body => r.read codecs body

/-- What an exchange amounts to. -/
def Exchange.answer (codecs : Text.Codecs) (limit : Int) : Exchange → Answer
  | .failure f => ⟨.error f.fault, []⟩
  | .response r => r.answer codecs limit

/-- The outcome of a fetch, the calls it made, and what it logged. -/
structure Fetched where
  outcome : Except ApiError Value
  calls : List Call
  log : Log

/-- Fetches the value behind a URL. -/
def fetch (codecs : Text.Codecs) (transport : Call → Exchange) (url : String) (method : Value)
    (headers : List (Key × Value)) (body timeout : Value) (limit : Int) : Fetched :=
  match Url.refusal? url with
  | some refusal => ⟨.error refusal.error, [], []⟩
  | none =>
    let call : Call := ⟨method, url, withHeaders headers, body, timeout⟩
    let opening : Record := ⟨.info, .exchange, method.display ++ " " ++ url⟩
    let answer := (transport call).answer codecs limit
    match answer.outcome with
    | .ok v => ⟨.ok v, [call], opening :: answer.log⟩
    | .error fault => ⟨.error fault.error, [call], opening :: answer.log ++ [fault.record]⟩

end JsonShapes.Http
