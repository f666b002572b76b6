import JsonShapes.Http.Exchange
import JsonShapes.Json.Reader
import JsonShapes.Log

/-!
# Bodies

A body is gathered up to a limit, decoded, and read by its content type.

* `declaredSize`: the size a header declares;
* `gather`: the chunks of a body, unless they grow above the limit or break off;
* `decodeText`: the text of a body in its character encoding;
* `interpret`: the value of a text under a content type.
-/

namespace JsonShapes.Http

/-- Why there is no body to use. -/
inductive Fault
  | status (code : Int) (reason : Option String)
  | tooLarge
  | notJson (fault : Json.Fault)
  | timeout (message : String)
  | connection (message : String)
  | other (message : String)
deriving Repr

/-- A failure that is one of time and of the connection is told as one of time. -/
def Failure.fault (f : Failure) : Fault :=
  if f.trouble.isTimeout then .timeout f.message
  else if f.trouble.isConnection then .connection f.message
  else .other f.message

/-! ### Size -/

/-- The value of a text of digits in any script, or why it has none: too many digits, or one that is
not decimal. -/
def readSize (cs : List Char) : Except String Nat :=
  let digits := cs.takeWhile Text.isDecimal
  if digits.length > Json.maxIntegerDigits then .error (Json.longIntegerText digits.length)
  else if digits.length < cs.length then
    .error ("invalid literal for int() with base 10: "
      ++ String.ofList ((Text.quotedChars cs).take 200))
  else .ok (digits.foldl (fun n c => n * 10 + (Text.decimalValue? c).getD 0) 0)

/-- The size that a header declares, none unless it is made of digits. -/
def declaredSize (header : Option String) : Option (Except String Nat) :=
  match header with
  | none => none
  | some text =>
    let cs := text.toList
    if !cs.isEmpty && cs.all Text.isDigitValued then some (readSize cs) else none

/-- The chunks one after the other, behind `done` bytes; none when they grow above the limit. -/
def collect (limit : Int) (done : Nat) : List (List UInt8) → Option (List UInt8)
  | [] => some []
  | chunk :: rest =>
    let size := done + chunk.length
    if (size : Int) > limit then none else (collect limit size rest).map (chunk ++ ·)

/-- The body of a response. -/
def gather (limit : Int) (r : Response) : Except Fault (List UInt8) :=
  match declaredSize (r.header? "content-length") with
  | some (.error message) => .error (.other message)
  | some (.ok size) => if (size : Int) > limit then .error .tooLarge else fromStream
  | none => fromStream
where
  /-- The body as it streams. -/
  fromStream : Except Fault (List UInt8) :=
    match collect limit 0 r.chunks, r.breaksOff with
    | none, _ => .error .tooLarge
    | some _, some failure => .error failure.fault
    | some body, none => .ok body

/-! ### Text -/

/-- The encoding a response names, UTF-8 when it names none. -/
def charsetName (charset : Option String) : String :=
  match charset with
  | some name => if name.isEmpty then "utf-8" else name
  | none => "utf-8"

/-- Whether the name of an encoding can be looked up at all. -/
def isCharsetName (name : String) : Bool := !name.toList.contains '\x00'

/-- The text of a body; UTF-8 stands in for an encoding that is not known.  No encoding is looked up
for an empty body, and none by a name with a NUL. -/
def decodeText (codecs : Text.Codecs) (charset : Option String) (body : List UInt8) :
    Except Fault (List Char × Log) :=
  let name := charsetName charset
  if !isCharsetName name then .error (.other "embedded null character")
  else if body.isEmpty then .ok ([], [])
  else
    match codecs.decode name body with
    | .text cs => .ok (cs, [])
    | .failed message => .error (.other message)
    | .unknown =>
      .ok (Text.Utf8.decodeLossy body,
        [⟨.warning, .exchange, "Unknown response charset " ++ name ++ ", decoding as utf-8"⟩])

/-! ### Value -/

/-- Whether a text stands somewhere in another one. -/
def occursIn (part : List Char) : List Char → Bool
  | [] => part.isEmpty
  | c :: rest => part.isPrefixOf (c :: rest) || occursIn part rest

/-- The value of a text: JSON when the content type says so, the text itself when it says text, and
JSON if possible otherwise. -/
def interpret (contentType : String) (text : String) : Except Fault Value :=
  let isJson := occursIn "application/json".toList contentType.toList
  let isText := occursIn "text/".toList contentType.toList
  if !isJson && isText then .ok (.string text)
  else
    match Json.read text with
    | .ok v => .ok v
    | .error (.malformed fault position) =>
      if isJson then .error (.notJson (.malformed fault position)) else .ok (.string text)
    | .error limit => .error (.other limit.message)

end JsonShapes.Http
