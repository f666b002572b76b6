import JsonShapes.Text.Case
import JsonShapes.Value

/-!
# Exchanges

One call over a transport and what comes back.  A transport is a function from calls to exchanges,
so that everything around it can be computed.
-/

namespace JsonShapes.Http

/-- What is handed to the transport.  Method, body and timeout go through as they are. -/
structure Call where
  method : Value
  url : String
  headers : List (Key × Value)
  body : Value
  timeout : Value
deriving Repr

/-- The ways a transport fails. -/
inductive Trouble
  | timeout
  | connection
  /-- Time ran out before there was a connection. -/
  | connectTimeout
  | other
deriving DecidableEq, Repr

/-- Whether a failure is one of time. -/
def Trouble.isTimeout : Trouble → Bool
  | timeout | connectTimeout => true
  | connection | other => false

/-- Whether a failure is one of the connection. -/
def Trouble.isConnection : Trouble → Bool
  | connection | connectTimeout => true
  | timeout | other => false

structure Failure where
  trouble : Trouble
  message : String
deriving DecidableEq, Repr

/-- A response whose body comes in chunks, and may break off behind them. -/
structure Response where
  status : Int
  reason : Option String
  headers : List (String × String)
  /-- The name of the character encoding. -/
  charset : Option String
  chunks : List (List UInt8)
  breaksOff : Option Failure
deriving DecidableEq, Repr

/-- What a call leads to. -/
inductive Exchange
  | failure (f : Failure)
  | response (r : Response)
deriving DecidableEq, Repr

/-- The last header of a name, in any case. -/
def Response.header? (r : Response) (name : String) : Option String :=
  (r.headers.reverse.find? fun h => Text.lower h.1.toList == name.toList).map (·.2)

end JsonShapes.Http
