import JsonShapes.Text.Quoted

/-!
# UTF-8

Encoding, and decoding in two ways: strict, with the place and the reason of the first fault, and
lossy, with one replacement character for every maximal ill-formed part.
-/

namespace JsonShapes.Text.Utf8

/-- The bytes of a text. -/
def encode (cs : List Char) : List UInt8 := cs.flatMap String.utf8EncodeChar

/-- Why bytes are no character. -/
inductive Reason
  | invalidStart
  | invalidContinuation
  | unexpectedEnd
deriving DecidableEq, Repr

/-- What stands at the head of a byte sequence: a character, or an ill-formed part; with its width. -/
inductive Head
  | char (c : Char) (width : Nat)
  | fault (reason : Reason) (width : Nat)
deriving DecidableEq, Repr

def Head.width : Head → Nat
  | .char _ width => width
  | .fault _ width => width

/-- Reads `missing` more bytes of a character; the next has to lie between `least` and `greatest`. -/
def continueWith (least greatest : Nat) : (missing acc width : Nat) → List UInt8 → Head
  | 0, acc, width, _ => .char (Char.ofNat acc) width
  | _ + 1, _, width, [] => .fault .unexpectedEnd width
  | missing + 1, acc, width, b :: rest =>
    if least ≤ b.toNat && b.toNat ≤ greatest then
      continueWith 0x80 0xBF missing (acc * 64 + (b.toNat - 0x80)) (width + 1) rest
    else .fault .invalidContinuation width

/-- The head of a sequence that starts with the byte `b`; the second byte is narrowed so that no
character is written too long, is a surrogate or lies above the last code point. -/
def head (b : UInt8) (rest : List UInt8) : Head :=
  let n := b.toNat
  if n < 0x80 then .char (Char.ofNat n) 1
  else if n < 0xC2 then .fault .invalidStart 1
  else if n < 0xE0 then continueWith 0x80 0xBF 1 (n - 0xC0) 1 rest
  else if n < 0xF0 then
    continueWith (if n == 0xE0 then 0xA0 else 0x80) (if n == 0xED then 0x9F else 0xBF)
      2 (n - 0xE0) 1 rest
  else if n < 0xF5 then
    continueWith (if n == 0xF0 then 0x90 else 0x80) (if n == 0xF4 then 0x8F else 0xBF)
      3 (n - 0xF0) 1 rest
  else .fault .invalidStart 1

/-- The characters and ill-formed parts of a byte sequence, in order. -/
def heads : List UInt8 → List Head
  | [] => []
  | b :: rest => head b rest :: heads (rest.drop ((head b rest).width - 1))
termination_by bytes => bytes.length
decreasing_by simp only [List.length_drop, List.length_cons]; omega

/-- Lossy decoding. -/
def decodeLossy (bytes : List UInt8) : List Char :=
  (heads bytes).map fun
    | .char c _ => c
    | .fault _ _ => '\uFFFD'

/-- The first ill-formed part of a byte sequence. -/
structure Fault where
  reason : Reason
  position : Nat
  width : Nat
  /-- The byte at `position`. -/
  lead : UInt8
deriving DecidableEq, Repr

/-- The characters of well-formed heads, or the first fault with its position. -/
def collect (position : Nat) : List Head → Except (Reason × Nat × Nat) (List Char)
  | [] => .ok []
  | .char c width :: rest => (c :: ·) <$> collect (position + width) rest
  | .fault reason width :: _ => .error (reason, position, width)

/-- Strict decoding. -/
def decode (bytes : List UInt8) : Except Fault (List Char) :=
  (collect 0 (heads bytes)).mapError fun (reason, position, width) =>
    ⟨reason, position, width, bytes.getD position 0⟩

def Reason.text : Reason → String
  | .invalidStart => "invalid start byte"
  | .invalidContinuation => "invalid continuation byte"
  | .unexpectedEnd => "unexpected end of data"

def Fault.message (f : Fault) : String :=
  let reason := f.reason.text
  let first := f.position
  if f.width == 1 then
    let byte := String.ofList (hex 2 f.lead.toNat)
    s!"'utf-8' codec can't decode byte 0x{byte} in position {first}: {reason}"
  else
    let last := f.position + f.width - 1
    s!"'utf-8' codec can't decode bytes in position {first}-{last}: {reason}"

end JsonShapes.Text.Utf8
