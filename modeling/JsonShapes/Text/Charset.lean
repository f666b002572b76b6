import JsonShapes.Text.Utf8
import JsonShapes.Text.Words

/-!
# Character encodings by name

What a system decodes by the name of an encoding (`Codecs`), and a table of encodings that serves as
one, with lossy decoding in each.
-/

namespace JsonShapes.Text

inductive Charset
  | utf8
  /-- UTF-8 without its leading byte order mark. -/
  | utf8Signed
  | latin1
  | ascii
  | windows1252
  /-- UTF-16 in the order its mark tells, little-endian without one. -/
  | utf16
  | utf16LittleEndian
  | utf16BigEndian
deriving DecidableEq, Repr

namespace Charset

/-! ### Names -/

/-- A name in lower case with an underscore for every run of other characters than letters, digits
and points. -/
def normalName (name : String) : String :=
  let plain := (words (fun c => !(isLetter c || isNumeral c || c == '.')) name.toList).map
    fun w => (w.filter fun c => c.toNat < 0x80).map Char.toLower
  String.ofList (join ['_'] (plain.dropWhile List.isEmpty))

/-- The names of each encoding, in their normal form. -/
def names : List (String × Charset) := [
  ("utf_8", utf8), ("utf8", utf8), ("u8", utf8), ("utf", utf8), ("cp65001", utf8),
  ("utf8_ucs2", utf8), ("utf8_ucs4", utf8), ("utf_8_sig", utf8Signed),
  ("latin_1", latin1), ("iso8859_1", latin1), ("iso_8859_1", latin1), ("l1", latin1),
  ("latin", latin1), ("latin1", latin1), ("8859", latin1), ("cp819", latin1),
  ("iso8859", latin1), ("iso_8859_1_1987", latin1), ("iso_ir_100", latin1),
  ("csisolatin1", latin1), ("ibm819", latin1),
  ("ascii", ascii), ("us_ascii", ascii), ("us", ascii), ("646", ascii), ("cp367", ascii),
  ("csascii", ascii), ("ibm367", ascii), ("iso646_us", ascii), ("iso_646.irv_1991", ascii),
  ("iso_ir_6", ascii), ("ansi_x3_4_1968", ascii), ("ansi_x3.4_1968", ascii),
  ("ansi_x3.4_1986", ascii),
  ("cp1252", windows1252), ("1252", windows1252), ("windows_1252", windows1252),
  ("utf_16", utf16), ("u16", utf16), ("utf16", utf16),
  ("utf_16_le", utf16LittleEndian), ("utf_16le", utf16LittleEndian),
  ("unicodelittleunmarked", utf16LittleEndian),
  ("utf_16_be", utf16BigEndian), ("utf_16be", utf16BigEndian),
  ("unicodebigunmarked", utf16BigEndian)]

/-- The encoding of a name. -/
def named? (name : String) : Option Charset := names.lookup (normalName name)

/-! ### Decoding -/

def replacement : Char := '\uFFFD'

/-- What Windows-1252 has at 80 to 9F; zero where it has nothing. -/
def windowsUpper : List Nat := [
  0x20AC, 0, 0x201A, 0x192, 0x201E, 0x2026, 0x2020, 0x2021, 0x2C6, 0x2030, 0x160, 0x2039, 0x152,
  0, 0x17D, 0, 0, 0x2018, 0x2019, 0x201C, 0x201D, 0x2022, 0x2013, 0x2014, 0x2DC, 0x2122, 0x161,
  0x203A, 0x153, 0, 0x17E, 0x178]

def windowsChar (b : UInt8) : Char :=
  let n := b.toNat
  if 0x80 ≤ n && n < 0xA0 then
    match windowsUpper.getD (n - 0x80) 0 with
    | 0 => replacement
    | code => Char.ofNat code
  else Char.ofNat n

/-- The value of two bytes, the more significant one told by `bigEndian`. -/
def unit16 (bigEndian : Bool) (a b : UInt8) : Nat :=
  if bigEndian then a.toNat * 256 + b.toNat else b.toNat * 256 + a.toNat

def isHighSurrogate (n : Nat) : Bool := 0xD800 ≤ n && n < 0xDC00
def isLowSurrogate (n : Nat) : Bool := 0xDC00 ≤ n && n < 0xE000

/-- The character of a surrogate pair. -/
def joinSurrogates (high low : Nat) : Char :=
  Char.ofNat (0x10000 + (high - 0xD800) * 0x400 + (low - 0xDC00))

/-- The character of a unit that pairs with nothing. -/
def unitChar (n : Nat) : Char := if isLowSurrogate n then replacement else Char.ofNat n

/-- UTF-16 behind a high surrogate that is still to be paired, if one is `held`.  What pairs with
nothing is replaced; so is what is left when the text ends inside a character. -/
def decodeUnits (bigEndian : Bool) : (held : Option Nat) → List UInt8 → List Char
  | none, [] => []
  | some _, [] => [replacement]
  | _, [_] => [replacement]
  | held, a :: b :: rest =>
    let unit := unit16 bigEndian a b
    match held, isLowSurrogate unit with
    | some high, true => joinSurrogates high unit :: decodeUnits bigEndian none rest
    | held, _ =>
      let unpaired := if held.isSome then [replacement] else []
      if isHighSurrogate unit then unpaired ++ decodeUnits bigEndian (some unit) rest
      else unpaired ++ unitChar unit :: decodeUnits bigEndian none rest

/-- UTF-16 without a mark. -/
def decodeUtf16 (bigEndian : Bool) (bytes : List UInt8) : List Char :=
  decodeUnits bigEndian none bytes

/-- Lossy decoding. -/
def decodeLossy (bytes : List UInt8) : Charset → List Char
  | utf8 => Utf8.decodeLossy bytes
  | utf8Signed =>
    match bytes with
    | 0xEF :: 0xBB :: 0xBF :: rest => Utf8.decodeLossy rest
    | _ => Utf8.decodeLossy bytes
  | latin1 => bytes.map fun b => Char.ofNat b.toNat
  | ascii => bytes.map fun b => if b.toNat < 0x80 then Char.ofNat b.toNat else replacement
  | windows1252 => bytes.map windowsChar
  | utf16 =>
    match bytes with
    | 0xFF :: 0xFE :: rest => decodeUtf16 false rest
    | 0xFE :: 0xFF :: rest => decodeUtf16 true rest
    | _ => decodeUtf16 false bytes
  | utf16LittleEndian => decodeUtf16 false bytes
  | utf16BigEndian => decodeUtf16 true bytes

end Charset

/-! ### Decoding by name -/

/-- What decoding by the name of an encoding comes to. -/
inductive Decoded
  /-- There is no encoding of that name. -/
  | unknown
  /-- There is one, and it fails all the same. -/
  | failed (message : String)
  | text (cs : List Char)
deriving DecidableEq, Repr

/-- The encodings of a system: lossy decoding by name.  They are the system's own; only UTF-8 is sure
to be among them. -/
structure Codecs where
  decode : (name : String) → (bytes : List UInt8) → Decoded
  utf8 : ∀ bytes, decode "utf-8" bytes = .text (Utf8.decodeLossy bytes)

/-- Decoding by the table of encodings. -/
def Charset.decodeNamed (name : String) (bytes : List UInt8) : Decoded :=
  match named? name with
  | some known => .text (known.decodeLossy bytes)
  | none => .unknown

theorem Charset.named?_utf8 : named? "utf-8" = some .utf8 := by decide +kernel

/-- A system with the encodings of the table and no others. -/
def Charset.codecs : Codecs where
  decode := decodeNamed
  utf8 bytes := by rw [decodeNamed, named?_utf8]; rfl

end JsonShapes.Text
