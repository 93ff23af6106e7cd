import ProxyLog.Text.Case
import ProxyLog.Text.Quoted
import ProxyLog.Text.Utf8

/-!
# Character encodings of files

* `Encoding`: the encodings that log files come in.
* `Encoding.ofName? s`: the encoding of a name. Case and punctuation do not matter, apart from full
  stops, and each encoding has other names besides its own.
* `Encoding.decode e bytes`: the text, or the first octet that cannot be read.
* `DecodeError.message`: what is said about it.
-/

set_option autoImplicit false

namespace ProxyLog.Text

/-- The encodings that log files come in. -/
inductive Encoding
  | utf8
  | ascii
  | latin1
  deriving DecidableEq, Repr

/-- Octets that are no text in the encoding asked for. -/
inductive DecodeError
  | utf8 (fault : Utf8.FaultAt) (first : UInt8)
  | ascii (octet : UInt8) (position : Nat)
  deriving DecidableEq, Repr

/-! ## Names -/

/-- A letter or digit of ASCII, or a full stop. -/
def isNameChar (c : Char) : Bool := c.isAlphanum || c == '.'

/-- The plain form of an encoding name: lower case, its words joined by single underscores.
`pending` says that punctuation was passed since the last word; it counts only between words. -/
def plainName (pending first : Bool) : List Char → List Char
  | [] => []
  | c :: cs =>
    if isNameChar c then
      (if pending && !first then ['_', asciiLower c] else [asciiLower c]) ++ plainName false false cs
    else plainName true first cs

/-- The encodings by their own names. -/
def ownNames : List (String × Encoding) := [("utf_8", .utf8), ("ascii", .ascii), ("latin_1", .latin1)]

/-- The other names of each encoding. -/
def otherNames : List (Encoding × List String) := [
  (.utf8, ["utf8", "u8", "utf", "utf8_ucs2", "utf8_ucs4", "cp65001"]),
  (.ascii, ["us_ascii", "us", "646", "ansi_x3.4_1968", "ansi_x3_4_1968", "ansi_x3.4_1986", "cp367",
    "csascii", "ibm367", "iso646_us", "iso_646.irv_1991", "iso_ir_6"]),
  (.latin1, ["latin1", "latin", "l1", "8859", "cp819", "csisolatin1", "ibm819", "iso8859", "iso8859_1",
    "iso_8859_1", "iso_8859_1_1987", "iso_ir_100"])]

/-- The encoding that has another name. -/
def ofOtherName? (plain : String) : Option Encoding :=
  (otherNames.find? fun entry => entry.2.contains plain).map (·.1)

/-- The word for the encoding of the system, which is UTF-8. -/
def systemName : String := "locale"

/-- The encoding that a name stands for. In another name full stops may stand for underscores, in an
encoding's own name they may not. -/
def Encoding.ofName? (name : String) : Option Encoding :=
  let plain := plainName false true name.toList
  let spelled := plain.map fun c => if c = '.' then '_' else c
  if name = systemName then some .utf8
  else ((ofOtherName? (String.ofList plain)).or (ofOtherName? (String.ofList spelled))).or
    (ownNames.lookup (String.ofList plain))

/-! ## Decoding -/

/-- Reads octets below 128 one by one. -/
def decodeAscii (pos : Nat) (out : List Char) : List UInt8 → Except DecodeError (List Char)
  | [] => .ok out.reverse
  | b :: rest =>
    if b.toNat < 0x80 then decodeAscii (pos + 1) (Char.ofNat b.toNat :: out) rest
    else .error (.ascii b pos)

def Encoding.decode (encoding : Encoding) (bytes : List UInt8) : Except DecodeError (List Char) :=
  match encoding with
  | .latin1 => .ok (bytes.map fun b => Char.ofNat b.toNat)
  | .ascii => decodeAscii 0 [] bytes
  | .utf8 =>
    match Utf8.decode bytes with
    | .ok cs => .ok cs
    | .error fault => .error (.utf8 fault ((bytes.drop fault.start).headD 0))

/-! ## Messages -/

def Utf8.Fault.reason : Utf8.Fault → String
  | .badStart => "invalid start byte"
  | .badContinuation => "invalid continuation byte"
  | .truncated => "unexpected end of data"

/-- Two hexadecimal digits. -/
def octetText (b : UInt8) : String := String.ofList ('0' :: 'x' :: hexDigits 2 b.toNat)

def DecodeError.message : DecodeError → String
  | .utf8 fault first =>
    let place :=
      if fault.size = 1 then s!"byte {octetText first} in position {fault.start}"
      else s!"bytes in position {fault.start}-{fault.start + fault.size - 1}"
    "'utf-8' codec can't decode " ++ place ++ ": " ++ fault.fault.reason
  | .ascii octet position =>
    s!"'ascii' codec can't decode byte {octetText octet} in position {position}: " ++
      "ordinal not in range(128)"

end ProxyLog.Text
