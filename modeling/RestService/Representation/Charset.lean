import RestService.Representation.Error
import RestService.Text.Blank
import RestService.Text.Case
import RestService.Text.Escaped
import RestService.Text.Utf8

set_option autoImplicit false

namespace RestService

inductive Charset
  | utf8
  | usAscii
  | latin1
  deriving DecidableEq, Repr

namespace Charset

def name : Charset → String
  | utf8 => "utf-8"
  | usAscii => "us-ascii"
  | latin1 => "iso-8859-1"

/-- The charset of a name or an alias, in letters of either case. -/
def ofName? (s : String) : Option Charset :=
  let spelling := Text.lowerAscii (Text.trim s)
  if spelling ∈ ["utf-8", "utf8"] then some utf8
  else if spelling ∈ ["us-ascii", "ascii"] then some usAscii
  else if spelling ∈ ["iso-8859-1", "iso8859-1", "latin-1", "latin1"] then some latin1
  else none

/-- The usual name of a charset that goes by the name `s`. -/
def canonical? (s : String) : Option String := (ofName? s).map name

def ofName (s : String) : Except CodecError Charset :=
  match ofName? s with
  | some charset => .ok charset
  | none => .error (.unsupportedCharset s)

def byteOrderMark : List UInt8 := [0xEF, 0xBB, 0xBF]

def withoutMark (bytes : ByteArray) : ByteArray :=
  if (bytes.extract 0 3).toList = byteOrderMark then bytes.extract 3 bytes.size else bytes

/-- The text in which each byte is the character of its number. -/
def directText (bytes : ByteArray) : String :=
  String.ofList (bytes.toList.map fun b => Char.ofNat b.toNat)

def decode (charset : Charset) (bytes : ByteArray) : Except CodecError String :=
  match charset with
  | utf8 =>
    match Text.decodeUtf8 (withoutMark bytes) with
    | .ok text => .ok text
    | .error fault => .error (.malformed utf8.name (Text.utf8FaultMessage fault))
  | usAscii =>
    match bytes.toList.findIdx? fun b => 0x80 ≤ b with
    | some offset => .error (.malformed usAscii.name s!"non-ASCII byte at offset {offset}")
    | none => .ok (directText bytes)
  | latin1 => .ok (directText bytes)

/-- The bytes of a text whose characters are all below `bound`, which is at most 256. -/
def encodeBelow (charset : Charset) (bound : Nat) (cs : List Char) :
    Except CodecError (List UInt8) :=
  match cs.find? fun c => bound ≤ c.toNat with
  | some c =>
    .error (.unformattable charset.name s!"character {Text.quotedChar c} is not representable")
  | none => .ok (cs.map fun c => UInt8.ofNat c.toNat)

def encode (charset : Charset) (text : String) : Except CodecError ByteArray :=
  match charset with
  | utf8 => .ok text.toUTF8
  | usAscii => (encodeBelow usAscii 0x80 text.toList).map fun bytes => ⟨bytes.toArray⟩
  | latin1 => (encodeBelow latin1 0x100 text.toList).map fun bytes => ⟨bytes.toArray⟩

theorem ofName?_name (charset : Charset) : ofName? charset.name = some charset := by
  cases charset <;> decide +kernel

end Charset

def decodeText (charset : String) (bytes : ByteArray) : Except CodecError String := do
  (← Charset.ofName charset).decode bytes

def encodeText (charset : String) (text : String) : Except CodecError ByteArray := do
  (← Charset.ofName charset).encode text

end RestService
