import RestService.Decimal.Integer
import RestService.Text.Utf8

set_option autoImplicit false

namespace RestService.Percent

/-- The value of a hexadecimal digit. -/
def hexDigit? (b : UInt8) : Option Nat := Decimal.digit? 16 (Char.ofNat b.toNat)

/-- The bytes that the encoded bytes stand for; a percent sign without two digits stands for itself.
-/
def decode : List UInt8 → List UInt8
  | 0x25 :: high :: low :: rest =>
    match hexDigit? high, hexDigit? low with
    | some h, some l => UInt8.ofNat (16 * h + l) :: decode rest
    | _, _ => 0x25 :: decode (high :: low :: rest)
  | b :: rest => b :: decode rest
  | [] => []

/-- A byte in encoded form. -/
def encodedByte (b : UInt8) : List Char :=
  ['%', (Nat.digitChar (b.toNat / 16)).toUpper, (Nat.digitChar (b.toNat % 16)).toUpper]

/-- A character, encoded if it is not ASCII or if `reserved` holds. -/
def encodeChar (reserved : Char → Bool) (c : Char) : List Char :=
  if c.toNat < 0x80 && !reserved c then [c] else c.toString.toUTF8.toList.flatMap encodedByte

/-- A text with its reserved characters encoded. -/
def encode (reserved : Char → Bool) (cs : List Char) : List Char :=
  cs.flatMap (encodeChar reserved)

def isControl (c : Char) : Bool := c.toNat < 0x20 || c.toNat = 0x7F

def isReservedInFragment (c : Char) : Bool := isControl c || " \"<>`".toList.contains c

def isReservedInPath (c : Char) : Bool := isReservedInFragment c || "#?\x7b\x7d".toList.contains c

def isReservedInUserinfo (c : Char) : Bool := isReservedInPath c || "/:;=@[\\]^|".toList.contains c

def isReservedInQuery (c : Char) : Bool := isControl c || " \"#<>".toList.contains c

end RestService.Percent
