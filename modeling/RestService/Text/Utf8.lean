set_option autoImplicit false

namespace RestService.Text

/-- What stands where a byte string stops being UTF-8. -/
inductive Utf8Fault
  /-- The string ends inside a sequence. -/
  | incomplete
  /-- This many bytes begin no sequence. -/
  | invalid (length : Nat)
  deriving DecidableEq, Repr

/-- What starts at the front of a byte string: a whole sequence of some length, or a fault. -/
inductive Utf8Step
  | whole (length : Nat)
  | fault (f : Utf8Fault)
  deriving DecidableEq, Repr

def isContinuation (b : UInt8) : Bool := 0x80 ≤ b && b ≤ 0xBF

/-- The bytes that may follow the lead byte `b` of a sequence of three. -/
def secondOfThree (b c : UInt8) : Bool :=
  if b == 0xE0 then 0xA0 ≤ c && c ≤ 0xBF
  else if b == 0xED then 0x80 ≤ c && c ≤ 0x9F
  else isContinuation c

/-- The bytes that may follow the lead byte `b` of a sequence of four. -/
def secondOfFour (b c : UInt8) : Bool :=
  if b == 0xF0 then 0x90 ≤ c && c ≤ 0xBF
  else if b == 0xF4 then 0x80 ≤ c && c ≤ 0x8F
  else isContinuation c

/-- The rest of a sequence: `checks` are the conditions on the bytes still owed, `passed` the bytes
already accepted. -/
def sequenceFrom (passed : Nat) : List (UInt8 → Bool) → List UInt8 → Utf8Step
  | [], _ => .whole passed
  | _ :: _, [] => .fault .incomplete
  | check :: checks, b :: bs =>
    if check b then sequenceFrom (passed + 1) checks bs else .fault (.invalid passed)

/-- What starts at the front of `b :: bs`. -/
def utf8Step (b : UInt8) (bs : List UInt8) : Utf8Step :=
  if b < 0x80 then .whole 1
  else if 0xC2 ≤ b && b ≤ 0xDF then sequenceFrom 1 [isContinuation] bs
  else if 0xE0 ≤ b && b ≤ 0xEF then sequenceFrom 1 [secondOfThree b, isContinuation] bs
  else if 0xF0 ≤ b && b ≤ 0xF4 then
    sequenceFrom 1 [secondOfFour b, isContinuation, isContinuation] bs
  else .fault (.invalid 1)

/-- The position and nature of the first fault of a byte string of which `passed` bytes have been
read; `skip` of the bytes to come belong to a sequence already accepted. -/
def utf8FaultFrom (passed skip : Nat) : List UInt8 → Option (Nat × Utf8Fault)
  | [] => none
  | b :: bs =>
    match skip with
    | skip + 1 => utf8FaultFrom (passed + 1) skip bs
    | 0 =>
      match utf8Step b bs with
      | .whole length => utf8FaultFrom (passed + 1) (length - 1) bs
      | .fault f => some (passed, f)

/-- The length of the longest valid front and the fault after it, if the bytes are not UTF-8. -/
def utf8Fault? (bytes : ByteArray) : Option (Nat × Utf8Fault) :=
  utf8FaultFrom 0 0 bytes.toList

/-- The text that the bytes encode, or where and how they fail to encode one. -/
def decodeUtf8 (bytes : ByteArray) : Except (Nat × Utf8Fault) String :=
  match String.fromUTF8? bytes with
  | some text => .ok text
  | none => .error ((utf8Fault? bytes).getD (0, .incomplete))

/-- The character that a whole sequence encodes. -/
def sequenceChar : List UInt8 → Char
  | [a] => Char.ofNat a.toNat
  | [a, b] => Char.ofNat ((a.toNat - 0xC0) * 0x40 + (b.toNat - 0x80))
  | [a, b, c] => Char.ofNat ((a.toNat - 0xE0) * 0x1000 + (b.toNat - 0x80) * 0x40 + (c.toNat - 0x80))
  | [a, b, c, d] =>
    Char.ofNat ((a.toNat - 0xF0) * 0x40000 + (b.toNat - 0x80) * 0x1000 + (c.toNat - 0x80) * 0x40
      + (d.toNat - 0x80))
  | _ => '\uFFFD'

/-- The characters of a byte string with U+FFFD for every faulty sequence; `skip` of the bytes to
come have been read. -/
def lossyFrom (skip : Nat) : List UInt8 → List Char
  | [] => []
  | b :: bs =>
    match skip with
    | skip + 1 => lossyFrom skip bs
    | 0 =>
      match utf8Step b bs with
      | .whole length => sequenceChar ((b :: bs).take length) :: lossyFrom (length - 1) bs
      | .fault (.invalid length) => '\uFFFD' :: lossyFrom (length - 1) bs
      | .fault .incomplete => ['\uFFFD']

/-- The text of the bytes with U+FFFD for every sequence that is not UTF-8. -/
def decodeLossy (bytes : List UInt8) : String := String.ofList (lossyFrom 0 bytes)

/-- The wording of a fault at a position. -/
def utf8FaultMessage : Nat × Utf8Fault → String
  | (position, .incomplete) => s!"incomplete utf-8 byte sequence from index {position}"
  | (position, .invalid length) =>
    s!"invalid utf-8 sequence of {length} bytes from index {position}"

theorem decodeUtf8_eq_ok_iff (bytes : ByteArray) (text : String) :
    decodeUtf8 bytes = .ok text ↔ String.fromUTF8? bytes = some text := by
  rw [decodeUtf8]
  cases String.fromUTF8? bytes <;> simp

end RestService.Text
