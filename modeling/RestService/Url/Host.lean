import RestService.Address
import RestService.Decimal.Integer
import RestService.Url.Domain

set_option autoImplicit false

namespace RestService

/-- Why a text is no URL. -/
inductive UrlError
  | emptyHost
  | illegalDomain
  | illegalDomainCharacter
  | illegalPort
  | illegalIpv4
  | illegalIpv6
  | relativeWithoutBase
  | relativeToOpaque
  deriving DecidableEq, Repr

def UrlError.message : UrlError → String
  | emptyHost => "empty host"
  | illegalDomain => "invalid international domain name"
  | illegalDomainCharacter => "invalid domain character"
  | illegalPort => "invalid port number"
  | illegalIpv4 => "invalid IPv4 address"
  | illegalIpv6 => "invalid IPv6 address"
  | relativeWithoutBase => "relative URL without a base"
  | relativeToOpaque => "relative URL with a cannot-be-a-base base"

/-- A host as it is written in a URL; none is empty. -/
abbrev UrlHost := String

namespace UrlHost

/-- The domain that the bytes tell, as it is written. -/
def domain (bytes : List UInt8) : Except UrlError (List Char) :=
  match (String.fromUTF8? ⟨bytes.toArray⟩).bind fun text => Domain.written? text.toList with
  | some name => .ok name
  | none => .error .illegalDomain

/-- A part of an address of version 4: octal after a zero, hexadecimal after `0x`, or else decimal.
-/
def addressPart? : List Char → Option Nat
  | '0' :: 'x' :: digits | '0' :: 'X' :: digits =>
    if digits.isEmpty then some 0 else Decimal.nat? 16 digits
  | '0' :: digit :: digits => Decimal.nat? 8 (digit :: digits)
  | digits => Decimal.nat? 10 digits

/-- The labels of a domain without an empty one at the end. -/
def addressParts (cs : List Char) : List (List Char) :=
  let labels := Text.pieces '.' cs
  if 1 < labels.length ∧ labels.getLast? = some [] then labels.dropLast else labels

/-- Whether a domain ends in a number, as only addresses may. -/
def endsInNumber (cs : List Char) : Bool :=
  match (addressParts cs).getLast? with
  | none | some [] => false
  | some part => part.all Char.isDigit || (addressPart? part).isSome

/-- The address of version 4 that a domain which ends in a number is; its last part stands for all
the bytes that are left. -/
def ipv4 (cs : List Char) : Except UrlError String := do
  let some numbers := (addressParts cs).mapM addressPart? | throw .illegalIpv4
  match numbers.reverse with
  | [] => throw .illegalIpv4
  | last :: others =>
    let leading := others.reverse
    let count := 4 - leading.length
    if 3 < leading.length ∨ leading.any (255 < ·) ∨ Decimal.twoTo (8 * count) ≤ last then
      throw .illegalIpv4
    let trailing :=
      (List.range count).reverse.map fun i => last / Decimal.twoTo (8 * i) % 256
    return String.intercalate "." ((leading ++ trailing).map toString)

/-- Start and length of the first longest run of zeros, the current run having started at `start`.
-/
def longestRun : Nat → Nat → Nat × Nat → List Nat → Nat × Nat
  | _, _, best, [] => best
  | start, length, best, n :: ns =>
    if n = 0 then
      let best := if best.2 < length + 1 then (start, length + 1) else best
      longestRun start (length + 1) best ns
    else longestRun (start + length + 1) 0 best ns

def hexPieces (pieces : List Nat) : String :=
  String.intercalate ":" (pieces.map fun n => String.ofList (Nat.toDigits 16 n))

/-- An address of version 6 as it is written, with two colons for its longest run of zeros. -/
def ipv6Text (pieces : List Nat) : String :=
  let (start, length) := longestRun 0 0 (0, 1) pieces
  if length < 2 then s!"[{hexPieces pieces}]"
  else s!"[{hexPieces (pieces.take start)}::{hexPieces (pieces.drop (start + length))}]"

def bracketed (cs : List Char) : Except UrlError UrlHost :=
  match cs.getLast?, IpAddress.pieces? (cs.drop 1).dropLast with
  | some ']', some pieces => .ok (ipv6Text pieces)
  | _, _ => .error .illegalIpv6

def parse (cs : List Char) : Except UrlError UrlHost := do
  if cs.head? = some '[' then bracketed cs
  else
    let name ← domain (Percent.decode (String.ofList cs).toUTF8.toList)
    if name.isEmpty then throw .emptyHost
    if endsInNumber name then ipv4 name else return String.ofList name

def parseOpaque (cs : List Char) : Except UrlError UrlHost :=
  if cs.head? = some '[' then bracketed cs
  else if cs.any fun c => "\x00\t\n\r #/:<>?@[\\]^|".toList.contains c then
    .error .illegalDomainCharacter
  else .ok (String.ofList (Percent.encode Percent.isControl cs))

end UrlHost

end RestService
