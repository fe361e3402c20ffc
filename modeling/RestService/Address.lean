import RestService.Decimal.Integer
import RestService.Text.Pieces

set_option autoImplicit false

namespace RestService

/-- The address of a host. -/
inductive IpAddress
  | v4 (bytes : List Nat)
  | v6 (pieces : List Nat)
  deriving DecidableEq, Repr

namespace IpAddress

/-- A piece of 16 bits, in one to four hexadecimal digits. -/
def piece? (cs : List Char) : Option Nat :=
  if cs.length ≤ 4 then Decimal.nat? 16 cs else none

/-- A byte in decimal digits, without leading zeros. -/
def byte? (cs : List Char) : Option Nat :=
  match cs with
  | ['0'] => some 0
  | '0' :: _ => none
  | digits => (Decimal.nat? 10 digits).filter (· < 256)

/-- The two pieces that an address of version 4 takes. -/
def bytePieces? (cs : List Char) : Option (List Nat) := do
  match ← (Text.pieces '.' cs).mapM byte? with
  | [a, b, c, d] => some [256 * a + b, 256 * c + d]
  | _ => none

/-- The pieces between colons; the last one may be an address of version 4. -/
def groups? (cs : List Char) : Option (List Nat) :=
  if cs.isEmpty then some []
  else
    let parts := Text.pieces ':' cs
    match parts.getLast? with
    | none => some []
    | some last => do
      let pieces ← parts.dropLast.mapM piece?
      let ends ← if last.contains '.' then bytePieces? last else (piece? last).map ([·])
      return pieces ++ ends

/-- What stands before and after the first two colons in a row. -/
def cutAtGap : List Char → Option (List Char × List Char)
  | ':' :: ':' :: cs => some ([], cs)
  | c :: cs => (cutAtGap cs).map fun (before, after) => (c :: before, after)
  | [] => none

/-- The eight pieces of an address of version 6; two colons in a row stand for one zero or more. -/
def pieces? (cs : List Char) : Option (List Nat) :=
  match cutAtGap cs with
  | none => (groups? cs).filter fun pieces => pieces.length = 8
  | some (before, after) => do
    if before.contains '.' then none
    let front ← groups? before
    let back ← groups? after
    let given := front.length + back.length
    if 8 ≤ given then none else return front ++ List.replicate (8 - given) 0 ++ back

/-- The four bytes of an address of version 4. -/
def bytes? (cs : List Char) : Option (List Nat) :=
  ((Text.pieces '.' cs).mapM byte?).filter fun bytes => bytes.length = 4

end IpAddress

/-- The address of a socket. -/
structure SocketAddress where
  host : IpAddress
  port : Nat
  deriving DecidableEq, Repr

namespace SocketAddress

def port? (cs : List Char) : Option Nat := (Decimal.nat? 10 cs).filter (· < Decimal.twoTo 16)

/-- An address of version 6 as it stands in brackets, where a number may tell a scope. -/
def bracketed? (cs : List Char) : Option (List Nat) :=
  match Text.cutAt '%' cs with
  | none => IpAddress.pieces? cs
  | some (address, scope) => do
    let _ ← (Decimal.nat? 10 scope).filter (· < Decimal.twoTo 32)
    IpAddress.pieces? address

def parse? (s : String) : Option SocketAddress :=
  match s.toList with
  | '[' :: cs => do
    let (inside, after) ← Text.cutAt ']' cs
    match after with
    | ':' :: port => return ⟨.v6 (← bracketed? inside), ← port? port⟩
    | _ => none
  | cs => do
    let (address, port) ← Text.cutAt ':' cs
    return ⟨.v4 (← IpAddress.bytes? address), ← port? port⟩

end SocketAddress

end RestService
