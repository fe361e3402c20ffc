import RestService.Text.Pieces
import RestService.Url.Percent

set_option autoImplicit false

namespace RestService.Query

def spaced (bytes : List UInt8) : List UInt8 := bytes.map fun b => if b == 0x2B then 0x20 else b

def decoded (cs : List Char) : String :=
  Text.decodeLossy (Percent.decode (spaced (String.ofList cs).toUTF8.toList))

/-- A pair of a query; what has no equals sign is a name with an empty value. -/
def pair (cs : List Char) : String × String :=
  match Text.cutAt '=' cs with
  | some (name, value) => (decoded name, decoded value)
  | none => (decoded cs, "")

def parse (query : String) : List (String × String) :=
  ((Text.pieces '&' query.toList).filter fun piece => !piece.isEmpty).map pair

end RestService.Query
