import RestService.Decimal.Layout
import RestService.Json.Text

set_option autoImplicit false

namespace RestService.JsonTree

/-- Numbers from `0.00001` up to, but not including, `1e+16` are written in full, whole ones with a
zero after the point; all others have an exponent with its sign. -/
def numberLayout : Decimal.Layout where
  positional := some (-4, 16)
  pointZero := true
  plusSign := true
  tie := .toEven
  infinity := "null"
  minusInfinity := "null"
  notANumber := "null"

def commaJoined : List (List Char) → List Char
  | [] => []
  | [piece] => piece
  | piece :: pieces => piece ++ ',' :: commaJoined pieces

mutual

def written : JsonTree → List Char
  | .null => "null".toList
  | .bool b => (if b then "true" else "false").toList
  | .integer n => (toString n).toList
  | .float x => (numberLayout.text x).toList
  | .text s => writtenText s
  | .array items => '[' :: commaJoined (writtenItems items) ++ [']']
  | .object members => '{' :: commaJoined (writtenMembers members) ++ ['}']

def writtenItems : List JsonTree → List (List Char)
  | [] => []
  | item :: items => written item :: writtenItems items

def writtenMembers : List (String × JsonTree) → List (List Char)
  | [] => []
  | (name, item) :: members => (writtenText name ++ ':' :: written item) :: writtenMembers members

end

def write (tree : JsonTree) : String := String.ofList tree.written

end RestService.JsonTree
