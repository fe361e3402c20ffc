import RestService.Decimal.Layout
import RestService.Text.Escaped

set_option autoImplicit false

namespace RestService

/-- A YAML document. An integer fits 64 bits, signed or unsigned. -/
inductive YamlTree
  | null
  | bool (b : Bool)
  | integer (n : Int)
  | float (x : Float)
  | text (s : String)
  | sequence (items : List YamlTree)
  /-- The entries in their order; no two have the same key. -/
  | mapping (entries : List (YamlTree × YamlTree))
  /-- A node with a tag of its own, which is not empty. -/
  | tagged (tag : String) (content : YamlTree)
  deriving Inhabited

namespace YamlTree

/-- Numbers from `0.00001` up to, but not including, `1e16` are written in full, whole ones with a
zero after the point; all others have an exponent. -/
def numberLayout : Decimal.Layout where
  positional := some (-4, 16)
  pointZero := true
  plusSign := false
  tie := .toEven
  infinity := ".inf"
  minusInfinity := "-.inf"
  notANumber := ".nan"

def floatText (x : Float) : String := numberLayout.text x

/-- A tag without the exclamation mark at its front, if anything follows it. -/
def bareTag (tag : String) : String :=
  match tag.toList with
  | '!' :: c :: cs => String.ofList (c :: cs)
  | _ => tag

/-- Two numbers that are equal, or are both no numbers. -/
def sameFloat (x y : Float) : Bool := (x.isNaN && y.isNaN) || x == y

mutual

/-- Whether two trees are equal as keys; the order of the entries of a mapping does not count. -/
def same : YamlTree → YamlTree → Bool
  | .null, .null => true
  | .bool a, .bool b => a == b
  | .integer m, .integer n => m == n
  | .float x, .float y => sameFloat x y
  | .text s, .text t => s == t
  | .sequence items, .sequence others => sameItems items others
  | .mapping entries, .mapping others =>
    entries.length == others.length && sameEntries entries others
  | .tagged tag content, .tagged other inner => bareTag tag == bareTag other && same content inner
  | _, _ => false

def sameItems : List YamlTree → List YamlTree → Bool
  | [], [] => true
  | item :: items, other :: others => same item other && sameItems items others
  | _, _ => false

/-- Whether every entry is among `others`. -/
def sameEntries : List (YamlTree × YamlTree) → List (YamlTree × YamlTree) → Bool
  | [], _ => true
  | (key, value) :: entries, others =>
    (others.any fun other => same key other.1 && same value other.2) && sameEntries entries others

end

def shownTag (tag : String) : String := "!" ++ bareTag tag

def bracketed (opening closing : String) (texts : List String) : String :=
  opening ++ String.intercalate ", " texts ++ closing

mutual

def shown : YamlTree → String
  | .null => "Null"
  | .bool b => s!"Bool({b})"
  | .integer n => s!"Number({n})"
  | .float x => s!"Number({floatText x})"
  | .text s => s!"String({Text.quoted s})"
  | .sequence items => "Sequence " ++ bracketed "[" "]" (shownItems items)
  | .mapping entries => "Mapping " ++ bracketed "\x7b" "\x7d" (shownEntries entries)
  | .tagged tag content =>
    "TaggedValue "
      ++ bracketed "\x7b " " \x7d" [s!"tag: {shownTag tag}", s!"value: {shown content}"]

def shownItems : List YamlTree → List String
  | [] => []
  | item :: items => shown item :: shownItems items

/-- The entries of a mapping as messages show them; the kind of a scalar key is left out. -/
def shownEntries : List (YamlTree × YamlTree) → List String
  | [] => []
  | (key, value) :: entries =>
    let name := match key with
      | .bool b => toString b
      | .integer n => toString n
      | .float x => floatText x
      | .text s => Text.quoted s
      | other => shown other
    s!"{name}: {shown value}" :: shownEntries entries

end

end YamlTree

end RestService
