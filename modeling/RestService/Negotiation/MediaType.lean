import RestService.Dict
import RestService.Negotiation.ListHeader
import RestService.Text.Pieces

set_option autoImplicit false

namespace RestService

/-- A media type; `*` may stand for any type or subtype. -/
structure MediaType where
  kind : String
  subtype : String
  params : Dict String
  deriving DecidableEq, Repr

namespace MediaType

/-- Type and subtype without the parameters. -/
def essence (m : MediaType) : String := s!"{m.kind}/{m.subtype}"

def charset? (m : MediaType) : Option String := Dict.get? m.params "charset"

def text (m : MediaType) : String :=
  m.params.foldl (fun written (name, value) => s!"{written}; {name}={value}") m.essence

/-- The type and the subtype of a text with exactly one slash, which is neither first nor last. -/
def names? (s : String) : Option (String × String) :=
  match Text.split '/' s with
  | [kind, subtype] => if kind = "" ∨ subtype = "" then none else some (kind, subtype)
  | _ => none

/-- The media type that an item of `header` names. A lone `*` stands for `*/*`. -/
def ofItem (header : String) (item : HeaderItem) : Except SourceError MediaType :=
  let full := if item.value = "*" then "*/*" else item.value
  match names? full with
  | some (kind, subtype) => .ok ⟨kind, subtype, Dict.ofList item.params⟩
  | none => .error (.header header s!"illegal media type '{full}'")

end MediaType

/-- The media type of a header that holds exactly one. -/
def parseContentType (header : String) : Except SourceError MediaType := do
  match ← parseListHeaderLower header with
  | [item] => MediaType.ofItem header item
  | _ => throw (.header header "expecting exactly one media type")

end RestService
