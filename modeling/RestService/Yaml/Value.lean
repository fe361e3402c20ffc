import RestService.Representation.Charset
import RestService.Resource.Value
import RestService.Yaml.Reader
import RestService.Yaml.Writer

set_option autoImplicit false

namespace RestService.YamlTree

/-- Why a tree is no value. -/
inductive ValueProblem
  | typeNotText
  /-- The tag names a type, but its node is no mapping. -/
  | taggedOther (typeName : String) (content : YamlTree)
  | keyNotScalar (key : YamlTree)

def ValueProblem.message : ValueProblem → String
  | typeNotText => "!type must be a string"
  | taggedOther typeName content => s!"tag !{typeName} must decorate a mapping, not {content.shown}"
  | keyNotScalar key => s!"mapping keys must be scalars, found {key.shown}"

/-- The name of the type that a tag stands for: the tag without the exclamation marks at its front.
-/
def typeOfTag (tag : String) : String := String.ofList (tag.toList.dropWhile (· == '!'))

def keyText : YamlTree → Except ValueProblem String
  | .text s => .ok s
  | .bool b => .ok (Value.boolText b)
  | .integer n => .ok (toString n)
  | .float x => .ok (floatText x)
  | other => .error (.keyNotScalar other)

/-- The type and the fields that have been read of a mapping. -/
structure Record where
  typeName? : Option String := none
  fields : Fields := []

def Record.toValue (r : Record) : Value :=
  match r.typeName? with
  | some typeName => .resource typeName r.fields
  | none => .mapping r.fields

mutual

def toValue : YamlTree → Except ValueProblem Value
  | .null => .ok .null
  | .bool b => .ok (.bool b)
  | .integer n =>
    match Decimal.toInt64? n with
    | some n => .ok (.int n)
    | none => .ok (.float (Decimal.ofInt n))
  | .float x => .ok (.float x)
  | .text s => .ok (.text s)
  | .sequence items => (itemValues items).map .list
  | .mapping entries => (recordFrom {} entries).map Record.toValue
  | .tagged tag (.mapping entries) =>
    (recordFrom {} entries).map fun r => .resource (typeOfTag tag) r.fields
  | .tagged tag .null => .ok (.resource (typeOfTag tag) [])
  | .tagged tag content => .error (.taggedOther (typeOfTag tag) content)

def itemValues : List YamlTree → Except ValueProblem (List Value)
  | [] => .ok []
  | item :: items => do
    let v ← toValue item
    let vs ← itemValues items
    return v :: vs

def recordFrom (r : Record) : List (YamlTree × YamlTree) → Except ValueProblem Record
  | [] => .ok r
  | (key, item) :: entries => do
    let name ← keyText key
    if name = typeKey then
      match item with
      | .text typeName => recordFrom { r with typeName? := some typeName } entries
      | _ => throw .typeNotText
    else
      let v ← toValue item
      recordFrom { r with fields := Dict.insert r.fields name v } entries

end

/-- A type without a name, for which no tag can be made. The error stands for a panic of the
program. -/
inductive Unwritable
  | emptyTag
  deriving DecidableEq, Repr

def Unwritable.message : Unwritable → String
  | emptyTag => "a tag must not be empty"

mutual

/-- The tree of a value. The error stands for the panic on a type without a name. -/
def ofValue : Value → Except Unwritable YamlTree
  | .null => .ok .null
  | .bool b => .ok (.bool b)
  | .int n => .ok (.integer n.toInt)
  | .float x => .ok (.float x)
  | .text s => .ok (.text s)
  | .list items => (ofItems items).map .sequence
  | .mapping fields => (ofFields fields).map .mapping
  | .resource typeName fields =>
    if typeName = "" then .error .emptyTag
    else (ofFields fields).map fun entries => .tagged typeName (.mapping entries)

def ofItems : List Value → Except Unwritable (List YamlTree)
  | [] => .ok []
  | item :: items => do
    let tree ← ofValue item
    let trees ← ofItems items
    return tree :: trees

def ofFields : List (String × Value) → Except Unwritable (List (YamlTree × YamlTree))
  | [] => .ok []
  | (name, v) :: fields => do
    let tree ← ofValue v
    let entries ← ofFields fields
    return (.text name, tree) :: entries

end

def formatName : String := "YAML"

def parseBody (charset? : Option String) (body : ByteArray) : Except CodecError Value := do
  let text ← decodeText (charset?.getD Charset.utf8.name) body
  match read text with
  | .error problem => throw (.malformed formatName problem.message)
  | .ok tree =>
    match tree.toValue with
    | .error problem => throw (.malformed formatName problem.message)
    | .ok value => return value

def formatBody (charset : String) (value : Value) : Except CodecError ByteArray :=
  match ofValue value with
  | .error unwritable => .error (.unformattable formatName unwritable.message)
  | .ok tree => encodeText charset tree.write

end RestService.YamlTree
