import RestService.Json.Reader
import RestService.Json.Writer
import RestService.Representation.Charset
import RestService.Resource.Value

set_option autoImplicit false

namespace RestService.JsonTree

/-- Why a tree is no value. -/
inductive ValueProblem
  | typeNotText
  deriving DecidableEq, Repr

def ValueProblem.message : ValueProblem → String
  | typeNotText => "!type must be a string"

/-- The value of an object, given its type and its other members. -/
def record (typeName? : Option String) (fields : Fields) : Value :=
  match typeName? with
  | some typeName => .resource typeName fields
  | none => .mapping fields

mutual

def toValue : JsonTree → Except ValueProblem Value
  | .null => .ok .null
  | .bool b => .ok (.bool b)
  | .integer n =>
    match Decimal.toInt64? n with
    | some n => .ok (.int n)
    | none => .ok (.float (Decimal.ofInt n))
  | .float x => .ok (.float x)
  | .text s => .ok (.text s)
  | .array items => (itemValues items).map .list
  | .object members => (memberValues members).map fun (typeName?, fields) => record typeName? fields

def itemValues : List JsonTree → Except ValueProblem (List Value)
  | [] => .ok []
  | item :: items => do
    let v ← toValue item
    let vs ← itemValues items
    return v :: vs

/-- The type that the members of an object give, and the fields that the others make. -/
def memberValues : List (String × JsonTree) → Except ValueProblem (Option String × Fields)
  | [] => .ok (none, [])
  | (name, item) :: members => do
    if name = typeKey then
      match item with
      | .text typeName =>
        let (_, fields) ← memberValues members
        return (some typeName, fields)
      | _ => throw .typeNotText
    else
      let v ← toValue item
      let (typeName?, fields) ← memberValues members
      return (typeName?, (name, v) :: fields)

end

/-- A number that JSON has no form for. -/
structure Unwritable where
  number : Float

def Unwritable.message (u : Unwritable) : String :=
  s!"{Decimal.plain.text u.number} is not a JSON number"

mutual

def ofValue : Value → Except Unwritable JsonTree
  | .null => .ok .null
  | .bool b => .ok (.bool b)
  | .int n => .ok (.integer n.toInt)
  | .float x => if x.isFinite then .ok (.float x) else .error ⟨x⟩
  | .text s => .ok (.text s)
  | .list items => (ofItems items).map .array
  | .mapping fields => (ofFields fields).map fun members => .object (Dict.ofList members)
  | .resource typeName fields =>
    (ofFields fields).map fun members =>
      .object (Dict.ofList ((typeKey, .text typeName) :: members))

def ofItems : List Value → Except Unwritable (List JsonTree)
  | [] => .ok []
  | item :: items => do
    let tree ← ofValue item
    let trees ← ofItems items
    return tree :: trees

def ofFields : List (String × Value) → Except Unwritable (List (String × JsonTree))
  | [] => .ok []
  | (name, v) :: fields => do
    let tree ← ofValue v
    let members ← ofFields fields
    return (name, tree) :: members

end

def formatName : String := "JSON"

def parseBody (charset? : Option String) (body : ByteArray) : Except CodecError Value := do
  let text ← decodeText (charset?.getD Charset.utf8.name) body
  match read text with
  | .error problem => throw (.malformed formatName problem.message)
  | .ok tree =>
    match tree.toValue with
    | .error problem => throw (.malformed formatName problem.message)
    | .ok value => return value

def formatBody (charset : String) (value : Value) : Except CodecError ByteArray :=
  match ofValue value with
  | .error unwritable => .error (.unformattable formatName unwritable.message)
  | .ok tree => encodeText charset tree.write

end RestService.JsonTree
