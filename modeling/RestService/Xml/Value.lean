import RestService.Hint
import RestService.Representation.Charset
import RestService.Resource.Value
import RestService.Xml.Reader
import RestService.Xml.Writer

/- Values as XML documents. XML cannot tell a record from a list, nor one child from a list of one.
An element without children is its text, or null if it has none; one whose children share a tag, or
that a hint calls a sequence, is the list of its children; any other one is a resource, typed by the
hint for its path or else by its tag. The path of a node is the chain of tags from the root; when
the root is a list, each of its items counts as a root. -/

set_option autoImplicit false

namespace RestService.XmlElement

/-- The value of a text: null if it is blank. -/
def scalarOf (text : String) : Value :=
  let trimmed := Text.trim text
  if trimmed = "" then .null else .text trimmed

/-- Whether two of the names are equal. -/
def hasDuplicates : List String → Bool
  | [] => false
  | name :: names => names.contains name || hasDuplicates names

def childPath (path name : String) : String := path ++ "/" ++ name

mutual

/-- The value of the element at a path; the items of a list take their paths from `listPath`. -/
def toValue (hints : Hints) (path listPath : String) : XmlElement → Value
  | node _ text [] => scalarOf text
  | node name _ (child :: children) =>
    let hint? := hints.get? path
    let names := child.name :: children.map XmlElement.name
    if hasDuplicates names || (hint?.map Hint.sequence).getD false then
      .list ((childValues hints listPath (child :: children)).map Prod.snd)
    else
      .resource ((hint?.bind Hint.typeName?).getD name)
        (Dict.ofList (childValues hints path (child :: children)))

/-- The names and values of the children of the element at a path. -/
def childValues (hints : Hints) (path : String) : List XmlElement → List (String × Value)
  | [] => []
  | child :: children =>
    let inner := childPath path child.name
    (child.name, toValue hints inner inner child) :: childValues hints path children

end

def rootValue (hints : Hints) (root : XmlElement) : Value :=
  toValue hints (childPath "" root.name) "" root

/-- Why a value has no document. -/
inductive Unwritable
  | root (kind : String)
  | untyped (parent : String)
  deriving DecidableEq, Repr

def Unwritable.message : Unwritable → String
  | root kind => s!"cannot format a {kind} as an XML document"
  | untyped parent => s!"untyped mapping inside <{parent}>"

/-- The tag of list items that have no type. -/
def itemTag : String := "item"

/-- The tag of a list item inside `parent`. -/
def itemName (parent : String) : Value → Except Unwritable String
  | .resource typeName _ => .ok typeName
  | .mapping _ => .error (.untyped parent)
  | _ => .ok itemTag

mutual

/-- The element of a value under a name. -/
def ofValue (name : String) : Value → Except Unwritable XmlElement
  | .resource _ fields => (ofFields fields).map (node name "")
  | .mapping fields => (ofFields fields).map (node name "")
  | .list items => (ofItems name items).map (node name "")
  | v => .ok (node name (v.scalarText?.getD "") [])

def ofFields : List (String × Value) → Except Unwritable (List XmlElement)
  | [] => .ok []
  | (name, v) :: fields => do
    let element ← ofValue name v
    let elements ← ofFields fields
    return element :: elements

def ofItems (parent : String) : List Value → Except Unwritable (List XmlElement)
  | [] => .ok []
  | item :: items => do
    let name ← itemName parent item
    let element ← ofValue name item
    let elements ← ofItems parent items
    return element :: elements

end

/-- The root element of a value: a resource goes by its type, a list by the name of the collection.
-/
def ofRoot (collection : String) : Value → Except Unwritable XmlElement
  | .resource typeName fields => ofValue typeName (.resource typeName fields)
  | .list items => ofValue collection (.list items)
  | other => .error (.root other.kind)

def formatName : String := "XML"

/-- What follows the first occurrence of `pattern`. -/
def afterFirst? (pattern : List Char) : List Char → Option (List Char)
  | [] => XmlEvent.after? pattern []
  | c :: cs =>
    match XmlEvent.after? pattern (c :: cs) with
    | some rest => some rest
    | none => afterFirst? pattern cs

/-- The bytes before the first question mark that an angle bracket follows. -/
def declarationBytes : List UInt8 → Option (List UInt8)
  | 0x3F :: 0x3E :: _ => some []
  | b :: bs => (declarationBytes bs).map (b :: ·)
  | [] => none

/-- Space, tab, line feed, form feed and carriage return, as bytes. -/
def isSpaceByte (b : UInt8) : Bool := b == 0x20 || b == 0x09 || b == 0x0A || b == 0x0C || b == 0x0D

/-- The quoted value after an equals sign. -/
def quotedValue? (cs : List Char) : Option (List Char) :=
  match Text.trimLeft cs with
  | '=' :: cs =>
    match Text.trimLeft cs with
    | quote :: cs =>
      if quote = '"' ∨ quote = '\'' then (Text.cutAt quote cs).map Prod.fst else none
    | [] => none
  | _ => none

/-- The encoding that the declaration of a document names. -/
def declaredEncoding? (body : ByteArray) : Option String := do
  let bytes := (Charset.withoutMark body).toList.dropWhile isSpaceByte
  let text ← String.fromUTF8? ⟨(← declarationBytes bytes).toArray⟩
  let cs ← XmlEvent.after? "<?xml".toList text.toList
  return String.ofList (← quotedValue? (← afterFirst? "encoding".toList cs))

/-- The value of a body. The charset that is named beside the body counts before that of its
declaration, and UTF-8 if there is neither. -/
def parseBody (hints : Hints) (charset? : Option String) (body : ByteArray) :
    Except CodecError Value := do
  let charset := charset?.getD ((declaredEncoding? body).getD Charset.utf8.name)
  let text ← decodeText charset body
  match read text with
  | .ok root => return rootValue hints root
  | .error problem => throw (.malformed formatName problem.message)

def formatBody (collection charset : String) (value : Value) : Except CodecError ByteArray :=
  match ofRoot collection value with
  | .error unwritable => .error (.unformattable formatName unwritable.message)
  | .ok root => encodeText charset (write charset root)

end RestService.XmlElement
