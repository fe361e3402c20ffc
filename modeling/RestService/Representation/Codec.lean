import RestService.Hint
import RestService.Json.Value
import RestService.Xml.Value
import RestService.Yaml.Value

set_option autoImplicit false

namespace RestService

/-- What the form of a value depends on, apart from the value. -/
structure CodecContext where
  hints : Hints
  /-- The collection that the value belongs to; in XML it names a list. -/
  collection : String

inductive Codec
  | xml
  | yaml
  | json
  deriving DecidableEq, Repr

namespace Codec

def mediaType : Codec → String
  | xml => "text/xml"
  | yaml => "text/x-yaml"
  | json => "application/json"

/-- Other media types of bodies that the codec reads. -/
def aliases : Codec → List String
  | xml => ["application/xml"]
  | yaml => ["text/yaml", "application/x-yaml", "application/yaml"]
  | json => []

def reads (codec : Codec) (essence : String) : Bool :=
  codec.mediaType == essence || codec.aliases.contains essence

def parse (codec : Codec) (cx : CodecContext) (charset? : Option String) (body : ByteArray) :
    Except CodecError Value :=
  match codec with
  | xml => XmlElement.parseBody cx.hints charset? body
  | yaml => YamlTree.parseBody charset? body
  | json => JsonTree.parseBody charset? body

def format (codec : Codec) (cx : CodecContext) (charset : String) (value : Value) :
    Except CodecError ByteArray :=
  match codec with
  | xml => XmlElement.formatBody cx.collection charset value
  | yaml => YamlTree.formatBody charset value
  | json => JsonTree.formatBody charset value

/-- All codecs, in the order in which a service that has no preference offers them. -/
def all : List Codec := [xml, yaml, json]

/-- The first of `codecs` that reads bodies of this type and subtype. -/
def forInput? (codecs : List Codec) (essence : String) : Option Codec :=
  codecs.find? fun codec => codec.reads essence

/-- The first of `codecs` that writes bodies of this media type. -/
def forOutput? (codecs : List Codec) (mediaType : String) : Option Codec :=
  codecs.find? fun codec => codec.mediaType == mediaType

theorem forOutput?_all (codec : Codec) : forOutput? all codec.mediaType = some codec := by
  cases codec <;> decide +kernel

theorem forInput?_all (codec : Codec) : forInput? all codec.mediaType = some codec := by
  cases codec <;> decide +kernel

end Codec

end RestService
