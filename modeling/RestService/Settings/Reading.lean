import RestService.Settings.Issue
import RestService.Toml.Reader

/- Reading of settings from TOML documents.

```text
[listener]        bind_address, max_body_bytes
[timeouts]        request_secs
[observability]   log_level, log_format, metrics_enabled, metrics_address
[negotiation]     charsets, public_url
[[collections]]   name, contains, parse_hints, entity_transform
```

What is missing keeps its default, and what is unknown is passed over. -/

set_option autoImplicit false

namespace RestService

/-- Why there are no settings. -/
inductive SettingsError
  /-- There is no such file. -/
  | missingFile
  /-- The file is not UTF-8. -/
  | notText
  | malformed (problem : TomlTree.Problem)
  /-- A setting has a value of a kind that it cannot have. -/
  | mistyped (setting : String)
  | invalid (issues : List SettingsIssue)
  deriving DecidableEq, Repr

def SettingsError.message : SettingsError → String
  | missingFile => "IO error: no such file"
  | notText => "IO error: stream did not contain valid UTF-8"
  | malformed problem => s!"Parse error: {problem.message}"
  | mistyped setting => s!"Parse error: illegal value of '{setting}'"
  | invalid issues =>
    let texts := String.intercalate ", " (issues.map SettingsIssue.message)
    s!"Validation failed: {texts}"

namespace Settings

/-- A value of a document as what a setting needs. -/
abbrev FromToml (α : Type) := TomlTree → Option α

def ofText : FromToml String
  | .text s => some s
  | _ => none

def ofNat : FromToml Nat
  | .integer n => if 0 ≤ n then some n.toNat else none
  | _ => none

def ofBool : FromToml Bool
  | .boolean b => some b
  | _ => none

def ofList {α : Type} (ofItem : FromToml α) : FromToml (List α)
  | .array items => items.mapM ofItem
  | .tables items => items.mapM fun entries => ofItem (.table .declared entries)
  | _ => none

/-- Arrays and tables that hold nothing. -/
def isHollow : TomlTree → Bool
  | .array items => items.isEmpty
  | .table _ entries => entries.isEmpty
  | .tables items => items.isEmpty
  | _ => false

/-- A form by its name, which may also be the only key of a table and then holds nothing. -/
def ofLogFormat : FromToml LogFormat
  | .text s => LogFormat.ofName? s
  | .table _ [(name, tree)] => if isHollow tree then LogFormat.ofName? name else none
  | _ => none

/-- A named part of a record, and what a value makes of the record. -/
structure Part (α : Type) where
  name : String
  set : TomlTree → α → Except SettingsError α

/-- The part that a value of some type makes up. -/
def part {α β : Type} (name : String) (read : FromToml β) (set : β → α → α) : Part α where
  name
  set tree record :=
    match read tree with
    | some value => .ok (set value record)
    | none => .error (.mistyped name)

/-- A record with what entries tell of its parts. -/
def setEntries {α : Type} (parts : List (Part α)) (entries : TomlTree.Entries) (record : α) :
    Except SettingsError α :=
  parts.foldlM (fun record part =>
    match entries.lookup part.name with
    | some tree => part.set tree record
    | none => .ok record) record

/-- A record with the parts that stand in a list, in their order. -/
def setItems {α : Type} (parts : List (Part α)) (items : List TomlTree) (record : α) :
    Except SettingsError α :=
  (parts.zip items).foldlM (fun record (part, tree) => part.set tree record) record

/-- A record with what a value tells: a table by names, an array by places. A date tells nothing. -/
def setRecord {α : Type} (name : String) (parts : List (Part α)) (tree : TomlTree) (record : α) :
    Except SettingsError α :=
  match tree with
  | .table _ entries => setEntries parts entries record
  | .array items => setItems parts items record
  | .tables items => setItems parts (items.map (.table .declared)) record
  | .moment _ => .ok record
  | _ => .error (.mistyped name)

/-- A part that is a record of its own. -/
def group {α : Type} (name : String) (parts : List (Part α)) : Part α where
  name
  set := setRecord name parts

def collectionParts : List (Part CollectionSpec) :=
  [ part "name" ofText fun s spec => { spec with name := s },
    part "contains" ofText fun s spec => { spec with contains := s },
    part "parse_hints" ofText fun s spec => { spec with parseHints := s },
    part "entity_transform" ofText fun s spec => { spec with entityTransform := s } ]

def ofCollection : FromToml CollectionSpec := fun tree =>
  (setRecord "collections" collectionParts tree {}).toOption

def parts : List (Part Settings) :=
  [ group "listener"
      [ part "bind_address" ofText fun s r => { r with bindAddress := s },
        part "max_body_bytes" ofNat fun n r => { r with maxBody := n } ],
    group "timeouts" [part "request_secs" ofNat fun n r => { r with requestSeconds := n }],
    group "observability"
      [ part "log_level" ofText fun s r => { r with logLevel := s },
        part "log_format" ofLogFormat fun f r => { r with logFormat := f },
        part "metrics_enabled" ofBool fun b r => { r with metricsEnabled := b },
        part "metrics_address" ofText fun s r => { r with metricsAddress := s } ],
    group "negotiation"
      [ part "charsets" (ofList ofText) fun names r => { r with charsets := names },
        part "public_url" ofText fun s r => { r with publicUrl? := some s } ],
    part "collections" (ofList ofCollection) fun specs r => { r with collections := specs } ]

def ofToml (source : String) : Except SettingsError Settings :=
  match TomlTree.read source with
  | .ok entries => setEntries parts entries {}
  | .error problem => .error (.malformed problem)

/-- The settings themselves if nothing is wrong with them. -/
def validate (s : Settings) : Except SettingsError Settings :=
  if s.issues.isEmpty then .ok s else .error (.invalid s.issues)

def parse (source : String) : Except SettingsError Settings := ofToml source >>= validate

def load (file? : Option ByteArray) : Except SettingsError Settings :=
  match file? with
  | none => .error .missingFile
  | some bytes =>
    match String.fromUTF8? bytes with
    | some source => parse source
    | none => .error .notText

end Settings

end RestService
