import RestService.Address
import RestService.Settings.Basic
import RestService.Url.Parser

set_option autoImplicit false

namespace RestService

/-- Something wrong with settings. -/
inductive SettingsIssue
  | invalid (setting reason : String)
  /-- Collections without a name are told by their place, counted from zero. -/
  | emptyName (index : Nat)
  | emptyContains (collection : String)
  | duplicateName (collection : String)
  | duplicateContains (typeName collection : String)
  | rules (collection : String) (error : SourceError)
  | hints (collection : String) (error : SourceError)
  deriving DecidableEq, Repr

namespace SettingsIssue

def message : SettingsIssue → String
  | invalid setting reason => s!"{setting}: {reason}"
  | emptyName index => s!"collection #{index} has an empty name"
  | emptyContains collection => s!"collection '{collection}' has no contained type"
  | duplicateName collection => s!"collection '{collection}' is defined more than once"
  | duplicateContains typeName collection =>
    s!"type '{typeName}' is contained by more than one collection ('{collection}')"
  | rules collection error => s!"collection '{collection}' entity_transform: {error.message}"
  | hints collection error => s!"collection '{collection}' parse_hints: {error.message}"

end SettingsIssue

namespace Settings

def issueIf (condition : Bool) (issue : SettingsIssue) : List SettingsIssue :=
  if condition then [issue] else []

def addressIssues (setting address : String) : List SettingsIssue :=
  issueIf (SocketAddress.parse? address).isNone
    (.invalid setting s!"'{address}' is not a socket address")

def zeroIssues (setting : String) (n : Nat) : List SettingsIssue :=
  issueIf (n == 0) (.invalid setting "must be greater than 0")

def charsetIssues (charsets : List String) : List SettingsIssue :=
  let setting := "negotiation.charsets"
  issueIf charsets.isEmpty (.invalid setting "at least one charset is required") ++
    charsets.flatMap fun name => issueIf (Charset.canonical? name).isNone
      (.invalid setting s!"unsupported charset '{name}'")

def urlIssues : Option String → List SettingsIssue
  | none => []
  | some url =>
    match Url.parse url with
    | .ok _ => []
    | .error error => [.invalid "negotiation.public_url" error.message]

def sourceIssues {α : Type} (issue : SourceError → SettingsIssue) :
    Except SourceError α → List SettingsIssue
  | .ok _ => []
  | .error error => [issue error]

/-- The issues of a collection that has a name, after others that have one. -/
def namedIssues (earlier : List CollectionSpec) (spec : CollectionSpec) : List SettingsIssue :=
  let isTaken (f : CollectionSpec → String) : Bool := earlier.any fun other => f other == f spec
  let contained :=
    if Text.isAllBlank spec.contains then [.emptyContains spec.name]
    else issueIf (isTaken CollectionSpec.contains) (.duplicateContains spec.contains spec.name)
  issueIf (isTaken CollectionSpec.name) (.duplicateName spec.name) ++ contained
    ++ sourceIssues (.rules spec.name) (Ruleset.parse spec.entityTransform)
    ++ sourceIssues (.hints spec.name) (Hints.parse spec.parseHints)

/-- The issues of collections, the first of which has a place; `earlier` are those before it with a
name. -/
def collectionIssues (index : Nat) (earlier : List CollectionSpec) :
    List CollectionSpec → List SettingsIssue
  | [] => []
  | spec :: specs =>
    if Text.isAllBlank spec.name then
      .emptyName index :: collectionIssues (index + 1) earlier specs
    else
      namedIssues earlier spec ++ collectionIssues (index + 1) (earlier ++ [spec]) specs

def issues (s : Settings) : List SettingsIssue :=
  addressIssues "listener.bind_address" s.bindAddress
    ++ zeroIssues "listener.max_body_bytes" s.maxBody
    ++ zeroIssues "timeouts.request_secs" s.requestSeconds
    ++ (if s.metricsEnabled then addressIssues "observability.metrics_address" s.metricsAddress
        else [])
    ++ charsetIssues s.charsets
    ++ urlIssues s.publicUrl?
    ++ collectionIssues 0 [] s.collections

end Settings

end RestService
