import RestService.Pipeline.Application

set_option autoImplicit false

namespace RestService

/-- Why there is no application. -/
inductive BuildError
  | catalogue (error : CatalogueError)
  | noCharsets
  | unknownCharset (name : String)
  deriving DecidableEq, Repr

def BuildError.message : BuildError → String
  | catalogue error => error.message
  | noCharsets => "at least one output charset is required"
  | unknownCharset name => s!"unsupported output charset: {name}"

/-- What an application is built from. -/
structure Blueprint (σ : Type) where
  routes : RouteTable := RouteTable.standard
  collections : List CollectionSpec := []
  /-- The actions of the collection of a name. -/
  actions : String → Collection σ
  codecs : List Codec := Codec.all
  charsets : List String := [Charset.utf8.name]
  publicUrl? : Option String := none
  /-- Whether the standard filters and handlers are installed. -/
  standardFilters : Bool := true
  /-- Further filters on the way to an action. -/
  input : List (Registration (Filter σ)) := []
  /-- Further filters on the way back. -/
  output : List (Registration (Filter σ)) := []
  /-- Further handlers. -/
  handlers : List (Registration (FaultHandler σ)) := []

namespace Blueprint

variable {σ : Type}

/-- The usual names of charsets, of which there has to be one at least. -/
def usualCharsets (names : List String) : Except BuildError (List String) := do
  let usual ← names.mapM fun name =>
    match Charset.canonical? name with
    | some name => .ok name
    | none => .error (.unknownCharset name)
  if usual.isEmpty then throw .noCharsets else return usual

def filters (b : Blueprint σ) : Filters (Filter σ) (FaultHandler σ) :=
  let standard : Filters (Filter σ) (FaultHandler σ) :=
    if b.standardFilters then Filters.addStandard {} StandardFilter.run StandardHandler.run else {}
  standard.addAll (b.input.map .input ++ b.output.map .output ++ b.handlers.map .handler)

def build (b : Blueprint σ) : Except BuildError (Application σ) := do
  let catalogue ← match Catalogue.ofSpecs b.collections with
    | .ok catalogue => pure catalogue
    | .error error => throw (.catalogue error)
  let charsets ← usualCharsets b.charsets
  return { routes := b.routes, catalogue, actions := b.actions, codecs := b.codecs, charsets,
           publicUrl? := b.publicUrl?, filters := b.filters }

end Blueprint

def CollectionSchema.addedEvent (c : CollectionSchema) : LogEvent :=
  ⟨.debug, "Collection registered",
    [ ("collection", .text c.name), ("contains", .text c.contains),
      ("internal_type", .text c.internalType), ("rules", .count c.rules.length) ]⟩

def quotedNames (names : List String) : String :=
  "[" ++ String.intercalate ", " (names.map Text.quoted) ++ "]"

def Application.builtEvents {σ : Type} (app : Application σ) : List LogEvent :=
  app.catalogue.entries.map CollectionSchema.addedEvent ++
    [⟨.info, "Application built",
      [ ("collections", .count app.catalogue.entries.length), ("routes", .count app.routes.length),
        ("filters", .count app.filters.count), ("charsets", .text (quotedNames app.charsets)) ]⟩]

end RestService
