import RestService.Collection.Registry

set_option autoImplicit false

namespace RestService

/-- A registry that is not going to change any more. -/
structure Catalogue extends Registry where
  inStep : toRegistry.InStep
  deriving DecidableEq

namespace Catalogue

instance : Membership CollectionSchema Catalogue := ⟨fun catalogue c => c ∈ catalogue.entries⟩

def empty : Catalogue := ⟨{}, Registry.inStep_empty⟩

def add (catalogue : Catalogue) (spec : CollectionSpec) : Except CatalogueError Catalogue :=
  (catalogue.attempt spec).1.map fun _ =>
    ⟨(catalogue.attempt spec).2, catalogue.inStep.attempt spec⟩

/-- The catalogue of all the specifications, or what is wrong with the first that cannot be added.
-/
def ofSpecs (specs : List CollectionSpec) : Except CatalogueError Catalogue :=
  specs.foldlM add empty

def push (catalogue : Catalogue) (c : CollectionSchema) (free : catalogue.check c = .ok ()) :
    Catalogue where
  toRegistry := catalogue.toRegistry.insert c
  inStep := catalogue.inStep.insert free

def sole (c : CollectionSchema) : Catalogue := empty.push c rfl

end Catalogue

end RestService
