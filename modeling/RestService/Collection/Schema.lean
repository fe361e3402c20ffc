import RestService.Hint
import RestService.Rule.Ruleset

set_option autoImplicit false

namespace RestService

/-- What a configuration says about a collection. -/
structure CollectionSpec where
  /-- The name in paths. -/
  name : String := ""
  /-- The type of its records as clients see it. -/
  contains : String := ""
  /-- The hints, one on a line. -/
  parseHints : String := ""
  /-- The rules, one on a line. -/
  entityTransform : String := ""
  deriving DecidableEq, Repr

/-- The type that records of a type have inside, under rules that may be none. -/
def Ruleset.internalType (rules : Ruleset) (external : String) : String :=
  if rules.isEmpty then external else rules.probeType external

/-- A collection with its rules and hints. -/
structure CollectionSchema where
  spec : CollectionSpec
  /-- The rules; if there are none, records stay as they are. -/
  rules : Ruleset
  hints : Hints
  deriving DecidableEq, Repr

namespace CollectionSchema

def name (c : CollectionSchema) : String := c.spec.name

/-- The type of its records as clients see it. -/
def contains (c : CollectionSchema) : String := c.spec.contains

def internalType (c : CollectionSchema) : String := c.rules.internalType c.contains

/-- The schema that a specification writes down. -/
def ofSpec (spec : CollectionSpec) : Except SourceError CollectionSchema := do
  let rules ← Ruleset.parse spec.entityTransform
  let hints ← Hints.parse spec.parseHints
  return { spec, rules, hints }

end CollectionSchema

end RestService
