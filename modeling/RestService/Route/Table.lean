import RestService.Route.Pattern

set_option autoImplicit false

namespace RestService

namespace ActionName

def list : String := "list"
def «show» : String := "show"
def create : String := "create"
def update : String := "update"
def delete : String := "delete"
def methodNotAllowed : String := "_method_not_allowed"

end ActionName

/-- One entry of a route table. -/
structure Route where
  pattern : PathPattern
  /-- The method, or any if there is none. -/
  method? : Option String := none
  /-- The variables that a path need not give. -/
  defaults : Dict String := []
  deriving DecidableEq, Repr

/-- Where a request goes. -/
structure RouteMatch where
  collection : String
  action : String
  /-- The other variables. -/
  pathVars : Dict String
  deriving DecidableEq, Repr

namespace Route

/-- The variable that names the collection. -/
def collectionVar : String := "collection"

/-- The variable that names the action. -/
def actionVar : String := "action"

def withDefault (r : Route) (name value : String) : Route :=
  { r with defaults := Dict.insert r.defaults name value }

def withAction (r : Route) (action : String) : Route := r.withDefault actionVar action

def accepts (r : Route) (method : String) : Bool :=
  match r.method? with
  | none => true
  | some m => m == method

/-- Where the route leads a path that it matches; collection and action have to be known. -/
def resolve (r : Route) (path : String) : Option RouteMatch := do
  let vars := Dict.extend r.defaults (← r.pattern.matches? path)
  let collection ← Dict.get? vars collectionVar
  let action ← Dict.get? vars actionVar
  return ⟨collection, action, Dict.erase (Dict.erase vars collectionVar) actionVar⟩

end Route

abbrev RouteTable := List Route

namespace RouteTable

def match? (t : RouteTable) (path method : String) : Option RouteMatch :=
  (t.filter fun route => route.accepts method).findSome? fun route => route.resolve path

/-- The methods already met with, and the one that `route` adds for a path. -/
def addMethod (path : String) (found : List (String × String)) (route : Route) :
    List (String × String) :=
  match route.method? with
  | none => found
  | some method =>
    if (found.lookup method).isSome then found
    else match route.resolve path with
      | some resolved => found ++ [(method, resolved.action)]
      | none => found

/-- The methods that routes name for a path, each with the action that it leads to. -/
def methodsFor (t : RouteTable) (path : String) : List (String × String) :=
  t.foldl (addMethod path) []

/-- The pattern for the whole of a collection, `/api/:collection`. -/
def wholePattern : PathPattern :=
  ⟨"/api/:collection", [.literal "api", .variable Route.collectionVar]⟩

/-- The pattern for one record of a collection, `/api/:collection/:id`. -/
def recordPattern : PathPattern :=
  ⟨"/api/:collection/:id", [.literal "api", .variable Route.collectionVar, .variable "id"]⟩

/-- The standard routes: list and create for a collection; show, update and delete for a record; any
other method is not allowed. -/
def standard : RouteTable :=
  let route (pattern : PathPattern) (method? : Option String) (action : String) : Route :=
    Route.withAction { pattern, method? } action
  [ route wholePattern (some "GET") ActionName.list,
    route wholePattern (some "POST") ActionName.create,
    route recordPattern (some "GET") ActionName.show,
    route recordPattern (some "PUT") ActionName.update,
    route recordPattern (some "DELETE") ActionName.delete,
    route wholePattern none ActionName.methodNotAllowed,
    route recordPattern none ActionName.methodNotAllowed ]

theorem parse_wholePattern : PathPattern.parse "/api/:collection" = .ok wholePattern := by
  rfl

theorem parse_recordPattern : PathPattern.parse "/api/:collection/:id" = .ok recordPattern := by
  rfl

end RouteTable

end RestService
