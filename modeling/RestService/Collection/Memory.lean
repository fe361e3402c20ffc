import RestService.Collection.Action
import RestService.Decimal.Integer
import RestService.Fallible
import RestService.Route.Table

set_option autoImplicit false

namespace RestService

/-- The records of a collection in ascending order of their ids, and the id of the next one. -/
structure Store where
  nextId : Nat := 1
  records : List (Nat × Resource) := []

namespace Store

def size (s : Store) : Nat := s.records.length

def isEmpty (s : Store) : Bool := s.records.isEmpty

def get? (s : Store) (id : Nat) : Option Resource := List.lookup id s.records

/-- The store with one more record, and its id. -/
def insert (s : Store) (r : Resource) : Nat × Store :=
  (s.nextId, { nextId := s.nextId + 1, records := s.records ++ [(s.nextId, r)] })

def replace (s : Store) (id : Nat) (r : Resource) : Store :=
  { s with records := s.records.map fun entry => if entry.1 = id then (id, r) else entry }

def erase (s : Store) (id : Nat) : Store :=
  { s with records := s.records.filter fun entry => entry.1 != id }

/-- The path of a record in the collection `name`. -/
def location (name : String) (id : Nat) : String := s!"/api/{name}/{id}"

/-- Nothing is stored under the text `id`. -/
def absent (name id : String) : ActionError := .notFound s!"{name} {id}"

/-- The id that a call is about. A text that is no id belongs to no record. -/
def idOf (name : String) (call : ActionCall) : Except ActionError Nat :=
  match Dict.get? call.args "id" with
  | none => .error (.invalid "missing id")
  | some text =>
    match Decimal.nat64? text with
    | some id => .ok id
    | none => .error (absent name text)

/-- The id of an existing record that a call is about, and the record. -/
def recordOf (name : String) (s : Store) (call : ActionCall) :
    Except ActionError (Nat × Resource) := do
  let id ← idOf name call
  match s.get? id with
  | some r => return (id, r)
  | none => throw (absent name (toString id))

def inputOf (call : ActionCall) : Except ActionError Resource :=
  match call.input? with
  | none => .error (.invalid "no input provided")
  | some v =>
    match v.resource? with
    | some r => .ok r
    | none => .error (.invalid s!"expecting a single resource, got a {v.kind}")

/-- The standard actions. -/
inductive Operation
  | list
  | get
  | create
  | update
  | delete
  deriving DecidableEq, Repr

def Operation.ofName? (action : String) : Option Operation :=
  if action = ActionName.list then some list
  else if action = ActionName.show then some get
  else if action = ActionName.create then some create
  else if action = ActionName.update then some update
  else if action = ActionName.delete then some delete
  else none

/-- What an operation on the store of the collection `name` does. -/
def run (name : String) (call : ActionCall) : Operation → Fallible ActionError Store Entity
  | .list => do
    let s ← get
    return Entity.ofResources (s.records.map Prod.snd)
  | .get => do
    let s ← get
    let (_, r) ← .ofResult (recordOf name s call)
    return Entity.ofResource r
  | .create => do
    let r ← .ofResult (inputOf call)
    let s ← get
    let (id, after) := s.insert r
    set after
    return .located (location name id) .empty
  | .update => do
    let id ← .ofResult (idOf name call)
    let r ← .ofResult (inputOf call)
    let s ← get
    if (s.get? id).isSome then
      set (s.replace id r)
      return .empty
    else throw (absent name (toString id))
  | .delete => do
    let id ← .ofResult (idOf name call)
    let s ← get
    -- The record is taken out before it is known whether there was one.
    set (s.erase id)
    if (s.get? id).isSome then return .empty else throw (absent name (toString id))

/-- What an action does to the store of the collection `name`. -/
def act (name action : String) (call : ActionCall) : Fallible ActionError Store Entity :=
  match Operation.ofName? action with
  | none => throw (.invalid s!"unsupported action '{action}'")
  | some operation => run name call operation

/-- What an action gives back, and the store after it. -/
def call (name action : String) (call : ActionCall) (s : Store) :
    Except ActionError Entity × Store := (act name action call).run.run s

end Store

/-- The stores of all collections, by name. -/
abbrev Stores := String → Store

namespace Stores

/-- The stores of collections that have never been used. -/
def empty : Stores := fun _ => {}

def set (stores : Stores) (name : String) (s : Store) : Stores :=
  fun other => if other = name then s else stores other

@[simp] theorem set_same (stores : Stores) (name : String) (s : Store) :
    stores.set name s name = s := if_pos rfl

theorem set_other (stores : Stores) {name other : String} (s : Store) (ne : other ≠ name) :
    stores.set name s other = stores other := if_neg ne

/-- The collection that keeps its records in the store of its name. -/
def collection (name : String) : Collection Stores where
  supports action := (Store.Operation.ofName? action).isSome
  call action call := fun stores =>
    let (result, after) := (stores name).call name action call
    (result, stores.set name after)

end Stores

end RestService
