set_option autoImplicit false

namespace RestService

/-- The names that a registration is for. -/
inductive Scope
  | any
  | named (name : String)
  deriving DecidableEq, Repr

/-- The scope that a text tells; a star is any name. -/
def Scope.ofText (s : String) : Scope := if s = "*" then any else named s

/-- An item with what it is registered for. -/
structure Registration (α : Type) where
  collection : Scope := .any
  action : Scope := .any
  priority : Int
  item : α
  deriving DecidableEq, Repr

namespace Registration

variable {α β : Type}

def key (r : Registration α) : Scope × Scope := (r.collection, r.action)

def map (f : α → β) (r : Registration α) : Registration β :=
  ⟨r.collection, r.action, r.priority, f r.item⟩

end Registration

/-- An item in a chain; the serial tells when it was registered. -/
structure Entry (α : Type) where
  priority : Int
  serial : Nat
  item : α
  deriving DecidableEq, Repr

/-- Whether the first entry comes before the second or is the same one. -/
def Entry.precedes {α : Type} (first second : Entry α) : Bool :=
  decide (first.priority < second.priority
    ∨ first.priority = second.priority ∧ first.serial ≤ second.serial)

/-- The entries that have been registered, by their scopes for collections and actions. -/
structure Chain (α : Type) where
  buckets : List ((Scope × Scope) × List (Entry α)) := []

namespace Chain

variable {α : Type}

/-- The buckets with one more entry at the end of the bucket of a key. -/
def push (key : Scope × Scope) (e : Entry α) :
    List ((Scope × Scope) × List (Entry α)) → List ((Scope × Scope) × List (Entry α))
  | [] => [(key, [e])]
  | (own, es) :: rest =>
    if own = key then (own, es ++ [e]) :: rest else (own, es) :: push key e rest

def add (chain : Chain α) (r : Registration α) (serial : Nat) : Chain α where
  buckets := push r.key ⟨r.priority, serial, r.item⟩ chain.buckets

/-- The entries under a key, in the order in which they were registered. -/
def bucket (chain : Chain α) (key : Scope × Scope) : List (Entry α) :=
  (chain.buckets.lookup key).getD []

/-- The keys of the entries that take part in an action of a collection. -/
def keys (collection action : String) : List (Scope × Scope) :=
  [ (.named collection, .named action), (.any, .named action), (.named collection, .any),
    (.any, .any) ]

/-- The items that take part in an action of a collection. -/
def resolve (chain : Chain α) (collection action : String) : List α :=
  (((keys collection action).flatMap chain.bucket).mergeSort Entry.precedes).map Entry.item

def size (chain : Chain α) : Nat := (chain.buckets.flatMap Prod.snd).length

end Chain

/-- The filters on the way to an action and back, and the handlers for its faults. All of them are
numbered in one sequence. -/
structure Filters (φ η : Type) where
  input : Chain φ := {}
  output : Chain φ := {}
  handlers : Chain η := {}
  nextSerial : Nat := 0

/-- The kinds of chains. -/
inductive ChainKind
  | input
  | output
  | handlers
  deriving DecidableEq, Repr

/-- What the chains of a kind are made of. -/
def ChainKind.Item (φ η : Type) : ChainKind → Type
  | input => φ
  | output => φ
  | handlers => η

/-- A registration, with the kind of chain it goes into. -/
inductive Addition (φ η : Type)
  | input (r : Registration φ)
  | output (r : Registration φ)
  | handler (r : Registration η)

/-- The registration, if it goes into chains of this kind. -/
def Addition.registration? {φ η : Type} (kind : ChainKind) :
    Addition φ η → Option (Registration (kind.Item φ η)) :=
  match kind with
  | .input => fun | .input r => some r | _ => none
  | .output => fun | .output r => some r | _ => none
  | .handlers => fun | .handler r => some r | _ => none

namespace Filters

variable {φ η : Type}

def chain (f : Filters φ η) : (kind : ChainKind) → Chain (kind.Item φ η)
  | .input => f.input
  | .output => f.output
  | .handlers => f.handlers

def add (f : Filters φ η) (addition : Addition φ η) : Filters φ η :=
  let serial := f.nextSerial
  let f := { f with nextSerial := serial + 1 }
  match addition with
  | .input r => { f with input := f.input.add r serial }
  | .output r => { f with output := f.output.add r serial }
  | .handler r => { f with handlers := f.handlers.add r serial }

def addAll (f : Filters φ η) (additions : List (Addition φ η)) : Filters φ η :=
  additions.foldl add f

/-- The chains after additions of all kinds, in their order. -/
def ofAdditions (additions : List (Addition φ η)) : Filters φ η := addAll {} additions

def count (f : Filters φ η) : Nat := f.input.size + f.output.size + f.handlers.size

end Filters

end RestService
