import RestService.Pipeline.Standard
import RestService.Proofs.Pipeline.Order

set_option autoImplicit false

namespace RestService

def Entry.map {α β : Type} (f : α → β) (e : Entry α) : Entry β := ⟨e.priority, e.serial, f e.item⟩

namespace Chain

variable {α β : Type}

def map (f : α → β) (chain : Chain α) : Chain β where
  buckets := chain.buckets.map fun bucket => (bucket.1, bucket.2.map (Entry.map f))

theorem bucket_map (f : α → β) (chain : Chain α) (key : Scope × Scope) :
    (chain.map f).bucket key = (chain.bucket key).map (Entry.map f) := by
  obtain ⟨buckets⟩ := chain
  unfold bucket map
  induction buckets with
  | nil => rfl
  | cons bucket buckets ih =>
    obtain ⟨own, es⟩ := bucket
    rw [List.map_cons, List.lookup_cons, List.lookup_cons]
    cases key == own with
    | true => rfl
    | false => exact ih

/-- What takes part in an action does not depend on what form the items are given. -/
theorem resolve_map (f : α → β) (chain : Chain α) (collection action : String) :
    (chain.map f).resolve collection action = (chain.resolve collection action).map f := by
  have sort (es : List (Entry α)) :
      (es.map (Entry.map f)).mergeSort Entry.precedes
        = (es.mergeSort Entry.precedes).map (Entry.map f) :=
    (List.map_mergeSort (f := Entry.map f) fun _ _ _ _ => rfl).symm
  have buckets : (chain.map f).bucket = fun key => (chain.bucket key).map (Entry.map f) :=
    funext (bucket_map f chain)
  rw [resolve, buckets, ← List.map_flatMap, sort, List.map_map, resolve, List.map_map]
  rfl

end Chain

namespace Standard

/-- The actions that the standard routes lead to. -/
def actions : List String :=
  [ActionName.list, ActionName.show, ActionName.create, ActionName.update, ActionName.delete,
    ActionName.methodNotAllowed]

def inputFilters (action : String) : List StandardFilter :=
  if action = ActionName.create ∨ action = ActionName.update then
    [.checkMethod, .parseEntity, .internalize]
  else if action = ActionName.methodNotAllowed then [.checkMethod]
  else [.checkMethod, .refuseEntity]

def outputFilters (action : String) : List StandardFilter :=
  if action = ActionName.create then [.reportCreated, .externalize, .formatEntity]
  else if action = ActionName.update then [.reportUpdated, .externalize, .formatEntity]
  else if action = ActionName.delete then [.reportDeleted]
  else if action = ActionName.show then [.requireEntity, .externalize, .formatEntity]
  else if action = ActionName.list then [.externalize, .formatEntity]
  else []

variable {φ η : Type} (filter : StandardFilter → φ) (handler : StandardHandler → η)

/-- Standard registrations of a kind need no sorting, whatever form their items are given. -/
theorem resolve_eq {α : Type} {kind : ChainKind} {rs : List (Registration α)}
    {f : α → kind.Item φ η}
    (own : Filters.registrations kind (additions filter handler) = rs.map (Registration.map f))
    (sorted : rs.Pairwise Registration.MayPrecede) (name action : String) :
    ((Filters.addStandard {} filter handler).chain kind).resolve name action
      = ((rs.filter fun r => r.Matches name action).map Registration.item).map f := by
  rw [Filters.addStandard, Filters.resolve_addAll, own, Registration.inOrder_map,
    Registration.inOrder_of_pairwise sorted]

theorem input_resolve (name : String) {action : String} (known : action ∈ actions) :
    (Filters.addStandard {} filter handler).input.resolve name action
      = (inputFilters action).map filter := by
  have sorted : input.Pairwise Registration.MayPrecede := by decide
  have own : Filters.registrations .input (additions filter handler)
      = input.map (Registration.map filter) := rfl
  refine (resolve_eq filter handler own sorted name action).trans ?_
  simp only [actions, List.mem_cons, List.not_mem_nil, or_false] at known
  rcases known with rfl | rfl | rfl | rfl | rfl | rfl <;> rfl

theorem output_resolve (name : String) {action : String} (known : action ∈ actions) :
    (Filters.addStandard {} filter handler).output.resolve name action
      = (outputFilters action).map filter := by
  have sorted : output.Pairwise Registration.MayPrecede := by decide
  have own : Filters.registrations .output (additions filter handler)
      = output.map (Registration.map filter) := rfl
  refine (resolve_eq filter handler own sorted name action).trans ?_
  simp only [actions, List.mem_cons, List.not_mem_nil, or_false] at known
  rcases known with rfl | rfl | rfl | rfl | rfl | rfl <;> rfl

theorem handlers_resolve (name action : String) :
    (Filters.addStandard {} filter handler).handlers.resolve name action
      = [handler .missingRecord, handler .invalidInput] := by
  have sorted : handlers.Pairwise Registration.MayPrecede := by decide
  have own : Filters.registrations .handlers (additions filter handler)
      = handlers.map (Registration.map handler) := rfl
  exact resolve_eq filter handler own sorted name action

end Standard

end RestService
