import RestService.Proofs.Pipeline.Stored

set_option autoImplicit false

namespace RestService

/-- The path of the request is that of the record `id` of the collection `name`. -/
def Request.Names (request : Request) (name : String) (id : Nat) : Prop :=
  ∃ text, PathPattern.split request.path = ["api", name, text] ∧ Decimal.nat64? text = some id

namespace Application

variable {specs : List CollectionSpec} {app : Application Stores} {request : Request}
  {before after : Stores} {name : String} {id : Nat}

/-- The service gets from the stores `before` to others, by requests of which none has changed or
removed the record `id` of the collection `name`. -/
inductive Spares (app : Application Stores) (name : String) (id : Nat) (before : Stores) :
    Stores → Prop
  | start : Spares app name id before before
  | step {stores : Stores} (earlier : Spares app name id before stores) (request : Request)
      (spared : request.method = "PUT" ∨ request.method = "DELETE" → request.Names name id →
        ((app.handle request).run stores).1.1.status ≠ .noContent) :
      Spares app name id before ((app.handle request).run stores).2

/-- A record is still there after a request, unless the request has changed or removed it. -/
theorem Handled.get? (inMemory : app.InMemory specs) (ordered : before.Ordered)
    {response : Response} (handled : Handled app request before response after) {r : Resource}
    (found : (before name).get? id = some r)
    (spared : request.method = "PUT" ∨ request.method = "DELETE" → request.Names name id →
      response.status ≠ .noContent) : (after name).get? id = some r := by
  cases handled with
  | unrouted => exact found
  | refused => exact found
  | failed => exact found
  | @done cx entity output input? s routed admitted input change =>
    by_cases own : name = cx.collection.name
    · subst own
      rw [Stores.set_same]
      rcases change.get?_or (ordered _) found with kept | ⟨action, rfl, named⟩
      · exact kept
      · rcases action with update | delete
        · obtain ⟨put, text, path, vars⟩ := routed.of_update inMemory.toIsStandard update
          have gone := spared (.inl put) ⟨text, path, idOf_arguments vars named⟩
          exact absurd (inMemory.status_updated update _) gone
        · obtain ⟨method, text, path, vars⟩ := routed.of_delete inMemory.toIsStandard delete
          have gone := spared (.inr method) ⟨text, path, idOf_arguments vars named⟩
          exact absurd (inMemory.status_deleted delete _) gone
    · rw [Stores.set_other before s own]
      exact found

/-- A record stays what it is as long as no request changes or removes it. -/
theorem Spares.get? (inMemory : app.InMemory specs) (spares : app.Spares name id before after)
    (ordered : before.Ordered) {r : Resource} (found : (before name).get? id = some r) :
    after.Ordered ∧ (after name).get? id = some r := by
  -- A new record must not take a used id, so the order of the stores goes along.
  induction spares with
  | start => exact ⟨ordered, found⟩
  | @step stores _ request spared ih =>
    have handled := inMemory.handled request stores
    exact ⟨handled.ordered ih.1, handled.get? inMemory ih.1 ih.2 spared⟩

end Application

end RestService
