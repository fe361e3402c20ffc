set_option autoImplicit false

namespace RestService

/-- A computation that may fail. What it has done to the state until then is not undone. -/
abbrev Fallible (ε σ α : Type) := ExceptT ε (StateM σ) α

namespace Fallible

variable {ε σ α β : Type}

/-- A result that does not depend on the state. -/
def ofResult (result : Except ε α) : Fallible ε σ α := ExceptT.mk (pure result)

@[simp] theorem run_ofResult (result : Except ε α) (s : σ) :
    (ofResult result : Fallible ε σ α).run.run s = (result, s) := rfl

@[simp] theorem run_pure (a : α) (s : σ) :
    (pure a : Fallible ε σ α).run.run s = (.ok a, s) := rfl

@[simp] theorem run_throw (e : ε) (s : σ) :
    (throw e : Fallible ε σ α).run.run s = (.error e, s) := rfl

@[simp] theorem run_get (s : σ) : (get : Fallible ε σ σ).run.run s = (.ok s, s) := rfl

@[simp] theorem run_set (s after : σ) :
    (set after : Fallible ε σ PUnit).run.run s = (.ok ⟨⟩, after) := rfl

@[simp] theorem run_modify (f : σ → σ) (s : σ) :
    (modify f : Fallible ε σ PUnit).run.run s = (.ok ⟨⟩, f s) := rfl

theorem run_bind (x : Fallible ε σ α) (f : α → Fallible ε σ β) (s : σ) :
    (x >>= f).run.run s = match x.run.run s with
      | (.error e, after) => (.error e, after)
      | (.ok a, after) => (f a).run.run after := by
  rw [ExceptT.run_bind, StateT.run_bind]
  change (match x.run.run s with | (result, after) => _) = _
  rcases x.run.run s with ⟨result, after⟩
  cases result <;> rfl

end Fallible

end RestService
