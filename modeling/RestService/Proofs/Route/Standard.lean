import RestService.Route.Table

set_option autoImplicit false

namespace RestService.RouteTable

/-- The action that a method asks of a collection as a whole. -/
def wholeAction (method : String) : String :=
  if method = "GET" then ActionName.list
  else if method = "POST" then ActionName.create
  else ActionName.methodNotAllowed

/-- The action that a method asks of one record. -/
def recordAction (method : String) : String :=
  if method = "GET" then ActionName.show
  else if method = "PUT" then ActionName.update
  else if method = "DELETE" then ActionName.delete
  else ActionName.methodNotAllowed

/-- Where the segments of a path lead. -/
def standardMatch (method : String) : List String → Option RouteMatch
  | ["api", name] => some ⟨name, wholeAction method, []⟩
  | ["api", name, id] => some ⟨name, recordAction method, [("id", id)]⟩
  | _ => none

def wholeMatch (action : String) : List String → Option RouteMatch
  | ["api", name] => some ⟨name, action, []⟩
  | _ => none

/-- Where the segments of a path lead if it is that of a record. -/
def recordMatch (action : String) : List String → Option RouteMatch
  | ["api", name, id] => some ⟨name, action, [("id", id)]⟩
  | _ => none

theorem wholeMatch_eq_none {action first : String} {parts : List String} (ne : ¬"api" = first) :
    wholeMatch action (first :: parts) = none := by
  unfold wholeMatch
  split
  · rename_i same
    exact absurd (List.cons.inj same).1.symm ne
  · rfl

theorem recordMatch_eq_none {action first : String} {parts : List String} (ne : ¬"api" = first) :
    recordMatch action (first :: parts) = none := by
  unfold recordMatch
  split
  · rename_i same
    exact absurd (List.cons.inj same).1.symm ne
  · rfl

theorem resolve_wholePattern (method? : Option String) (action path : String) :
    (Route.withAction { pattern := wholePattern, method? } action).resolve path
      = wholeMatch action (PathPattern.split path) := by
  have after : ¬"collection" < "action" := by decide
  change (PathPattern.capture [] wholePattern.segments (PathPattern.split path)).bind _ = _
  rcases PathPattern.split path with _ | ⟨first, _ | ⟨name, _ | ⟨third, rest⟩⟩⟩
  · rfl
  · by_cases api : "api" = first <;> simp [wholePattern, wholeMatch, PathPattern.capture, api]
  · by_cases api : "api" = first
    · subst api
      simp [wholePattern, wholeMatch, PathPattern.capture, Route.withAction, Route.withDefault,
        Route.actionVar, Route.collectionVar, Dict.insert, Dict.extend, Dict.get?, Dict.erase,
        List.lookup_cons, after]
    · rw [wholePattern, PathPattern.capture, if_neg api, wholeMatch_eq_none api]
      rfl
  · by_cases api : "api" = first <;> simp [wholePattern, wholeMatch, PathPattern.capture, api]

theorem resolve_recordPattern (method? : Option String) (action path : String) :
    (Route.withAction { pattern := recordPattern, method? } action).resolve path
      = recordMatch action (PathPattern.split path) := by
  have after : ¬"collection" < "action" ∧ ¬"id" < "collection" ∧ ¬"id" < "action" := by decide
  change (PathPattern.capture [] recordPattern.segments (PathPattern.split path)).bind _ = _
  rcases PathPattern.split path with _ | ⟨first, _ | ⟨name, _ | ⟨id, _ | ⟨fourth, rest⟩⟩⟩⟩
  · rfl
  · by_cases api : "api" = first <;> simp [recordPattern, recordMatch, PathPattern.capture, api]
  · by_cases api : "api" = first <;> simp [recordPattern, recordMatch, PathPattern.capture, api]
  · by_cases api : "api" = first
    · subst api
      simp [recordPattern, recordMatch, PathPattern.capture, Route.withAction, Route.withDefault,
        Route.actionVar, Route.collectionVar, Dict.insert, Dict.extend, Dict.get?, Dict.erase,
        List.lookup_cons, after]
    · rw [recordPattern, PathPattern.capture, if_neg api, recordMatch_eq_none api]
      rfl
  · by_cases api : "api" = first <;> simp [recordPattern, recordMatch, PathPattern.capture, api]

/-- The segments of a path are those of a collection, of a record, or of neither. -/
theorem shape_of_parts (parts : List String) :
    (∃ name, parts = ["api", name]) ∨ (∃ name id, parts = ["api", name, id])
      ∨ ∀ action, wholeMatch action parts = none ∧ recordMatch action parts = none := by
  rcases parts with _ | ⟨first, rest⟩
  · exact .inr (.inr fun _ => ⟨rfl, rfl⟩)
  · by_cases api : "api" = first
    · subst api
      rcases rest with _ | ⟨name, _ | ⟨id, _ | ⟨fourth, rest⟩⟩⟩
      · exact .inr (.inr fun _ => ⟨rfl, rfl⟩)
      · exact .inl ⟨name, rfl⟩
      · exact .inr (.inl ⟨name, id, rfl⟩)
      · exact .inr (.inr fun _ => ⟨rfl, rfl⟩)
    · exact .inr (.inr fun _ => ⟨wholeMatch_eq_none api, recordMatch_eq_none api⟩)

theorem standardMatch_eq_or (method : String) (parts : List String) :
    standardMatch method parts
      = (wholeMatch (wholeAction method) parts).or (recordMatch (recordAction method) parts) := by
  unfold standardMatch
  split
  · rfl
  · rfl
  · rename_i notWhole notRecord
    rcases shape_of_parts parts with ⟨name, same⟩ | ⟨name, id, same⟩ | neither
    · exact absurd same (notWhole name)
    · exact absurd same (notRecord name id)
    · rw [(neither _).1, (neither _).2, Option.or_none]

theorem match?_whole {path name : String} (same : PathPattern.split path = ["api", name])
    (method : String) : standard.match? path method = some ⟨name, wholeAction method, []⟩ := by
  have whole (method? action) := resolve_wholePattern method? action path
  have record (method? action) := resolve_recordPattern method? action path
  simp only [Route.withAction, Route.withDefault, same, wholeMatch, recordMatch] at whole record
  unfold match? standard wholeAction
  by_cases isGet : method = "GET"
  · simp [Route.accepts, Route.withAction, Route.withDefault, whole, isGet]
  · by_cases isPost : method = "POST"
    · simp [Route.accepts, Route.withAction, Route.withDefault, whole, isPost]
    · by_cases isPut : method = "PUT"
      · simp [Route.accepts, Route.withAction, Route.withDefault, whole, record, isPut]
      · by_cases isDelete : method = "DELETE"
        · simp [Route.accepts, Route.withAction, Route.withDefault, whole, record, isDelete]
        · simp [Route.accepts, Route.withAction, Route.withDefault, whole, Ne.symm isGet,
            Ne.symm isPost, Ne.symm isPut, Ne.symm isDelete, isGet, isPost]

theorem match?_record {path name id : String} (same : PathPattern.split path = ["api", name, id])
    (method : String) :
    standard.match? path method = some ⟨name, recordAction method, [("id", id)]⟩ := by
  have whole (method? action) := resolve_wholePattern method? action path
  have record (method? action) := resolve_recordPattern method? action path
  simp only [Route.withAction, Route.withDefault, same, wholeMatch, recordMatch] at whole record
  unfold match? standard recordAction
  by_cases isGet : method = "GET"
  · simp [Route.accepts, Route.withAction, Route.withDefault, whole, record, isGet]
  · by_cases isPost : method = "POST"
    · simp [Route.accepts, Route.withAction, Route.withDefault, whole, record, isPost]
    · by_cases isPut : method = "PUT"
      · simp [Route.accepts, Route.withAction, Route.withDefault, record, isPut]
      · by_cases isDelete : method = "DELETE"
        · simp [Route.accepts, Route.withAction, Route.withDefault, record, isDelete]
        · simp [Route.accepts, Route.withAction, Route.withDefault, whole, record, Ne.symm isGet,
            Ne.symm isPost, Ne.symm isPut, Ne.symm isDelete, isGet, isPut, isDelete]

theorem match?_neither {path : String}
    (neither : ∀ action, wholeMatch action (PathPattern.split path) = none
      ∧ recordMatch action (PathPattern.split path) = none) (method : String) :
    standard.match? path method = none := by
  refine List.findSome?_eq_none_iff.2 fun route mem => ?_
  have listed : route ∈ standard := (List.mem_filter.1 mem).1
  simp only [standard, List.mem_cons, List.not_mem_nil, or_false] at listed
  rcases listed with rfl | rfl | rfl | rfl | rfl | rfl | rfl <;>
    first
      | exact (resolve_wholePattern _ _ _).trans (neither _).1
      | exact (resolve_recordPattern _ _ _).trans (neither _).2

/-- Where the standard routes lead a request. -/
theorem match?_standard (path method : String) :
    standard.match? path method = standardMatch method (PathPattern.split path) := by
  rcases shape_of_parts (PathPattern.split path) with ⟨name, same⟩ | ⟨name, id, same⟩ | neither
  · rw [match?_whole same, same]
    rfl
  · rw [match?_record same, same]
    rfl
  · rw [match?_neither neither, standardMatch_eq_or, (neither _).1, (neither _).2, Option.or_none]

end RestService.RouteTable
