import RestService.Pipeline.Build
import RestService.Proofs.Pipeline.Chain
import RestService.Proofs.Pipeline.Refusal

set_option autoImplicit false

namespace RestService

variable {σ : Type}

theorem Flow.run_bind {α β : Type} (x : StateM (Flow σ) α) (f : α → StateM (Flow σ) β)
    (flow : Flow σ) : (x >>= f).run flow = (f (x.run flow).1).run (x.run flow).2 := rfl

theorem Flow.run_get (flow : Flow σ) : (get : StateM (Flow σ) (Flow σ)).run flow = (flow, flow) :=
  rfl

theorem Flow.run_modify (f : Flow σ → Flow σ) (flow : Flow σ) :
    (modify f : StateM (Flow σ) PUnit).run flow = (⟨⟩, f flow) := rfl

theorem Flow.run_onWorld {α : Type} (act : StateM σ α) (flow : Flow σ) :
    (Flow.onWorld act).run flow
      = ((act.run flow.world).1, { flow with world := (act.run flow.world).2 }) := rfl

namespace Application

theorem run_runFilters_cons (filter : Filter σ) (filters : List (Filter σ)) (entity : Entity)
    (flow : Flow σ) :
    (runFilters (filter :: filters) entity).run.run flow
      = match (filter entity).run.run flow with
        | (.error fault, after) => (.error fault, after)
        | (.ok next, after) => (runFilters filters next).run.run after := by
  simp only [runFilters, Fallible.run_bind]
  rcases (filter entity).run.run flow with ⟨result | next, after⟩ <;> rfl

/-- What a standard filter on the way to an action makes of an entity. -/
def inputStep (cx : Context σ) (entity : Entity) : StandardFilter → Except Fault Entity
  | .checkMethod => Standard.checkMethod cx entity
  | .refuseEntity => Standard.refuseEntity entity
  | .parseEntity => Standard.parseEntity cx entity
  | .internalize => Standard.internalize cx entity
  | _ => .ok entity

/-- What the standard filters make of the entity of a request on the way to its action. -/
def intake (cx : Context σ) : Except Fault Entity :=
  (Standard.inputFilters cx.action).foldlM (inputStep cx) (requestEntity cx.request)

/-- The filters on the way to an action leave everything but the entity as it is. -/
theorem run_inputFilters {filters : List StandardFilter}
    (inputs : ∀ filter ∈ filters, filter ∈ [StandardFilter.checkMethod, .refuseEntity, .parseEntity,
      .internalize]) (entity : Entity) (flow : Flow σ) :
    (runFilters (filters.map StandardFilter.run) entity).run.run flow
      = (filters.foldlM (inputStep flow.context) entity, flow) := by
  induction filters generalizing entity with
  | nil => rfl
  | cons filter filters ih =>
    have here : (filter.run entity).run.run flow = (inputStep flow.context entity filter, flow) := by
      have known := inputs filter List.mem_cons_self
      simp only [List.mem_cons, List.not_mem_nil, or_false] at known
      rcases known with rfl | rfl | rfl | rfl <;> rfl
    rw [List.map_cons, run_runFilters_cons, here, List.foldlM_cons]
    cases inputStep flow.context entity filter with
    | error fault => rfl
    | ok next => exact ih (fun filter mem => inputs filter (List.mem_cons_of_mem _ mem)) next

theorem isClientError_of_inputStep {cx : Context σ} {entity : Entity} {filter : StandardFilter}
    {fault : Fault} (failed : inputStep cx entity filter = .error fault) :
    fault.isClientError = true := by
  cases filter with
  | checkMethod => exact Standard.isClientError_checkMethod failed
  | refuseEntity => exact Standard.isClientError_refuseEntity failed
  | parseEntity => exact Standard.isClientError_parseEntity failed
  | internalize => exact Standard.isClientError_internalize failed
  | _ => cases failed

theorem isClientError_of_inputSteps {cx : Context σ} {filters : List StandardFilter}
    {entity : Entity} {fault : Fault}
    (failed : filters.foldlM (inputStep cx) entity = .error fault) :
    fault.isClientError = true := by
  induction filters generalizing entity with
  | nil => cases failed
  | cons filter filters ih =>
    rw [List.foldlM_cons] at failed
    rcases Result.bind_eq_error.1 failed with here | ⟨next, -, later⟩
    · exact isClientError_of_inputStep here
    · exact ih later

/-- A request that does not get to its action is refused by the client's fault. -/
theorem isClientError_of_intake {cx : Context σ} {fault : Fault}
    (refused : intake cx = .error fault) : fault.isClientError = true :=
  isClientError_of_inputSteps refused

/-- Whether an action reads the body of its request. -/
def IsWrite (action : String) : Prop := action = ActionName.create ∨ action = ActionName.update

theorem intake_eq_ok_of_isWrite {cx : Context σ} {entity : Entity} (write : IsWrite cx.action)
    (admitted : intake cx = .ok entity) :
    ∃ v inner, Standard.parseBody cx cx.request.body = .ok v
      ∧ Transform.forward cx.service.catalogue cx.collection v = .ok inner
      ∧ entity = .value inner := by
  have filters : Standard.inputFilters cx.action = [.checkMethod, .parseEntity, .internalize] :=
    if_pos write
  rw [intake, filters] at admitted
  obtain ⟨checked, first, more⟩ := Result.bind_eq_ok.1 admitted
  obtain ⟨read, second, more⟩ := Result.bind_eq_ok.1 more
  obtain ⟨last, third, same⟩ := Result.bind_eq_ok.1 more
  cases same
  have unchanged : checked = requestEntity cx.request := by
    change Standard.checkMethod cx _ = .ok checked at first
    unfold Standard.checkMethod at first
    split at first
    · exact (Except.ok.inj first).symm
    · cases first
  have parsed : ∃ v, Standard.parseBody cx cx.request.body = .ok v ∧ read = .value v := by
    rw [unchanged, requestEntity] at second
    change Standard.parseEntity cx _ = .ok read at second
    split at second
    · rename_i empty
      obtain ⟨v, found, same⟩ := Result.map_eq_ok.1 second
      have none : cx.request.body = ByteArray.empty :=
        ByteArray.size_eq_zero_iff.1 (by simpa [ByteArray.isEmpty] using empty)
      exact ⟨v, none ▸ found, same.symm⟩
    · obtain ⟨v, found, same⟩ := Result.map_eq_ok.1 second
      exact ⟨v, found, same.symm⟩
  obtain ⟨v, found, rfl⟩ := parsed
  change Standard.internalize cx (.value v) = .ok entity at third
  simp only [Standard.internalize] at third
  split at third
  · rename_i inner shaped
    exact ⟨v, inner, found, shaped, (Except.ok.inj third).symm⟩
  · cases third
  · cases third

theorem intake_eq_ok_of_not_isWrite {cx : Context σ} {entity : Entity} (read : ¬IsWrite cx.action)
    (admitted : intake cx = .ok entity) : entity = .empty := by
  have filters : Standard.inputFilters cx.action
      = if cx.action = ActionName.methodNotAllowed then [.checkMethod]
        else [.checkMethod, .refuseEntity] := if_neg read
  rw [intake, filters] at admitted
  split at admitted
  · rename_i forbidden
    obtain ⟨checked, first, -⟩ := Result.bind_eq_ok.1 admitted
    change Standard.checkMethod cx _ = .ok checked at first
    unfold Standard.checkMethod at first
    rw [if_neg fun allowed => allowed.1 forbidden] at first
    cases first
  · obtain ⟨checked, first, more⟩ := Result.bind_eq_ok.1 admitted
    obtain ⟨last, second, same⟩ := Result.bind_eq_ok.1 more
    cases same
    change Standard.checkMethod cx _ = .ok checked at first
    change Standard.refuseEntity checked = .ok entity at second
    unfold Standard.checkMethod at first
    split at first
    · cases first
      unfold Standard.refuseEntity at second
      split at second
      · rename_i empty
        cases second
        unfold requestEntity at empty ⊢
        split
        · rfl
        · rename_i full
          rw [if_neg full] at empty
          exact absurd empty full
      · cases second
    · cases first

/-- A request without a body gets to any action that takes none. -/
theorem intake_of_noBody {cx : Context σ} (noBody : cx.request.body.isEmpty = true)
    (filters : Standard.inputFilters cx.action = [.checkMethod, .refuseEntity])
    (allowed : cx.action ≠ ActionName.methodNotAllowed)
    (supported : cx.actions.supports cx.action = true) : intake cx = .ok .empty := by
  have entity : requestEntity cx.request = .empty := if_pos noBody
  have checked : inputStep cx .empty .checkMethod = .ok .empty := if_pos ⟨allowed, supported⟩
  have taken : inputStep cx .empty .refuseEntity = .ok .empty := rfl
  rw [intake, filters, entity, List.foldlM_cons, checked]
  change List.foldlM (inputStep cx) Entity.empty [.refuseEntity] = _
  rw [List.foldlM_cons, taken]
  rfl

/-- The filters that let a request pass have read its entity. -/
theorem actionInput_of_intake {cx : Context σ} {entity : Entity}
    (admitted : intake cx = .ok entity) :
    ∃ input?, actionInput? entity = some input? := by
  by_cases write : IsWrite cx.action
  · obtain ⟨v, inner, -, -, rfl⟩ := intake_eq_ok_of_isWrite write admitted
    exact ⟨_, rfl⟩
  · rw [intake_eq_ok_of_not_isWrite write admitted]
    exact ⟨none, rfl⟩

/-- The action that the request came for, called where the filters have left it. -/
def called (before entered : Flow σ) (input? : Option Value) : Except ActionError Entity × σ :=
  (before.context.actions.call before.context.action
    ⟨arguments entered.context, input?⟩).run entered.world

/-- The way back from the action that a request came for. -/
def proceed (app : Application σ) (cx : Context σ) (entered : Flow σ) :
    Except ActionError Entity × σ → Outcome × Flow σ
  | (.ok output, world) => (app.finish cx output).run { invoke cx entered with world }
  | (.error error, world) => (app.recover error).run { invoke cx entered with world }

theorem run_run (app : Application σ) (flow : Flow σ) :
    app.run.run flow
      = match (runFilters (app.filters.input.resolve flow.context.collection.name
            flow.context.action) (requestEntity flow.context.request)).run.run flow with
        | (.error fault, after) => (.failed fault, after)
        | (.ok entity, after) =>
          match actionInput? entity with
          | none => (.failed (.internal "unparsed request entity"), after)
          | some input? => app.proceed flow.context after (called flow after input?) := by
  simp only [run, Flow.run_bind, Flow.run_get]
  rcases (runFilters (app.filters.input.resolve _ _) _).run.run flow with ⟨result, after⟩
  cases result with
  | error fault => rfl
  | ok entity =>
    cases read : actionInput? entity with
    | none =>
      simp only [read]
      rfl
    | some input? =>
      simp only [read, Flow.run_bind, Flow.run_get, Flow.run_modify, Flow.run_onWorld, invoke,
        called, proceed]
      rcases (flow.context.actions.call _ _).run after.world with ⟨result, world⟩
      cases result <;> rfl

/-- The way of a request that the filters have let pass. -/
theorem run_of_called (app : Application σ) {flow entered : Flow σ} {entity : Entity}
    (passed : (runFilters (app.filters.input.resolve flow.context.collection.name
      flow.context.action) (requestEntity flow.context.request)).run.run flow = (.ok entity, entered))
    {input? : Option Value} (input : actionInput? entity = some input?) :
    app.run.run flow = app.proceed flow.context entered (called flow entered input?) := by
  rw [run_run, passed]
  simp only [input]

theorem run_finish (app : Application σ) (cx : Context σ) (output : Entity) (flow : Flow σ) :
    (app.finish cx output).run flow
      = match (runFilters (app.filters.output.resolve cx.collection.name cx.action)
            output).run.run (flow.enter .outputFiltering) with
        | (.error fault, after) => (.failed fault, after)
        | (.ok entity, after) =>
          match responseBody? entity with
          | some body => (.finished after.response body, after)
          | none => (.failed (.internal "unformatted response entity"), after) := by
  simp only [finish, Flow.run_bind, Flow.run_modify]
  rcases (runFilters _ output).run.run (flow.enter .outputFiltering) with ⟨result, after⟩
  cases result with
  | error fault => rfl
  | ok entity =>
    cases written : responseBody? entity with
    | none =>
      simp only [written]
      rfl
    | some body =>
      simp only [written]
      rfl

theorem run_recover (app : Application σ) (error : ActionError) (flow : Flow σ) :
    (app.recover error).run flow
      = match (runHandlers (app.filters.handlers.resolve flow.context.collection.name
            flow.context.action) (.action error)).run (flow.enter .faultHandling) with
        | (none, after) => (.finished after.response ByteArray.empty, after)
        | (some fault, after) => (.failed fault, after) := by
  simp only [recover, Flow.run_bind, Flow.run_get, Flow.run_modify, Flow.enter]
  rcases (runHandlers _ (Fault.action error)).run _ with ⟨left?, after⟩
  cases left? <;> rfl

/-- The application has the standard routes, codecs, filters and handlers, and no others. -/
structure IsStandard (app : Application σ) : Prop where
  routes : app.routes = RouteTable.standard
  codecs : app.codecs = Codec.all
  filters : app.filters = Filters.addStandard {} StandardFilter.run StandardHandler.run

/-- What the filter for created records gives on, when the response has its status. -/
def placed (cx : Context σ) (output : Entity) (flow : Flow σ) : Except Fault Entity × Flow σ :=
  match Standard.cutLocation output with
  | (none, entity) => (.ok entity, flow)
  | (some location, entity) =>
    let url := cx.request.absoluteUrl cx.service.publicUrl? location
    match HeaderValue.ofText? url with
    | none => (.error (.internal s!"invalid location: {url}"), flow)
    | some value =>
      let told := flow.setHeader HeaderName.location value
      (.ok entity, if entity.isEmpty then told else told.setHeader HeaderName.contentLocation value)

theorem run_reportCreated (cx : Context σ) (output : Entity) (flow : Flow σ) :
    (Standard.reportCreated cx output).run.run flow
      = placed cx output (if flow.response.status = .ok then flow.setStatus .created else flow) := by
  unfold Standard.reportCreated placed
  simp only [Fallible.run_bind, Fallible.run_get]
  rcases Standard.cutLocation output with ⟨location?, entity⟩
  cases location? with
  | none => split <;> rfl
  | some location =>
    cases fits : HeaderValue.ofText? (cx.request.absoluteUrl cx.service.publicUrl? location) with
    | none => split <;> simp only [fits] <;> rfl
    | some value => split <;> simp only [fits] <;> cases entity.isEmpty <;> rfl

theorem run_formatEntity (cx : Context σ) (v : Value) (flow : Flow σ) :
    (Standard.formatEntity cx (.value v)).run.run flow
      = if v.isNull then (.ok .empty, flow)
        else match Standard.formatBody cx v with
          | .error fault => (.error fault, flow)
          | .ok (form, body) =>
            (.ok (.bytes body), flow.setHeader HeaderName.contentType form.contentType.toUTF8) := by
  unfold Standard.formatEntity
  by_cases null : v.isNull = true
  · simp only [if_pos null]
    rfl
  · simp only [if_neg null]
    cases Standard.formatBody cx v <;> rfl

theorem world_placed (cx : Context σ) (output : Entity) (flow : Flow σ) :
    (placed cx output flow).2.world = flow.world := by
  unfold placed
  split
  · rfl
  · simp only
    split
    · rfl
    · simp only
      split <;> rfl

/-- No standard filter touches what is stored. -/
theorem world_run_filter (filter : StandardFilter) (entity : Entity) (flow : Flow σ) :
    ((filter.run entity).run.run flow).2.world = flow.world := by
  cases filter with
  | reportCreated =>
    change ((Standard.reportCreated flow.context entity).run.run flow).2.world = _
    rw [run_reportCreated, world_placed]
    split <;> rfl
  | reportUpdated =>
    change ((Standard.reportUpdated entity).run.run flow).2.world = _
    unfold Standard.reportUpdated
    split <;> rfl
  | reportDeleted =>
    change ((Standard.reportDeleted entity).run.run flow).2.world = _
    unfold Standard.reportDeleted
    split <;> rfl
  | formatEntity =>
    change ((Standard.formatEntity flow.context entity).run.run flow).2.world = _
    cases entity with
    | value v =>
      rw [run_formatEntity]
      split
      · rfl
      · split <;> rfl
    | _ => rfl
  | _ => rfl

theorem world_run_filters (filters : List StandardFilter) (entity : Entity) (flow : Flow σ) :
    ((runFilters (filters.map StandardFilter.run) entity).run.run flow).2.world = flow.world := by
  induction filters generalizing entity flow with
  | nil => rfl
  | cons filter filters ih =>
    have kept := world_run_filter filter entity flow
    rw [List.map_cons, run_runFilters_cons]
    rcases ran : (filter.run entity).run.run flow with ⟨result, after⟩
    rw [ran] at kept
    cases result with
    | error fault => exact kept
    | ok next => exact (ih next after).trans kept

variable {app : Application σ}

theorem isInput_of_mem {action : String} {filter : StandardFilter}
    (mem : filter ∈ Standard.inputFilters action) :
    filter ∈ [StandardFilter.checkMethod, .refuseEntity, .parseEntity, .internalize] := by
  unfold Standard.inputFilters at mem
  split at mem
  · revert filter
    decide
  · split at mem
    · revert filter
      decide
    · revert filter
      decide

section Way

variable {cx : Context σ} (known : cx.action ∈ Standard.actions)
include known

theorem IsStandard.run_input (standard : app.IsStandard) (world : σ) :
    (runFilters (app.filters.input.resolve cx.collection.name cx.action)
      (requestEntity cx.request)).run.run { context := cx, world }
      = (intake cx, { context := cx, world }) := by
  rw [standard.filters, Standard.input_resolve _ _ _ known]
  exact run_inputFilters (fun _ mem => isInput_of_mem mem) _ _

theorem IsStandard.run_of_refused (standard : app.IsStandard) {fault : Fault}
    (refused : intake cx = .error fault) (world : σ) :
    app.run.run { context := cx, world } = (.failed fault, { context := cx, world }) := by
  rw [run_run, standard.run_input known, refused]

theorem IsStandard.run_of_admitted (standard : app.IsStandard) {entity : Entity}
    (admitted : intake cx = .ok entity) {input? : Option Value}
    (input : actionInput? entity = some input?) (world : σ) :
    app.run.run { context := cx, world }
      = app.proceed cx { context := cx, world }
        ((cx.actions.call cx.action ⟨arguments cx, input?⟩).run world) := by
  have passed := standard.run_input known world
  rw [admitted] at passed
  exact run_of_called app passed input

end Way

section Finish

variable {cx : Context σ}

theorem IsStandard.world_finish (standard : app.IsStandard)
    (known : cx.action ∈ Standard.actions) (output : Entity) (flow : Flow σ) :
    ((app.finish cx output).run flow).2.world = flow.world := by
  have kept := world_run_filters (Standard.outputFilters cx.action) output
    (flow.enter .outputFiltering)
  rw [run_finish, standard.filters, Standard.output_resolve _ _ _ known]
  rcases ran : (runFilters _ output).run.run (flow.enter .outputFiltering) with ⟨result, after⟩
  rw [ran] at kept
  cases result with
  | error fault => exact kept
  | ok entity =>
    simp only
    cases responseBody? entity <;> exact kept

theorem IsStandard.run_recover (standard : app.IsStandard) (error : ActionError) (flow : Flow σ) :
    (app.recover error).run flow
      = (.failed (Standard.invalidInput flow.context (Standard.missingRecord (.action error))),
          flow.enter .faultHandling) := by
  rw [Application.run_recover, standard.filters, Standard.handlers_resolve]
  rfl

theorem IsStandard.run_output (standard : app.IsStandard)
    (known : cx.action ∈ Standard.actions) {filters : List StandardFilter}
    (those : Standard.outputFilters cx.action = filters) (output : Entity) (flow : Flow σ) :
    (app.finish cx output).run flow
      = match (runFilters (filters.map StandardFilter.run) output).run.run
            (flow.enter .outputFiltering) with
        | (.error fault, after) => (.failed fault, after)
        | (.ok entity, after) =>
          match responseBody? entity with
          | some body => (.finished after.response body, after)
          | none => (.failed (.internal "unformatted response entity"), after) := by
  rw [run_finish, standard.filters, Standard.output_resolve _ _ _ known, those]

/-- A record is shown in its external shape and the form that the request prefers. -/
theorem IsStandard.run_show (standard : app.IsStandard) (action : cx.action = ActionName.show)
    {flow : Flow σ} {v w : Value} (present : v.isNull = false)
    (shaped : Transform.reverse flow.context.service.catalogue v = .ok w) (full : w.isNull = false)
    {form : Representation} {body : ByteArray}
    (formatted : Standard.formatBody flow.context w = .ok (form, body)) :
    ((app.finish cx (.value v)).run flow).1
      = .finished (flow.setHeader HeaderName.contentType form.contentType.toUTF8).response body := by
  have known : cx.action ∈ Standard.actions := by rw [action]; decide
  have those :
      Standard.outputFilters cx.action = [.requireEntity, .externalize, .formatEntity] := by
    rw [action]
    rfl
  let entered := flow.enter .outputFiltering
  have required : (StandardFilter.run .requireEntity (.value v)).run.run entered
      = (.ok (.value v), entered) := by
    change (Standard.requireEntity (.value v), entered) = _
    rw [Standard.requireEntity, Entity.isEmpty, present]
    rfl
  have outer : (StandardFilter.run .externalize (.value v)).run.run entered
      = (.ok (.value w), entered) := by
    change (Standard.externalize flow.context (.value v), entered) = _
    simp only [Standard.externalize, shaped]
  have written : (StandardFilter.run .formatEntity (.value w)).run.run entered
      = (.ok (.bytes body), entered.setHeader HeaderName.contentType form.contentType.toUTF8) := by
    change (Standard.formatEntity flow.context (.value w)).run.run entered = _
    rw [run_formatEntity, full, formatted]
    rfl
  rw [standard.run_output known those, List.map_cons, run_runFilters_cons, required]
  simp only [List.map_cons, run_runFilters_cons, entered, outer, written]
  rfl

/-- A created record is answered as such, if its location may stand in a header. -/
theorem IsStandard.status_created (standard : app.IsStandard)
    (action : cx.action = ActionName.create) {flow : Flow σ}
    (fresh : flow.response.status = .ok) {location : String} {value : ByteArray}
    (fits : HeaderValue.ofText?
      (flow.context.request.absoluteUrl flow.context.service.publicUrl? location) = some value) :
    ((app.finish cx (.located location .empty)).run flow).1.response.status = .created := by
  have known : cx.action ∈ Standard.actions := by rw [action]; decide
  have those :
      Standard.outputFilters cx.action = [.reportCreated, .externalize, .formatEntity] := by
    rw [action]
    rfl
  let entered := flow.enter .outputFiltering
  have told : (StandardFilter.run .reportCreated (.located location .empty)).run.run entered
      = (.ok .empty, (entered.setStatus .created).setHeader HeaderName.location value) := by
    change (Standard.reportCreated flow.context (.located location .empty)).run.run entered = _
    rw [run_reportCreated, if_pos (show entered.response.status = .ok from fresh)]
    simp only [placed, Standard.cutLocation, fits]
    rfl
  rw [standard.run_output known those, List.map_cons, run_runFilters_cons, told]
  rfl

theorem IsStandard.status_updated (standard : app.IsStandard)
    (action : cx.action = ActionName.update) (flow : Flow σ) :
    ((app.finish cx .empty).run flow).1.response.status = .noContent := by
  have known : cx.action ∈ Standard.actions := by rw [action]; decide
  have those :
      Standard.outputFilters cx.action = [.reportUpdated, .externalize, .formatEntity] := by
    rw [action]
    rfl
  rw [standard.run_output known those]
  rfl

theorem IsStandard.status_deleted (standard : app.IsStandard)
    (action : cx.action = ActionName.delete) (flow : Flow σ) :
    ((app.finish cx .empty).run flow).1.response.status = .noContent := by
  have known : cx.action ∈ Standard.actions := by rw [action]; decide
  have those : Standard.outputFilters cx.action = [.reportDeleted] := by
    rw [action]
    rfl
  rw [standard.run_output known those]
  rfl

end Finish

end Application

end RestService
