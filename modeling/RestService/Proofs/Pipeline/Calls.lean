import RestService.Proofs.Pipeline.Stored

set_option autoImplicit false

namespace RestService

/-- What a part of an application was given and what it gave, and what it found the request and the
collections to be. -/
inductive Call (σ : Type)
  | input (filter : Filter σ) (given : Entity) (found : Flow σ) (result : Except Fault Entity)
  | action (collection name : String) (given : ActionCall) (found : σ)
      (result : Except ActionError Entity)
  | output (filter : Filter σ) (given : Entity) (found : Flow σ) (result : Except Fault Entity)
  | handler (handler : FaultHandler σ) (given : Fault) (found : Flow σ) (result : Option Fault)

def Call.isAction {σ : Type} : Call σ → Bool
  | action _ _ _ _ _ => true
  | _ => false

/-- A state and the calls up to it, the latest last. -/
abbrev Watched (σ : Type) := σ × List (Call σ)

section Watching

variable {σ : Type}

/-- The actions of a collection, with a line in the log for each call. -/
def Collection.watched (name : String) (c : Collection σ) : Collection (Watched σ) where
  supports := c.supports
  call action given := fun (world, log) =>
    let (result, after) := (c.call action given).run world
    (result, (after, log ++ [.action name action given world result]))

/-- The actions of a watched collection as they are without the log. -/
def Collection.plain (c : Collection (Watched σ)) : Collection σ where
  supports := c.supports
  call action given := fun world =>
    let (result, after) := (c.call action given).run (world, [])
    (result, after.1)

namespace Service

def watched (service : Service σ) : Service (Watched σ) where
  routes := service.routes
  catalogue := service.catalogue
  actions := fun name => (service.actions name).watched name
  codecs := service.codecs
  charsets := service.charsets
  publicUrl? := service.publicUrl?

def plain (service : Service (Watched σ)) : Service σ where
  routes := service.routes
  catalogue := service.catalogue
  actions := fun name => (service.actions name).plain
  codecs := service.codecs
  charsets := service.charsets
  publicUrl? := service.publicUrl?

end Service

namespace Context

def watched (cx : Context σ) : Context (Watched σ) :=
  ⟨cx.service.watched, cx.request, cx.route, cx.collection, cx.actions.watched cx.collection.name⟩

def plain (cx : Context (Watched σ)) : Context σ :=
  ⟨cx.service.plain, cx.request, cx.route, cx.collection, cx.actions.plain⟩

end Context

namespace Flow

def watched (flow : Flow σ) (calls : List (Call σ)) : Flow (Watched σ) :=
  ⟨flow.context.watched, flow.phase, flow.response, flow.log, (flow.world, calls)⟩

def plain (flow : Flow (Watched σ)) : Flow σ :=
  ⟨flow.context.plain, flow.phase, flow.response, flow.log, flow.world.1⟩

/-- A step that works as before, with a line in the log for what it found and gave. -/
def watch {α : Type} (line : Flow σ → α → Call σ) (act : StateM (Flow σ) α) :
    StateM (Flow (Watched σ)) α := fun flow =>
  let (result, after) := act.run flow.plain
  (result, after.watched (flow.world.2 ++ [line flow.plain result]))

end Flow

/-- A filter with a line in the log for each call. -/
def Filter.watched (line : Filter σ → Entity → Flow σ → Except Fault Entity → Call σ)
    (filter : Filter σ) : Filter (Watched σ) :=
  fun entity => ExceptT.mk (Flow.watch (line filter entity) (filter entity).run)

/-- A handler with a line in the log for each call. -/
def FaultHandler.watched (handler : FaultHandler σ) : FaultHandler (Watched σ) :=
  fun fault => Flow.watch (.handler handler fault) (handler fault)

/-- The application with all its filters, actions and handlers watched. -/
def Application.watched (app : Application σ) : Application (Watched σ) where
  toService := app.toService.watched
  filters :=
    { input := app.filters.input.map (Filter.watched .input)
      output := app.filters.output.map (Filter.watched .output)
      handlers := app.filters.handlers.map FaultHandler.watched
      nextSerial := app.filters.nextSerial }

end Watching

section Traces

variable {σ : Type}

/-- Filters are called one after the other, each on the entity and the flow that the one before it
has left, up to the first fault. -/
inductive Passes (line : Filter σ → Entity → Flow σ → Except Fault Entity → Call σ) :
    List (Filter σ) → Entity → Flow σ → List (Call σ) → Except Fault Entity → Flow σ → Prop
  | done (entity : Entity) (flow : Flow σ) : Passes line [] entity flow [] (.ok entity) flow
  | stopped {filter : Filter σ} {filters : List (Filter σ)} {entity : Entity} {fault : Fault}
      {before after : Flow σ} (gave : (filter entity).run.run before = (.error fault, after)) :
      Passes line (filter :: filters) entity before [line filter entity before (.error fault)]
        (.error fault) after
  | passed {filter : Filter σ} {filters : List (Filter σ)} {entity next : Entity}
      {calls : List (Call σ)} {result : Except Fault Entity} {before between after : Flow σ}
      (gave : (filter entity).run.run before = (.ok next, between))
      (later : Passes line filters next between calls result after) :
      Passes line (filter :: filters) entity before
        (line filter entity before (.ok next) :: calls) result after

/-- Handlers are called one after the other, each on the fault and the flow that the one before it
has passed on, up to the first that passes on no fault. -/
inductive Faces :
    List (FaultHandler σ) → Fault → Flow σ → List (Call σ) → Option Fault → Flow σ → Prop
  | left (fault : Fault) (flow : Flow σ) : Faces [] fault flow [] (some fault) flow
  | settled {handler : FaultHandler σ} {handlers : List (FaultHandler σ)} {fault : Fault}
      {before after : Flow σ} (gave : (handler fault).run before = (none, after)) :
      Faces (handler :: handlers) fault before [.handler handler fault before none] none after
  | passed {handler : FaultHandler σ} {handlers : List (FaultHandler σ)} {fault next : Fault}
      {calls : List (Call σ)} {result : Option Fault} {before between after : Flow σ}
      (gave : (handler fault).run before = (some next, between))
      (later : Faces handlers next between calls result after) :
      Faces (handler :: handlers) fault before
        (.handler handler fault before (some next) :: calls) result after

/-- The input that an action is called with for an entity that the filters have made. -/
inductive Reads : Entity → Option Value → Prop
  | empty : Reads .empty none
  | noBytes {body : ByteArray} (noBytes : body.isEmpty = true) : Reads (.bytes body) none
  | null : Reads (.value .null) none
  | value {v : Value} (given : v ≠ .null) : Reads (.value v) (some v)

/-- The body that is sent for an entity that the filters have made. -/
inductive Writes : Entity → ByteArray → Prop
  | empty : Writes .empty ByteArray.empty
  | bytes (body : ByteArray) : Writes (.bytes body) body
  | null : Writes (.value .null) ByteArray.empty

/-- The calls after an action that has given `output`, and how the way ends: with the response under
construction and a body or with a fault. -/
inductive Leaves (filters : List (Filter σ)) (output : Entity) (before : Flow σ) :
    List (Call σ) → Outcome → Flow σ → Prop
  | stopped {calls : List (Call σ)} {fault : Fault} {after : Flow σ}
      (passes : Passes .output filters output before calls (.error fault) after) :
      Leaves filters output before calls (.failed fault) after
  | unformatted {calls : List (Call σ)} {entity : Entity} {after : Flow σ}
      (passes : Passes .output filters output before calls (.ok entity) after)
      (unformatted : ∀ body, ¬Writes entity body) :
      Leaves filters output before calls (.failed (.internal "unformatted response entity")) after
  | finished {calls : List (Call σ)} {entity : Entity} {body : ByteArray} {after : Flow σ}
      (passes : Passes .output filters output before calls (.ok entity) after)
      (writes : Writes entity body) :
      Leaves filters output before calls (.finished after.response body) after

/-- The calls after an action that has failed, and how the way ends. -/
inductive Recovers (handlers : List (FaultHandler σ)) (error : ActionError) (before : Flow σ) :
    List (Call σ) → Outcome → Flow σ → Prop
  | settled {calls : List (Call σ)} {after : Flow σ}
      (faces : Faces handlers (.action error) before calls none after) :
      Recovers handlers error before calls (.finished after.response ByteArray.empty) after
  | left {calls : List (Call σ)} {fault : Fault} {after : Flow σ}
      (faces : Faces handlers (.action error) before calls (some fault) after) :
      Recovers handlers error before calls (.failed fault) after

namespace Application

variable (app : Application σ)

/-- The filters on the way of a request to its action make of its entity what `result` tells. -/
def Enters (before : Flow σ) (calls : List (Call σ)) (result : Except Fault Entity)
    (after : Flow σ) : Prop :=
  Passes .input (app.filters.input.resolve before.context.collection.name before.context.action)
    (requestEntity before.context.request) before calls result after

/-- The filters on the way of a request to its action let it pass with an entity that they have
read. -/
def Admits (before : Flow σ) : Prop :=
  ∃ calls entity after input?, app.Enters before calls (.ok entity) after ∧ Reads entity input?

/-- The line in the log for the call of the action. -/
def callLine (before entered : Flow σ) (input? : Option Value)
    (result : Except ActionError Entity) : Call σ :=
  .action before.context.collection.name before.context.action ⟨arguments entered.context, input?⟩
    entered.world result

/-- The calls on the way of a request, and how the way ends. The filters on the way back are those
for where the request came for, and the handlers those for where the filters have sent it. -/
inductive Way (before : Flow σ) : List (Call σ) → Outcome → Flow σ → Prop
  | stopped {calls : List (Call σ)} {fault : Fault} {after : Flow σ}
      (enters : app.Enters before calls (.error fault) after) :
      Way before calls (.failed fault) after
  | unparsed {calls : List (Call σ)} {entity : Entity} {after : Flow σ}
      (enters : app.Enters before calls (.ok entity) after)
      (unparsed : ∀ input?, ¬Reads entity input?) :
      Way before calls (.failed (.internal "unparsed request entity")) after
  | left {calls more : List (Call σ)} {entity output : Entity} {input? : Option Value}
      {outcome : Outcome} {entered after : Flow σ} {world : σ}
      (enters : app.Enters before calls (.ok entity) entered) (reads : Reads entity input?)
      (gave : called before entered input? = (.ok output, world))
      (leaves : Leaves
        (app.filters.output.resolve before.context.collection.name before.context.action) output
        { invoke before.context entered with world, phase := .outputFiltering } more outcome after) :
      Way before (calls ++ callLine before entered input? (.ok output) :: more) outcome after
  | recovered {calls more : List (Call σ)} {entity : Entity} {error : ActionError}
      {input? : Option Value} {outcome : Outcome} {entered after : Flow σ} {world : σ}
      (enters : app.Enters before calls (.ok entity) entered) (reads : Reads entity input?)
      (gave : called before entered input? = (.error error, world))
      (recovers : Recovers
        (app.filters.handlers.resolve entered.context.collection.name entered.context.action) error
        { invoke before.context entered with world, phase := .faultHandling } more outcome after) :
      Way before (calls ++ callLine before entered input? (.error error) :: more) outcome after

end Application

/-- The response at the end of a way. -/
inductive Answers : Outcome → Response → Prop
  | finished (head : ResponseHead) (body : ByteArray) :
      Answers (.finished head body) ⟨head.status, head.headers, body⟩
  | failed {fault : Fault} {response : Response} (status : response.status = fault.status) :
      Answers (.failed fault) response

end Traces

section Counts

variable {σ : Type} {calls : List (Call σ)}

theorem Passes.countP_isAction {line : Filter σ → Entity → Flow σ → Except Fault Entity → Call σ}
    (other : ∀ filter entity found result, (line filter entity found result).isAction = false)
    {filters : List (Filter σ)} {entity : Entity} {result : Except Fault Entity}
    {before after : Flow σ} (passes : Passes line filters entity before calls result after) :
    calls.countP Call.isAction = 0 := by
  induction passes with
  | done => rfl
  | stopped =>
    rw [List.countP_cons, other]
    rfl
  | passed _ _ ih =>
    rw [List.countP_cons, other, ih]
    rfl

theorem Faces.countP_isAction {handlers : List (FaultHandler σ)} {fault : Fault}
    {result : Option Fault} {before after : Flow σ}
    (faces : Faces handlers fault before calls result after) :
    calls.countP Call.isAction = 0 := by
  induction faces with
  | left => rfl
  | settled => rfl
  | passed _ _ ih => exact ih

theorem Leaves.countP_isAction {filters : List (Filter σ)} {output : Entity} {outcome : Outcome}
    {before after : Flow σ} (leaves : Leaves filters output before calls outcome after) :
    calls.countP Call.isAction = 0 := by
  cases leaves with
  | stopped passes => exact passes.countP_isAction fun _ _ _ _ => rfl
  | unformatted passes => exact passes.countP_isAction fun _ _ _ _ => rfl
  | finished passes => exact passes.countP_isAction fun _ _ _ _ => rfl

theorem Recovers.countP_isAction {handlers : List (FaultHandler σ)} {error : ActionError}
    {outcome : Outcome} {before after : Flow σ}
    (recovers : Recovers handlers error before calls outcome after) :
    calls.countP Call.isAction = 0 := by
  cases recovers with
  | settled faces => exact faces.countP_isAction
  | left faces => exact faces.countP_isAction

/-- Filters make the same of the same. -/
theorem Passes.unique {line : Filter σ → Entity → Flow σ → Except Fault Entity → Call σ}
    {filters : List (Filter σ)} {entity : Entity} {result other : Except Fault Entity}
    {others : List (Call σ)} {before after last : Flow σ}
    (passes : Passes line filters entity before calls result after)
    (passesToo : Passes line filters entity before others other last) : result = other := by
  induction passes generalizing others with
  | done entity flow =>
    cases passesToo
    rfl
  | stopped gave =>
    cases passesToo with
    | stopped gaveToo => exact (Prod.mk.inj (gave.symm.trans gaveToo)).1
    | passed gaveToo _ => cases gave.symm.trans gaveToo
  | passed gave _ ih =>
    cases passesToo with
    | stopped gaveToo => cases gave.symm.trans gaveToo
    | passed gaveToo later =>
      cases gave.symm.trans gaveToo
      exact ih later

namespace Application

variable {app : Application σ} {outcome : Outcome} {before after : Flow σ}

theorem Enters.countP_isAction {result : Except Fault Entity}
    (enters : app.Enters before calls result after) : calls.countP Call.isAction = 0 :=
  Passes.countP_isAction (fun _ _ _ _ => rfl) enters

/-- The action is called once if the request is let pass, and never otherwise. -/
theorem Way.countP_isAction (way : app.Way before calls outcome after) :
    (app.Admits before → calls.countP Call.isAction = 1)
      ∧ (¬app.Admits before → calls.countP Call.isAction = 0) := by
  cases way with
  | stopped enters =>
    refine ⟨fun ⟨_, _, _, _, entersToo, _⟩ => ?_, fun _ => enters.countP_isAction⟩
    cases enters.unique entersToo
  | unparsed enters unparsed =>
    refine ⟨fun ⟨_, _, _, input?, entersToo, reads⟩ => ?_, fun _ => enters.countP_isAction⟩
    cases enters.unique entersToo
    exact absurd reads (unparsed input?)
  | left enters reads gave leaves =>
    refine ⟨fun _ => ?_, fun refused => absurd ⟨_, _, _, _, enters, reads⟩ refused⟩
    rw [List.countP_append, List.countP_cons, enters.countP_isAction, leaves.countP_isAction]
    rfl
  | recovered enters reads gave recovers =>
    refine ⟨fun _ => ?_, fun refused => absurd ⟨_, _, _, _, enters, reads⟩ refused⟩
    rw [List.countP_append, List.countP_cons, enters.countP_isAction, recovers.countP_isAction]
    rfl

end Application

end Counts

theorem Outcome.answers (outcome : Outcome) : Answers outcome outcome.response := by
  cases outcome with
  | finished head body => exact .finished head body
  | failed fault => exact .failed fault.status_response

theorem Value.isNull_iff {v : Value} : v.isNull = true ↔ v = .null := by
  cases v with
  | null => exact ⟨fun _ => rfl, fun _ => rfl⟩
  | _ => exact ⟨fun null => (nomatch null), fun null => (nomatch null)⟩

namespace Application

variable {σ : Type}

theorem actionInput?_eq_some_iff {entity : Entity} {input? : Option Value} :
    actionInput? entity = some input? ↔ Reads entity input? := by
  constructor
  · intro read
    cases entity with
    | empty =>
      cases read
      exact .empty
    | bytes body =>
      rw [actionInput?] at read
      split at read
      · rename_i noBytes
        cases read
        exact .noBytes noBytes
      · cases read
    | value v =>
      rw [actionInput?] at read
      split at read
      · rename_i null
        cases read
        rw [Value.isNull_iff.1 null]
        exact .null
      · rename_i given
        cases read
        exact .value fun null => given (Value.isNull_iff.2 null)
    | located location entity => cases read
  · intro reads
    cases reads with
    | empty => rfl
    | noBytes noBytes => exact if_pos noBytes
    | null => rfl
    | value given => exact congrArg some (if_neg fun null => given (Value.isNull_iff.1 null))

theorem responseBody?_eq_some_iff {entity : Entity} {body : ByteArray} :
    responseBody? entity = some body ↔ Writes entity body := by
  constructor
  · intro written
    cases entity with
    | empty =>
      cases written
      exact .empty
    | bytes body =>
      cases written
      exact .bytes body
    | value v =>
      rw [responseBody?] at written
      split at written
      · rename_i null
        cases written
        rw [Value.isNull_iff.1 null]
        exact .null
      · cases written
    | located location entity => cases written
  · intro writes
    cases writes <;> rfl

/-- The watched step gives what the plain one gives and adds calls to the log. They, what the step
gives and the flow after it are as `tells` has it. -/
def Traced {α : Type} (watched : StateM (Flow (Watched σ)) α) (plain : StateM (Flow σ) α)
    (flow : Flow σ) (tells : List (Call σ) → α → Flow σ → Prop) : Prop :=
  ∃ calls result after, plain.run flow = (result, after)
    ∧ (∀ log, watched.run (flow.watched log) = (result, after.watched (log ++ calls)))
    ∧ tells calls result after

namespace Traced

variable {α β : Type} {flow : Flow σ} {tells : List (Call σ) → α → Flow σ → Prop}

theorem pure {a : α} (told : tells [] a flow) :
    Traced (Pure.pure a) (Pure.pure a) flow tells := by
  refine ⟨[], a, flow, rfl, fun log => ?_, told⟩
  rw [List.append_nil]
  rfl

theorem watch (line : Flow σ → α → Call σ) (act : StateM (Flow σ) α) (flow : Flow σ) :
    Traced (Flow.watch line act) act flow
      fun calls result after => calls = [line flow result] ∧ act.run flow = (result, after) :=
  ⟨_, _, _, rfl, fun _ => rfl, rfl, rfl⟩

/-- What a step becomes after some calls goes on behind them. -/
theorem resume (calls : List (Call σ)) {between : Flow σ}
    {watched watchedRest : StateM (Flow (Watched σ)) α} {plain rest : StateM (Flow σ) α}
    (later : Traced watchedRest rest between fun more => tells (calls ++ more))
    (run : plain.run flow = rest.run between)
    (logs : ∀ log,
      watched.run (flow.watched log) = watchedRest.run (between.watched (log ++ calls))) :
    Traced watched plain flow tells := by
  obtain ⟨more, result, after, runRest, logsRest, told⟩ := later
  refine ⟨calls ++ more, result, after, run.trans runRest, fun log => ?_, told⟩
  rw [logs, logsRest, List.append_assoc]

/-- After a watched step the calls of the next one come behind its own. -/
theorem bind {before : List (Call σ) → β → Flow σ → Prop}
    {watched : StateM (Flow (Watched σ)) β} {plain : StateM (Flow σ) β}
    {watchedNext : β → StateM (Flow (Watched σ)) α} {next : β → StateM (Flow σ) α}
    (first : Traced watched plain flow before)
    (second : ∀ calls result after, before calls result after →
      Traced (watchedNext result) (next result) after fun more => tells (calls ++ more)) :
    Traced (watched >>= watchedNext) (plain >>= next) flow tells := by
  obtain ⟨calls, result, after, run, logs, told⟩ := first
  refine (second calls result after told).resume calls ?_ fun log => ?_
  · rw [Flow.run_bind, run]
  · rw [Flow.run_bind, logs]

theorem imp {other : List (Call σ) → α → Flow σ → Prop} {watched : StateM (Flow (Watched σ)) α}
    {plain : StateM (Flow σ) α} (traced : Traced watched plain flow tells)
    (implies : ∀ calls result after, tells calls result after → other calls result after) :
    Traced watched plain flow other := by
  obtain ⟨calls, result, after, run, logs, told⟩ := traced
  exact ⟨calls, result, after, run, logs, implies _ _ _ told⟩

end Traced

theorem traced_filters (line : Filter σ → Entity → Flow σ → Except Fault Entity → Call σ)
    (filters : List (Filter σ)) (entity : Entity) (flow : Flow σ) :
    Traced (runFilters (filters.map (Filter.watched line)) entity).run
      (runFilters filters entity).run flow (Passes line filters entity flow) := by
  induction filters generalizing entity flow with
  | nil => exact .pure (.done entity flow)
  | cons filter filters ih =>
    simp only [List.map_cons, runFilters, ExceptT.run_bind]
    refine .bind (.watch (line filter entity) (filter entity).run flow) ?_
    rintro _ (fault | next) after ⟨rfl, gave⟩
    · exact .pure (.stopped gave)
    · exact (ih next after).imp fun _ _ _ later => .passed gave later

theorem traced_handlers (handlers : List (FaultHandler σ)) (fault : Fault) (flow : Flow σ) :
    Traced (runHandlers (handlers.map FaultHandler.watched) fault) (runHandlers handlers fault) flow
      (Faces handlers fault flow) := by
  induction handlers generalizing fault flow with
  | nil => exact .pure (.left fault flow)
  | cons handler handlers ih =>
    simp only [List.map_cons, runHandlers]
    refine .bind (.watch (.handler handler fault) (handler fault) flow) ?_
    rintro _ (_ | next) after ⟨rfl, gave⟩
    · exact .pure (.settled gave)
    · exact (ih next after).imp fun _ _ _ later => .passed gave later

section

variable (app : Application σ)

theorem traced_finish (cx : Context σ) (output : Entity) (flow : Flow σ) :
    Traced (app.watched.finish cx.watched output) (app.finish cx output) flow
      (Leaves (app.filters.output.resolve cx.collection.name cx.action) output
        (flow.enter .outputFiltering)) := by
  obtain ⟨calls, result, after, run, logs, passes⟩ := traced_filters .output
    (app.filters.output.resolve cx.collection.name cx.action) output (flow.enter .outputFiltering)
  rw [← Chain.resolve_map] at logs
  have logs (log : List (Call σ)) :
      (runFilters (app.watched.filters.output.resolve cx.watched.collection.name cx.watched.action)
        output).run.run ((flow.watched log).enter .outputFiltering)
        = (result, after.watched (log ++ calls)) := logs log
  cases result with
  | error fault =>
    refine ⟨calls, .failed fault, after, ?_, fun log => ?_, .stopped passes⟩
    · rw [run_finish, run]
    · rw [run_finish, logs]
  | ok entity =>
    cases written : responseBody? entity with
    | none =>
      have unformatted (body : ByteArray) : ¬Writes entity body := fun writes => by
        rw [responseBody?_eq_some_iff.2 writes] at written
        cases written
      refine ⟨calls, _, after, ?_, fun log => ?_, .unformatted passes unformatted⟩
      · rw [run_finish, run]
        simp only [written]
      · rw [run_finish, logs]
        simp only [written]
    | some body =>
      have writes := responseBody?_eq_some_iff.1 written
      refine ⟨calls, _, after, ?_, fun log => ?_, .finished passes writes⟩
      · rw [run_finish, run]
        simp only [written]
      · rw [run_finish, logs]
        simp only [written]
        rfl

theorem traced_recover (error : ActionError) (flow : Flow σ) :
    Traced (app.watched.recover error) (app.recover error) flow
      (Recovers (app.filters.handlers.resolve flow.context.collection.name flow.context.action)
        error (flow.enter .faultHandling)) := by
  obtain ⟨calls, left?, after, run, logs, faces⟩ := traced_handlers
    (app.filters.handlers.resolve flow.context.collection.name flow.context.action) (.action error)
    (flow.enter .faultHandling)
  rw [← Chain.resolve_map] at logs
  have logs (log : List (Call σ)) :
      (runHandlers (app.watched.filters.handlers.resolve
        (flow.watched log).context.collection.name (flow.watched log).context.action)
        (.action error)).run ((flow.watched log).enter .faultHandling)
        = (left?, after.watched (log ++ calls)) := logs log
  cases left? with
  | none =>
    refine ⟨calls, _, after, ?_, fun log => ?_, .settled faces⟩
    · rw [run_recover, run]
    · rw [run_recover, logs]
      rfl
  | some fault =>
    refine ⟨calls, _, after, ?_, fun log => ?_, .left faces⟩
    · rw [run_recover, run]
    · rw [run_recover, logs]

theorem called_watched {before entered : Flow σ} {input? : Option Value}
    {result : Except ActionError Entity} {world : σ}
    (gave : called before entered input? = (result, world)) (first log : List (Call σ)) :
    called (before.watched first) (entered.watched log) input?
      = (result, (world, log ++ [callLine before entered input? result])) := by
  change (let (result, world) := called before entered input?
    (result, (world, log ++ [callLine before entered input? result]))) = _
  rw [gave]

/-- The calls on the way of a request are as they should be, and watching them changes nothing. -/
theorem traced_run (flow : Flow σ) : Traced app.watched.run app.run flow (app.Way flow) := by
  obtain ⟨calls, result, entered, run, logs, enters⟩ := traced_filters .input
    (app.filters.input.resolve flow.context.collection.name flow.context.action)
    (requestEntity flow.context.request) flow
  rw [← Chain.resolve_map] at logs
  have logs (log : List (Call σ)) :
      (runFilters (app.watched.filters.input.resolve (flow.watched log).context.collection.name
        (flow.watched log).context.action)
        (requestEntity (flow.watched log).context.request)).run.run (flow.watched log)
        = (result, entered.watched (log ++ calls)) := logs log
  cases result with
  | error fault =>
    refine ⟨calls, _, entered, ?_, fun log => ?_, .stopped enters⟩
    · rw [run_run, run]
    · rw [run_run, logs]
  | ok entity =>
    cases read : actionInput? entity with
    | none =>
      have unparsed (input? : Option Value) : ¬Reads entity input? := fun reads => by
        rw [actionInput?_eq_some_iff.2 reads] at read
        cases read
      refine ⟨calls, _, entered, ?_, fun log => ?_, .unparsed enters unparsed⟩
      · rw [run_run, run]
        simp only [read]
      · rw [run_run, logs]
        simp only [read]
    | some input? =>
      have reads := actionInput?_eq_some_iff.1 read
      rcases gave : called flow entered input? with ⟨result, world⟩
      have plainRun := run_of_called app run read
      have watchedRun (log : List (Call σ)) := run_of_called app.watched (logs log) read
      rw [gave] at plainRun
      simp only [called_watched gave] at watchedRun
      cases result with
      | error error =>
        have later := traced_recover app error { invoke flow.context entered with world }
        refine Traced.resume (calls ++ [callLine flow entered input? (.error error)])
          (later.imp fun more _ _ recovers => ?_) plainRun fun log => ?_
        · rw [List.append_assoc]
          exact .recovered enters reads gave recovers
        · rw [← List.append_assoc]
          exact watchedRun log
      | ok output =>
        have later := traced_finish app flow.context output
          { invoke flow.context entered with world }
        refine Traced.resume (calls ++ [callLine flow entered input? (.ok output)])
          (later.imp fun more _ _ leaves => ?_) plainRun fun log => ?_
        · rw [List.append_assoc]
          exact .left enters reads gave leaves
        · rw [← List.append_assoc]
          exact watchedRun log

end

/-- A request that is routed to a collection leads to calls as `Way` has them, once to the action or
never. They do not depend on being watched, nor does the response, which is the one at the end of the
way. -/
theorem handle_watched {app : Application σ} {request : Request} {cx : Context σ}
    (routed : app.Routed request cx) (world : σ) :
    ∃ calls outcome after response events,
      app.run.run { context := cx, world } = (outcome, after)
        ∧ app.Way { context := cx, world } calls outcome after
        ∧ (app.Admits { context := cx, world } → calls.countP Call.isAction = 1)
        ∧ (¬app.Admits { context := cx, world } → calls.countP Call.isAction = 0)
        ∧ Answers outcome response
        ∧ (app.handle request).run world = ((response, events), after.world)
        ∧ ∀ log, (app.watched.handle request).run (world, log)
            = ((response, events), (after.world, log ++ calls)) := by
  obtain ⟨calls, outcome, after, run, logs, way⟩ := traced_run app { context := cx, world }
  obtain ⟨once, never⟩ := way.countP_isAction
  refine ⟨calls, outcome, after, outcome.response, outcomeEvents cx outcome after, run, way, once,
    never, outcome.answers, ?_, fun log => ?_⟩
  · rw [run_handle routed, run]
  · -- Watching keeps routes and collections, so the request is routed as before.
    have routedToo : app.watched.Routed request cx.watched :=
      ⟨congrArg Service.watched routed.ofService, routed.ofRequest, routed.route, routed.collection,
        congrArg (Collection.watched cx.collection.name) routed.actions⟩
    have same := logs log
    unfold Flow.watched at same
    rw [run_handle routedToo, same]
    rfl

/-- A filter that sends every request to one route. -/
def reroute (route : RouteMatch) : Filter Nat := fun entity => do
  modify fun flow => { flow with context := { flow.context with route } }
  return entity

/-- A service that counts its calls and has no books. All requests are sent to the first book, and a
handler for the requests that are sent there settles that it is missing. -/
def emptyShelf : Application Nat where
  routes := RouteTable.standard
  catalogue := .sole ⟨{ name := "books", contains := "book" }, [], []⟩
  actions := fun _ =>
    { supports := fun _ => true
      call := fun _ _ => do
        modify (· + 1)
        return .error (.notFound "book") }
  codecs := Codec.all
  charsets := [Charset.utf8.name]
  publicUrl? := none
  filters := .ofAdditions
    [ .input { priority := 0, item := reroute ⟨"books", ActionName.show, [("id", "1")]⟩ },
      .handler { action := .named ActionName.show, priority := 0, item := fun _ => return none } ]

/-- Where a request for the list of books goes. -/
def shelfContext : Context Nat where
  service := emptyShelf.toService
  request := Request.ofText "GET" "/api/books"
  route := ⟨"books", ActionName.list, []⟩
  collection := ⟨{ name := "books", contains := "book" }, [], []⟩
  actions := emptyShelf.actions "books"

theorem handle_watched_shelf :
    emptyShelf.Routed (Request.ofText "GET" "/api/books") shelfContext
      ∧ ∃ calls outcome after response events,
        emptyShelf.run.run { context := shelfContext, world := 0 } = (outcome, after)
          ∧ emptyShelf.Way { context := shelfContext, world := 0 } calls outcome after
          ∧ (emptyShelf.Admits { context := shelfContext, world := 0 } →
            calls.countP Call.isAction = 1)
          ∧ (¬emptyShelf.Admits { context := shelfContext, world := 0 } →
            calls.countP Call.isAction = 0)
          ∧ Answers outcome response
          ∧ (emptyShelf.handle (Request.ofText "GET" "/api/books")).run 0
            = ((response, events), after.world)
          ∧ ∀ log, (emptyShelf.watched.handle (Request.ofText "GET" "/api/books")).run (0, log)
            = ((response, events), (after.world, log ++ calls)) := by
  have routed : emptyShelf.Routed (Request.ofText "GET" "/api/books") shelfContext :=
    ⟨rfl, rfl, by decide +kernel, rfl, rfl⟩
  exact ⟨routed, handle_watched routed 0⟩

-- The action is the one that was asked for, with the arguments that the filter has left.
example : (((emptyShelf.watched.handle (Request.ofText "GET" "/api/books")).run (0, [])).2.2.map
    fun
      | .action _ name given _ _ => some (name, given.args)
      | _ => none) = [none, some (ActionName.list, [("id", "1")]), none] := by cbv

end Application

end RestService
