import RestService.Proofs.Collection.Catalogue
import RestService.Proofs.Http.Location
import RestService.Proofs.Pipeline.Run
import RestService.Proofs.Route.Standard

set_option autoImplicit false

namespace RestService

/-- A service with the standard routes, codecs and filters whose collections all keep their records
in memory. -/
def Blueprint.inMemory (specs : List CollectionSpec) (charsets : List String)
    (publicUrl? : Option String) : Blueprint Stores where
  collections := specs
  actions := Stores.collection
  charsets
  publicUrl?

namespace RouteTable

theorem standardMatch_cases {method : String} {parts : List String} {route : RouteMatch}
    (found : standardMatch method parts = some route) :
    (∃ name, parts = ["api", name] ∧ route = ⟨name, wholeAction method, []⟩)
      ∨ ∃ name id, parts = ["api", name, id] ∧ route = ⟨name, recordAction method, [("id", id)]⟩ := by
  unfold standardMatch at found
  split at found
  · exact .inl ⟨_, rfl, (Option.some.inj found).symm⟩
  · exact .inr ⟨_, _, rfl, (Option.some.inj found).symm⟩
  · cases found

end RouteTable

namespace Application

/-- The application keeps everything in memory and has nothing but what is standard. -/
structure InMemory (specs : List CollectionSpec) (app : Application Stores) : Prop
    extends IsStandard app where
  actions : app.actions = Stores.collection
  catalogue : Catalogue.ofSpecs specs = .ok app.catalogue

theorem inMemory_of_build {specs : List CollectionSpec} {charsets : List String}
    {publicUrl? : Option String} {app : Application Stores}
    (built : (Blueprint.inMemory specs charsets publicUrl?).build = .ok app) :
    app.InMemory specs := by
  unfold Blueprint.build at built
  cases made : Catalogue.ofSpecs specs with
  | error error =>
    simp only [Blueprint.inMemory, made] at built
    cases built
  | ok catalogue =>
    simp only [Blueprint.inMemory, made] at built
    obtain ⟨_, pure, more⟩ := Result.bind_eq_ok.1 built
    cases pure
    obtain ⟨usual, -, same⟩ := Result.bind_eq_ok.1 more
    rw [← Except.ok.inj same]
    exact ⟨⟨rfl, rfl, rfl⟩, rfl, made⟩

/-- A request goes to an action of a collection. -/
structure Routed {σ : Type} (app : Application σ) (request : Request) (cx : Context σ) : Prop where
  ofService : cx.service = app.toService
  ofRequest : cx.request = request
  route : app.routes.match? request.path request.method = some cx.route
  collection : app.catalogue.get? cx.route.collection = some cx.collection
  actions : cx.actions = app.actions cx.collection.name

/-- How a request is handled: the response, and the stores after it. -/
inductive Handled (app : Application Stores) (request : Request) (before : Stores) :
    Response → Stores → Prop
  | unrouted {response : Response} (status : response.status = .notFound) :
      Handled app request before response before
  | refused {cx : Context Stores} {fault : Fault} (routed : app.Routed request cx)
      (refused : intake cx = .error fault) :
      Handled app request before fault.response before
  | failed {cx : Context Stores} {error : ActionError} (routed : app.Routed request cx)
      (refuses : Store.Refuses error) :
      Handled app request before
        (Standard.invalidInput cx (Standard.missingRecord (.action error))).response before
  | done {cx : Context Stores} {entity output : Entity} {input? : Option Value} {s : Store}
      (routed : app.Routed request cx) (admitted : intake cx = .ok entity)
      (input : actionInput? entity = some input?)
      (change : Store.Change cx.collection.name ⟨arguments cx, input?⟩ (before cx.collection.name)
        cx.action output s) :
      Handled app request before
        ((app.finish cx output).run
          (invoke cx { context := cx, world := before.set cx.collection.name s })).1.response
        (before.set cx.collection.name s)

section

variable {specs : List CollectionSpec} {app : Application Stores} {request : Request}

/-- The path of a routed request is that of its collection, or of a record in it. -/
theorem Routed.cases {σ : Type} {app : Application σ} {cx : Context σ} (standard : app.IsStandard)
    (routed : app.Routed request cx) :
    (PathPattern.split request.path = ["api", cx.collection.name]
      ∧ RouteTable.wholeAction request.method = cx.action)
    ∨ ∃ text, PathPattern.split request.path = ["api", cx.collection.name, text]
      ∧ RouteTable.recordAction request.method = cx.action
      ∧ cx.route.pathVars = [("id", text)] := by
  have found := routed.route
  have named := (Catalogue.mem_of_get? routed.collection).2
  rw [standard.routes, RouteTable.match?_standard] at found
  unfold Context.action
  rcases RouteTable.standardMatch_cases found with ⟨name, path, same⟩ | ⟨name, text, path, same⟩
  · rw [same] at named ⊢
    exact .inl ⟨named ▸ path, rfl⟩
  · rw [same] at named ⊢
    exact .inr ⟨text, named ▸ path, rfl, rfl⟩

/-- What a request asks for, and by which method and path. -/
inductive Asks {σ : Type} (request : Request) (cx : Context σ) : Prop
  | list (is : cx.action = ActionName.list) (method : request.method = "GET")
  | create (is : cx.action = ActionName.create) (method : request.method = "POST")
      (path : PathPattern.split request.path = ["api", cx.collection.name])
  | read (is : cx.action = ActionName.show) (method : request.method = "GET")
  | update (is : cx.action = ActionName.update) (method : request.method = "PUT") (text : String)
      (path : PathPattern.split request.path = ["api", cx.collection.name, text])
      (vars : cx.route.pathVars = [("id", text)])
  | delete (is : cx.action = ActionName.delete) (method : request.method = "DELETE") (text : String)
      (path : PathPattern.split request.path = ["api", cx.collection.name, text])
      (vars : cx.route.pathVars = [("id", text)])
  | forbidden (is : cx.action = ActionName.methodNotAllowed)

section Asked

variable {σ : Type} {app : Application σ} {cx : Context σ} (standard : app.IsStandard)
  (routed : app.Routed request cx)
include standard routed

theorem Routed.asks : Asks request cx := by
  rcases routed.cases standard with ⟨path, asked⟩ | ⟨text, path, asked, vars⟩
  · unfold RouteTable.wholeAction at asked
    split at asked
    · exact .list asked.symm ‹_›
    · split at asked
      · exact .create asked.symm ‹_› path
      · exact .forbidden asked.symm
  · unfold RouteTable.recordAction at asked
    split at asked
    · exact .read asked.symm ‹_›
    · split at asked
      · exact .update asked.symm ‹_› text path vars
      · split at asked
        · exact .delete asked.symm ‹_› text path vars
        · exact .forbidden asked.symm

theorem Routed.action_mem : cx.action ∈ Standard.actions := by
  cases routed.asks standard with
  | list is | create is | read is | update is | delete is | forbidden is =>
    rw [is]
    decide

theorem Routed.of_create (action : cx.action = ActionName.create) :
    request.method = "POST" ∧ PathPattern.split request.path = ["api", cx.collection.name] := by
  cases routed.asks standard with
  | create _ post path => exact ⟨post, path⟩
  | list is | read is | update is | delete is | forbidden is =>
    exact absurd (action.symm.trans is) (by decide)

theorem Routed.of_update (action : cx.action = ActionName.update) :
    request.method = "PUT" ∧ ∃ text, PathPattern.split request.path
      = ["api", cx.collection.name, text] ∧ cx.route.pathVars = [("id", text)] := by
  cases routed.asks standard with
  | update _ put text path vars => exact ⟨put, text, path, vars⟩
  | list is | create is | read is | delete is | forbidden is =>
    exact absurd (action.symm.trans is) (by decide)

theorem Routed.of_delete (action : cx.action = ActionName.delete) :
    request.method = "DELETE" ∧ ∃ text, PathPattern.split request.path
      = ["api", cx.collection.name, text] ∧ cx.route.pathVars = [("id", text)] := by
  cases routed.asks standard with
  | delete _ delete text path vars => exact ⟨delete, text, path, vars⟩
  | list is | create is | read is | update is | forbidden is =>
    exact absurd (action.symm.trans is) (by decide)

theorem Routed.of_read (action : cx.action = ActionName.list ∨ cx.action = ActionName.show) :
    request.method = "GET" := by
  cases routed.asks standard with
  | list _ get => exact get
  | read _ get => exact get
  | create is | update is | delete is | forbidden is => exact absurd action (by rw [is]; decide)

end Asked

theorem run_handle {σ : Type} {app : Application σ} {cx : Context σ}
    (routed : app.Routed request cx) (world : σ) :
    (app.handle request).run world
      = (((app.run.run { context := cx, world }).1.response,
          outcomeEvents cx (app.run.run { context := cx, world }).1
            (app.run.run { context := cx, world }).2),
          (app.run.run { context := cx, world }).2.world) := by
  obtain ⟨service, asked, route, collection, actions⟩ := cx
  have isService := routed.ofService
  have isRequest := routed.ofRequest
  have isActions := routed.actions
  simp only at isService isRequest isActions
  subst isService isRequest isActions
  unfold handle
  simp only [routed.route, routed.collection]
  rfl

/-- A request whose action succeeds is answered by what the way back makes of the output, and the
action alone changes what is stored. -/
theorem handle_of_called {σ : Type} {app : Application σ} {cx : Context σ}
    (standard : app.IsStandard) (routed : app.Routed request cx) {entity output : Entity}
    (admitted : intake cx = .ok entity) {input? : Option Value}
    (input : actionInput? entity = some input?) {before after : σ}
    (called : (cx.actions.call cx.action ⟨arguments cx, input?⟩).run before = (.ok output, after)) :
    ((app.handle request).run before).1.1
        = ((app.finish cx output).run (invoke cx { context := cx, world := after })).1.response
      ∧ ((app.handle request).run before).2 = after := by
  have known := routed.action_mem standard
  rw [run_handle routed, standard.run_of_admitted known admitted input, called]
  exact ⟨rfl, standard.world_finish known output _⟩

/-- Every request is handled in one of these ways. -/
theorem InMemory.handled (inMemory : app.InMemory specs) (request : Request) (before : Stores) :
    Handled app request before ((app.handle request).run before).1.1
      ((app.handle request).run before).2 := by
  cases found : app.routes.match? request.path request.method with
  | none =>
    have answer : (app.handle request).run before = (noRoute request, before) := by
      unfold handle
      simp only [found]
      rfl
    rw [answer]
    exact .unrouted rfl
  | some route =>
    cases known : app.catalogue.get? route.collection with
    | none =>
      have answer : (app.handle request).run before
          = (noCollection request route.collection, before) := by
        unfold handle
        simp only [found, known]
        rfl
      rw [answer]
      exact .unrouted rfl
    | some collection =>
      have routed : app.Routed request
          ⟨app.toService, request, route, collection, app.actions collection.name⟩ :=
        ⟨rfl, rfl, found, known, rfl⟩
      generalize Context.mk app.toService request route collection (app.actions collection.name)
        = cx at routed
      have mem := routed.action_mem inMemory.toIsStandard
      have actions : cx.actions = Stores.collection cx.collection.name := by
        rw [routed.actions, inMemory.actions]
      cases passed : intake cx with
      | error fault =>
        rw [run_handle routed, inMemory.run_of_refused mem passed]
        exact .refused routed passed
      | ok entity =>
        obtain ⟨input?, input⟩ := actionInput_of_intake passed
        have called := Stores.run_call cx.collection.name cx.action ⟨arguments cx, input?⟩ before
        rw [← actions] at called
        rcases Store.call_changes cx.collection.name cx.action ⟨arguments cx, input?⟩
            (before cx.collection.name) with ⟨output, gave, change⟩ | ⟨⟨error, gave, refuses⟩, same⟩
        · rw [gave] at called
          obtain ⟨response, after⟩ :=
            handle_of_called inMemory.toIsStandard routed passed input called
          rw [response, after]
          exact .done routed passed input change
        · rw [gave, same, Stores.set_self] at called
          rw [run_handle routed, inMemory.run_of_admitted mem passed input, called]
          simp only [proceed, inMemory.run_recover]
          exact .failed routed refuses

end

end Application

/-- What a request may do to what is stored, and the status that it is answered with. -/
inductive Stores.Effect (request : Request) (status : Status) (before after : Stores) : Prop
  | created (name : String) (r : Resource) (method : request.method = "POST")
      (addressed : PathPattern.split request.path = ["api", name]) (answered : status = .created)
      (gains : (before name).Gains (after name) r)
      (others : ∀ other, other ≠ name → after other = before other)
  | updated (name text : String) (id : Nat) (r : Resource) (method : request.method = "PUT")
      (addressed : PathPattern.split request.path = ["api", name, text])
      (number : Decimal.nat64? text = some id) (answered : status = .noContent)
      (replaces : (before name).Replaces (after name) id r)
      (others : ∀ other, other ≠ name → after other = before other)
  | deleted (name text : String) (id : Nat) (method : request.method = "DELETE")
      (addressed : PathPattern.split request.path = ["api", name, text])
      (number : Decimal.nat64? text = some id) (answered : status = .noContent)
      (loses : (before name).Loses (after name) id)
      (others : ∀ other, other ≠ name → after other = before other)
  | unchanged (same : after = before)
      (refused : request.method ∈ ["POST", "PUT", "DELETE"] → status.isClientError = true)

namespace Application

section

variable {specs : List CollectionSpec} {app : Application Stores} {request : Request}

theorem isClientError_response {fault : Fault} (client : fault.isClientError = true) :
    fault.response.status.isClientError = true := by
  rw [Fault.status_response]
  exact client

/-- The id of a call is the one in the path, whatever the query says. -/
theorem get?_arguments {σ : Type} {cx : Context σ} {text : String}
    (vars : cx.route.pathVars = [("id", text)]) : Dict.get? (arguments cx) "id" = some text := by
  unfold arguments
  rw [vars]
  exact (Dict.get?_insert _ _ _ _).trans (if_pos rfl)

theorem idOf_arguments {σ : Type} {cx : Context σ} {name text : String} {id : Nat}
    {input? : Option Value} (vars : cx.route.pathVars = [("id", text)])
    (named : Store.idOf name ⟨arguments cx, input?⟩ = .ok id) : Decimal.nat64? text = some id := by
  unfold Store.idOf at named
  simp only [get?_arguments vars] at named
  split at named
  · rw [← Except.ok.inj named]
    assumption
  · cases named

theorem InMemory.allPrintable_location (inMemory : app.InMemory specs)
    (names : ∀ spec ∈ specs, Text.AllPrintable spec.name.toList) {cx : Context Stores}
    (routed : app.Routed request cx) (id : Nat) :
    Text.AllPrintable (Store.location cx.collection.name id).toList := by
  obtain ⟨mem, -⟩ := Catalogue.mem_of_get? routed.collection
  obtain ⟨spec, listed, made⟩ := Catalogue.exists_spec_of_ofSpecs inMemory.catalogue mem
  have same : cx.collection.name = spec.name := by
    rw [CollectionSchema.name, CollectionSchema.spec_of_ofSpec made]
  rw [same]
  exact Store.allPrintable_location (names spec listed) id

theorem effect_of_done (inMemory : app.InMemory specs)
    (names : ∀ spec ∈ specs, Text.AllPrintable spec.name.toList) {before : Stores}
    (ordered : before.Ordered) {cx : Context Stores} {output : Entity} {input? : Option Value}
    {s : Store} (routed : app.Routed request cx)
    (change : Store.Change cx.collection.name ⟨arguments cx, input?⟩ (before cx.collection.name)
      cx.action output s) :
    Stores.Effect request
      ((app.finish cx output).run
        (invoke cx { context := cx, world := before.set cx.collection.name s })).1.response.status
      before (before.set cx.collection.name s) := by
  have standard := inMemory.toIsStandard
  have here : before.set cx.collection.name s cx.collection.name = s := Stores.set_same _ _ _
  have others (other : String) (ne : other ≠ cx.collection.name) :
      before.set cx.collection.name s other = before other := Stores.set_other before s ne
  have own := ordered cx.collection.name
  generalize same : cx.action = action at change
  cases change with
  | listed =>
    have get := routed.of_read standard (.inl same)
    refine .unchanged (Stores.set_self before _) fun asked => ?_
    rw [get] at asked
    exact absurd asked (by decide)
  | shown named found =>
    have get := routed.of_read standard (.inr same)
    refine .unchanged (Stores.set_self before _) fun asked => ?_
    rw [get] at asked
    exact absurd asked (by decide)
  | @created r input =>
    obtain ⟨post, path⟩ := routed.of_create standard same
    have fits := Request.ofText?_absoluteUrl
      (inMemory.allPrintable_location names routed (before cx.collection.name).nextId) cx.request
      cx.service.publicUrl?
    refine .created cx.collection.name r post path (standard.status_created same rfl fits) ?_ others
    rw [here]
    exact own.insert_gains r
  | @updated id r named input existing =>
    obtain ⟨put, text, path, vars⟩ := routed.of_update standard same
    refine .updated cx.collection.name text id r put path (idOf_arguments vars named)
      (standard.status_updated same _) ?_ others
    rw [here]
    exact Store.replace_replaces existing r
  | @deleted id named existing =>
    obtain ⟨delete, text, path, vars⟩ := routed.of_delete standard same
    refine .deleted cx.collection.name text id delete path (idOf_arguments vars named)
      (standard.status_deleted same _) ?_ others
    rw [here]
    exact Store.erase_loses existing

theorem Handled.ordered {before after : Stores} {response : Response}
    (handled : Handled app request before response after) (ordered : before.Ordered) :
    after.Ordered := by
  cases handled with
  | unrouted => exact ordered
  | refused => exact ordered
  | failed => exact ordered
  | done routed admitted input change => exact ordered.set (change.ordered (ordered _))

theorem Handled.effect (inMemory : app.InMemory specs)
    (names : ∀ spec ∈ specs, Text.AllPrintable spec.name.toList) {before after : Stores}
    (ordered : before.Ordered) {response : Response}
    (handled : Handled app request before response after) :
    Stores.Effect request response.status before after := by
  cases handled with
  | unrouted status => exact .unchanged rfl fun _ => by rw [status]; rfl
  | refused routed refused =>
    exact .unchanged rfl fun _ => isClientError_response (isClientError_of_intake refused)
  | failed routed refuses =>
    exact .unchanged rfl fun _ =>
      isClientError_response (Standard.isClientError_invalidInput refuses)
  | done routed admitted input change => exact effect_of_done inMemory names ordered routed change

/-- A request changes one record of the collection that it names or nothing at all, and the status
tells which; a request for a change that is not made is the client's fault. -/
theorem handle_effect {specs : List CollectionSpec} {charsets : List String}
    {publicUrl? : Option String} {app : Application Stores}
    (built : (Blueprint.inMemory specs charsets publicUrl?).build = .ok app)
    (names : ∀ spec ∈ specs, Text.AllPrintable spec.name.toList) {before : Stores}
    (ordered : before.Ordered) (request : Request) :
    ((app.handle request).run before).2.Ordered
      ∧ Stores.Effect request ((app.handle request).run before).1.1.status before
        ((app.handle request).run before).2 := by
  have inMemory := inMemory_of_build built
  have handled := inMemory.handled request before
  exact ⟨handled.ordered ordered, handled.effect inMemory names ordered⟩

/-- A service of books. -/
def bookShop : Application Stores where
  routes := RouteTable.standard
  catalogue := .sole ⟨{ name := "books", contains := "book" }, [], []⟩
  actions := Stores.collection
  codecs := Codec.all
  charsets := ["utf-8"]
  publicUrl? := none
  filters := Filters.addStandard {} StandardFilter.run StandardHandler.run

/-- Stores with two books. -/
def twoBooks : Stores :=
  Stores.empty.set "books" ⟨3, [(1, ⟨"book", []⟩), (2, ⟨"book", [("title", .text "Dune")]⟩)]⟩

/-- The first of two books is removed, and the other one stays. -/
theorem handle_effect_books :
    (Blueprint.inMemory [{ name := "books", contains := "book" }] ["utf-8"] none).build
        = .ok bookShop
      ∧ twoBooks.Ordered
      ∧ ((bookShop.handle (Request.ofText "DELETE" "/api/books/1")).run twoBooks).1.1.status
        = .noContent
      ∧ ((bookShop.handle (Request.ofText "DELETE" "/api/books/1")).run twoBooks).2 "books"
        = ⟨3, [(2, ⟨"book", [("title", .text "Dune")]⟩)]⟩
      ∧ ((bookShop.handle (Request.ofText "DELETE" "/api/books/1")).run twoBooks).2.Ordered
      ∧ Stores.Effect (Request.ofText "DELETE" "/api/books/1")
          ((bookShop.handle (Request.ofText "DELETE" "/api/books/1")).run twoBooks).1.1.status
          twoBooks ((bookShop.handle (Request.ofText "DELETE" "/api/books/1")).run twoBooks).2 := by
  have names : ∀ spec ∈ [({ name := "books", contains := "book" } : CollectionSpec)],
      Text.AllPrintable spec.name.toList := List.forall_mem_singleton.2 (by decide)
  have built : (Blueprint.inMemory [{ name := "books", contains := "book" }] ["utf-8"] none).build
      = .ok bookShop := rfl
  have ordered : twoBooks.Ordered := Stores.ordered_empty.set ⟨by decide, by decide⟩
  have standard : bookShop.IsStandard := ⟨rfl, rfl, rfl⟩
  let cx : Context Stores :=
    ⟨bookShop.toService, Request.ofText "DELETE" "/api/books/1",
      ⟨"books", ActionName.delete, [("id", "1")]⟩,
      ⟨{ name := "books", contains := "book" }, [], []⟩, Stores.collection "books"⟩
  have routed : bookShop.Routed (Request.ofText "DELETE" "/api/books/1") cx :=
    ⟨rfl, rfl, by decide +kernel, by decide +kernel, rfl⟩
  have admitted : intake cx = .ok .empty := intake_of_noBody rfl rfl (by decide) rfl
  have removed : (cx.actions.call cx.action ⟨arguments cx, none⟩).run twoBooks
      = (.ok .empty,
          twoBooks.set "books" ⟨3, [(2, ⟨"book", [("title", .text "Dune")]⟩)]⟩) := by
    rfl
  obtain ⟨response, after⟩ := handle_of_called standard routed admitted rfl removed
  obtain ⟨kept, effect⟩ := handle_effect built names ordered (Request.ofText "DELETE" "/api/books/1")
  refine ⟨built, ordered, ?_, ?_, kept, effect⟩
  · rw [response]
    exact standard.status_deleted rfl _
  · rw [after, Stores.set_same]

end

end Application

end RestService
