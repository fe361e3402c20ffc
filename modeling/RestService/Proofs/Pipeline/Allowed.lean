import RestService.Proofs.Negotiation.ListHeader
import RestService.Proofs.Pipeline.Stored
import RestService.Proofs.Route.Methods

set_option autoImplicit false

namespace RestService

namespace ListHeader

theorem IsToken.append {blanks cs : List Char} {value : String} (token : IsToken cs value)
    (all : IsBlanks blanks) : IsToken (blanks ++ cs) value where
  plain := List.forall_mem_append.2
    ⟨fun c mem => not_mem_separators_of_isBlank (all c mem), token.plain⟩
  trimmed := by rw [trimChars_append all, token.trimmed]
  nonempty := token.nonempty

/-- Tokens with commas and blanks between them denote items without parameters. -/
theorem denotes_intercalate {tokens : List String} (each : ∀ s ∈ tokens, IsToken s.toList s)
    {blanks : List Char} (all : IsBlanks blanks) :
    Denotes (blanks ++ (String.intercalate ", " tokens).toList) (tokens.map fun s => ⟨s, []⟩) := by
  induction tokens generalizing blanks with
  | nil =>
    rw [String.intercalate_nil, String.toList_empty, List.append_nil]
    exact .last (.blank all)
  | cons first rest ih =>
    obtain ⟨here, later⟩ := List.forall_mem_cons.1 each
    have item : IsElement (blanks ++ first.toList ++ []) [⟨first, []⟩] :=
      .item (here.append all) .nil
    rw [List.append_nil] at item
    cases rest with
    | nil => exact .last item
    | cons second rest =>
      have space : IsBlanks [' '] := List.forall_mem_singleton.2 (by decide)
      have more := Denotes.cons item (ih later space)
      rw [String.intercalate_cons_cons]
      simpa using more

end ListHeader

/-- Tokens with commas and blanks between them are read as such. -/
theorem parseListHeader_intercalate {tokens : List String}
    (each : ∀ s ∈ tokens, ListHeader.IsToken s.toList s) :
    parseListHeader (String.intercalate ", " tokens) = .ok (tokens.map fun s => ⟨s, []⟩) := by
  have denoted := ListHeader.denotes_intercalate each (List.forall_mem_nil _)
  rw [List.nil_append] at denoted
  rw [parseListHeader, ListHeader.items_of_denotes denoted]

theorem HeaderValue.text?_toUTF8 {s : String} (printable : Text.AllPrintable s.toList) :
    HeaderValue.text? s.toUTF8 = some s := by
  have bytes := Text.toList_toUTF8_of_isAscii fun c mem => (printable c mem).isAscii
  have value (c : Char) (mem : c ∈ s.toList) : (UInt8.ofNat c.toNat).toNat = c.toNat := by
    have := (printable c mem).2
    rw [UInt8.toNat_ofNat']
    exact Nat.mod_eq_of_lt (by omega)
  have visible : (s.toUTF8.toList.all isVisible) = true := by
    rw [bytes, List.all_map, List.all_eq_true]
    intro c mem
    obtain ⟨low, high⟩ := printable c mem
    have above : (32 : UInt8) ≤ UInt8.ofNat c.toNat := by
      rw [UInt8.le_iff_toNat_le, value c mem]
      exact low
    have below : UInt8.ofNat c.toNat < 127 := by
      rw [UInt8.lt_iff_toNat_lt, value c mem]
      exact high
    simp [isVisible, above, below]
  have back : (s.toUTF8.toList.map fun b => Char.ofNat b.toNat) = s.toList := by
    rw [bytes, List.map_map]
    refine (List.map_congr_left fun c mem => ?_).trans (List.map_id _)
    rw [Function.comp_apply, value c mem, Char.ofNat_toNat, id]
  rw [HeaderValue.text?, if_pos visible, back, String.ofList_toList]

/-- There is one `Allow` header, and it lists these methods in this order. -/
def Headers.AllowsOnly (headers : Headers) (methods : List String) : Prop :=
  ∃ value text, headers.values HeaderName.allow = [value] ∧ HeaderValue.text? value = some text
    ∧ parseListHeader text = .ok (methods.map fun method => ⟨method, []⟩)

theorem Headers.AllowsOnly.unique {headers : Headers} {methods others : List String}
    (lists : headers.AllowsOnly methods) (too : headers.AllowsOnly others) : methods = others := by
  obtain ⟨value, text, one, shown, read⟩ := lists
  obtain ⟨_, _, same, shownToo, readToo⟩ := too
  cases one.symm.trans same
  cases shown.symm.trans shownToo
  have items := Except.ok.inj (read.symm.trans readToo)
  have names := congrArg (List.map HeaderItem.value) items
  rw [List.map_map, List.map_map] at names
  exact (List.map_id methods).symm.trans (names.trans (List.map_id others))

namespace RouteTable

/-- The methods that the routes name for a path and whose actions are supported. -/
def allowed (t : RouteTable) (supports : String → Bool) (path : String) : List String :=
  ((t.methodsFor path).filter fun named => supports named.2).map Prod.fst

/-- Routes for methods of their own come first and lead to actions, those for any method refuse, and
the methods can stand in a list. -/
structure Guarded (t : RouteTable) : Prop where
  order : t.NamedFirst
  named {path method : String} {route : RouteMatch} (found : t.named? path method = some route) :
    route.action ≠ ActionName.methodNotAllowed
  other {path : String} {route : RouteMatch} (found : t.open? path = some route) :
    route.action = ActionName.methodNotAllowed
  plain {route : Route} (mem : route ∈ t) {method : String} (own : route.method? = some method) :
    ListHeader.IsToken method.toList method ∧ Text.AllPrintable method.toList

section

variable {t : RouteTable} {supports : String → Bool} {path method : String}

theorem mem_allowed_iff : method ∈ t.allowed supports path ↔
    ∃ route, t.named? path method = some route ∧ supports route.action = true := by
  simp only [allowed, List.mem_map, List.mem_filter, Prod.exists, exists_and_right, exists_eq_right,
    mem_methodsFor_iff]
  constructor
  · rintro ⟨_, ⟨route, found, rfl⟩, supported⟩
    exact ⟨route, found, supported⟩
  · rintro ⟨route, found, supported⟩
    exact ⟨route.action, ⟨route, found, rfl⟩, supported⟩

/-- A method is allowed exactly if the route that it takes leads to a supported action. -/
theorem Guarded.mem_allowed_iff (guarded : t.Guarded) {route : RouteMatch}
    (taken : t.match? path method = some route) (supports : String → Bool) :
    method ∈ t.allowed supports path ↔
      route.action ≠ ActionName.methodNotAllowed ∧ supports route.action = true := by
  rw [match?_eq_or guarded.order] at taken
  rw [RouteTable.mem_allowed_iff]
  cases found : t.named? path method with
  | some named =>
    rw [found, Option.some_or] at taken
    cases taken
    constructor
    · rintro ⟨_, same, supported⟩
      cases same
      exact ⟨guarded.named found, supported⟩
    · exact fun passes => ⟨route, rfl, passes.2⟩
  | none =>
    rw [found, Option.none_or] at taken
    constructor
    · rintro ⟨_, same, -⟩
      cases same
    · exact fun passes => absurd (guarded.other taken) passes.1

theorem Guarded.plain_of_mem_allowed (guarded : t.Guarded)
    (mem : method ∈ t.allowed supports path) :
    ListHeader.IsToken method.toList method ∧ Text.AllPrintable method.toList := by
  obtain ⟨found, named, -⟩ := RouteTable.mem_allowed_iff.1 mem
  obtain ⟨route, inside, own, -⟩ := exists_route_of_named? named
  exact guarded.plain inside own

end

theorem action_of_wholeMatch {action : String} {parts : List String} {route : RouteMatch}
    (found : wholeMatch action parts = some route) : route.action = action := by
  unfold wholeMatch at found
  split at found <;> cases found
  rfl

theorem action_of_recordMatch {action : String} {parts : List String} {route : RouteMatch}
    (found : recordMatch action parts = some route) : route.action = action := by
  unfold recordMatch at found
  split at found <;> cases found
  rfl

/-- The action that a standard route leads to does not depend on the path. -/
theorem action_of_mem_standard {route : Route} (mem : route ∈ standard) {path : String}
    {found : RouteMatch} (resolved : route.resolve path = some found) :
    (route.method? = none ↔ found.action = ActionName.methodNotAllowed) := by
  simp only [standard, List.mem_cons, List.not_mem_nil, or_false] at mem
  rcases mem with rfl | rfl | rfl | rfl | rfl | rfl | rfl <;>
    first
      | rw [resolve_wholePattern] at resolved
        rw [action_of_wholeMatch resolved]
        decide
      | rw [resolve_recordPattern] at resolved
        rw [action_of_recordMatch resolved]
        decide

theorem guarded_standard : standard.Guarded where
  order := by decide
  named found := by
    obtain ⟨route, mem, own, resolved⟩ := exists_route_of_named? found
    rw [Ne, ← action_of_mem_standard mem resolved, own]
    exact Option.some_ne_none _
  other found := by
    obtain ⟨route, kept, resolved⟩ := List.exists_of_findSome?_eq_some found
    obtain ⟨mem, free⟩ := List.mem_filter.1 kept
    exact (action_of_mem_standard mem resolved).1 (Option.isNone_iff_eq_none.1 free)
  plain := by
    intro route mem method own
    have listed : method ∈ standard.filterMap Route.method? := List.mem_filterMap.2 ⟨route, mem, own⟩
    have methods : standard.filterMap Route.method? = ["GET", "POST", "GET", "PUT", "DELETE"] := rfl
    rw [methods] at listed
    simp only [List.mem_cons, List.not_mem_nil, or_false] at listed
    rcases listed with rfl | rfl | rfl | rfl | rfl <;>
      exact ⟨⟨by simp, by decide, by decide⟩, by decide⟩

end RouteTable

namespace Standard

variable {σ : Type} {cx : Context σ}

/-- The refusal of a method lists those that are allowed. -/
theorem refusal_eq (guarded : cx.service.routes.Guarded) : refusal cx =
    { status := .methodNotAllowed
      headers := [(HeaderName.allow, (String.intercalate ", "
        (cx.service.routes.allowed cx.actions.supports cx.request.path)).toUTF8)] } := by
  have printable : Text.AllPrintable (String.intercalate ", "
      (cx.service.routes.allowed cx.actions.supports cx.request.path)).toList :=
    .intercalate (by decide) fun method mem => (guarded.plain_of_mem_allowed mem).2
  have value := HeaderValue.ofText?_of_printable fun c mem => .inl (printable c mem)
  simp only [RouteTable.allowed] at value ⊢
  simp only [refusal, value]
  rfl

/-- A fault that tells a client which methods are allowed, as it is and in the response to it. -/
structure Refuses (fault : Fault) (methods : List String) : Prop where
  signal : ∃ signal, fault = .signal signal ∧ signal.headers.AllowsOnly methods
  status : fault.response.status = .methodNotAllowed
  response : fault.response.headers.AllowsOnly methods

theorem Refuses.unique {fault : Fault} {methods others : List String}
    (refuses : Refuses fault methods) (too : Refuses fault others) : methods = others :=
  refuses.response.unique too.response

theorem refuses_refusal (guarded : cx.service.routes.Guarded) : Refuses (.signal (refusal cx))
    (cx.service.routes.allowed cx.actions.supports cx.request.path) := by
  generalize listed : cx.service.routes.allowed cx.actions.supports cx.request.path = methods
  have plain : ∀ method ∈ methods,
      ListHeader.IsToken method.toList method ∧ Text.AllPrintable method.toList := by
    intro method mem
    rw [← listed] at mem
    exact guarded.plain_of_mem_allowed mem
  have printable : Text.AllPrintable (String.intercalate ", " methods).toList :=
    .intercalate (by decide) fun method mem => (plain method mem).2
  have shown := HeaderValue.text?_toUTF8 printable
  have read := parseListHeader_intercalate fun method mem => (plain method mem).1
  have lists {headers : Headers}
      (one : headers.values HeaderName.allow = [(String.intercalate ", " methods).toUTF8]) :
      headers.AllowsOnly methods := ⟨_, _, one, shown, read⟩
  rw [refusal_eq guarded, listed]
  exact ⟨⟨_, rfl, lists rfl⟩, rfl, lists rfl⟩

/-- Requests with the same path go to the same collection. -/
theorem collection_eq {app : Application σ} (standard : app.routes = RouteTable.standard)
    {request retry : Request} {other : Context σ} (routed : app.Routed request cx)
    (too : app.Routed retry other) (path : retry.path = request.path) :
    other.collection = cx.collection := by
  have first := routed.route
  have second := too.route
  rw [standard, RouteTable.match?_standard] at first second
  have name : other.route.collection = cx.route.collection := by
    rw [path] at second
    rcases RouteTable.standardMatch_cases first with ⟨name, parts, here⟩ | ⟨name, id, parts, here⟩
    · rw [parts] at second
      rw [here, ← Option.some.inj second]
    · rw [parts] at second
      rw [here, ← Option.some.inj second]
  have found := too.collection
  rw [name, routed.collection] at found
  exact (Option.some.inj found).symm

/-- A method passes exactly if it is allowed. -/
theorem checkMethod_eq {app : Application σ} (guarded : app.routes.Guarded) {request : Request}
    (routed : app.Routed request cx) (input : Entity) : checkMethod cx input =
      if request.method ∈ app.routes.allowed cx.actions.supports request.path then .ok input
      else .error (.signal (refusal cx)) := by
  exact if_congr (guarded.mem_allowed_iff routed.route cx.actions.supports).symm rfl rfl

/-- On a path of a collection the methods that pass are those that the refusal of any other one
lists. The list depends on the path and on what the collection supports, and not on the method, so a
client that goes on with a method from the list is not refused again. -/
theorem checkMethod_exact {app : Application σ} (standard : app.routes = RouteTable.standard)
    {request : Request} (routed : app.Routed request cx) (input : Entity) :
    (request.method ∈ RouteTable.standard.allowed cx.actions.supports request.path →
      checkMethod cx input = .ok input)
    ∧ (request.method ∉ RouteTable.standard.allowed cx.actions.supports request.path →
      ∃ fault, checkMethod cx input = .error fault
        ∧ Refuses fault (RouteTable.standard.allowed cx.actions.supports request.path))
    ∧ ∀ fault methods, checkMethod cx input = .error fault → Refuses fault methods →
      ∀ (retry : Request) (other : Context σ), app.Routed retry other →
        retry.path = request.path → retry.method ∈ methods →
        ∀ next, checkMethod other next = .ok next := by
  have guarded : app.routes.Guarded := standard ▸ RouteTable.guarded_standard
  have lists : Refuses (.signal (refusal cx))
      (RouteTable.standard.allowed cx.actions.supports request.path) := by
    have listed : Refuses (.signal (refusal cx))
        (cx.service.routes.allowed cx.actions.supports cx.request.path) :=
      refuses_refusal (by rw [routed.ofService]; exact guarded)
    rwa [routed.ofService, routed.ofRequest, standard] at listed
  have check := checkMethod_eq guarded routed input
  rw [standard] at check
  refine ⟨fun allowed => ?_, fun forbidden => ?_, ?_⟩
  · rw [check, if_pos allowed]
  · exact ⟨_, by rw [check, if_neg forbidden], lists⟩
  · intro fault methods refused named retry other too path listed next
    have same : fault = .signal (refusal cx) := by
      rw [check] at refused
      split at refused
      · cases refused
      · exact (Except.error.inj refused).symm
    have actions : other.actions = cx.actions := by
      rw [too.actions, routed.actions, collection_eq standard routed too path]
    rw [same] at named
    rw [named.unique lists] at listed
    rw [checkMethod_eq guarded too next, standard, actions, path, if_pos listed]

/-- A service whose books can be listed and shown but not changed. -/
def readingRoom : Application Unit where
  routes := RouteTable.standard
  catalogue := .sole ⟨{ name := "books", contains := "book" }, [], []⟩
  actions := fun _ =>
    { supports := fun action => action == ActionName.list || action == ActionName.show
      call := fun _ _ => return .error (.notFound "book") }
  codecs := Codec.all
  charsets := [Charset.utf8.name]
  publicUrl? := none
  filters := {}

/-- Where a request for the books goes. -/
def readingContext (method action : String) : Context Unit where
  service := readingRoom.toService
  request := Request.ofText method "/api/books"
  route := ⟨"books", action, []⟩
  collection := ⟨{ name := "books", contains := "book" }, [], []⟩
  actions := readingRoom.actions "books"

theorem checkMethod_exact_books :
    (∃ fault, checkMethod (readingContext "POST" ActionName.create) .empty = .error fault
      ∧ Refuses fault ["GET"])
    ∧ checkMethod (readingContext "GET" ActionName.list) .empty = .ok .empty := by
  have post : readingRoom.Routed (Request.ofText "POST" "/api/books")
      (readingContext "POST" ActionName.create) := ⟨rfl, rfl, by decide +kernel, rfl, rfl⟩
  have get : readingRoom.Routed (Request.ofText "GET" "/api/books")
      (readingContext "GET" ActionName.list) := ⟨rfl, rfl, by decide +kernel, rfl, rfl⟩
  have allowed : RouteTable.standard.allowed
      (readingContext "POST" ActionName.create).actions.supports "/api/books" = ["GET"] := by
    decide +kernel
  have path : (Request.ofText "POST" "/api/books").path = "/api/books" := by decide +kernel
  have forbidden : (Request.ofText "POST" "/api/books").method ∉ ["GET"] := by decide +kernel
  have again : (Request.ofText "GET" "/api/books").method ∈ ["GET"] := by decide +kernel
  have same : (Request.ofText "GET" "/api/books").path = "/api/books" := by decide +kernel
  obtain ⟨-, refused, retried⟩ := checkMethod_exact rfl post .empty
  rw [path, allowed] at refused
  obtain ⟨fault, failed, lists⟩ := refused forbidden
  exact ⟨⟨fault, failed, lists⟩,
    retried fault ["GET"] failed lists _ _ get (same.trans path.symm) again .empty⟩

end Standard

end RestService
