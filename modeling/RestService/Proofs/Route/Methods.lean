import RestService.Proofs.Dict
import RestService.Proofs.Route.Standard

set_option autoImplicit false

namespace RestService.RouteTable

variable {t : RouteTable} {path method action : String}

/-- Where the first route for just this method that resolves the path leads it. -/
def named? (t : RouteTable) (path method : String) : Option RouteMatch :=
  (t.filter fun route => route.method? == some method).findSome? fun route => route.resolve path

/-- Where the first route for any method that resolves the path leads it. -/
def open? (t : RouteTable) (path : String) : Option RouteMatch :=
  (t.filter fun route => route.method?.isNone).findSome? fun route => route.resolve path

/-- No route for any method stands before one for a method of its own. -/
def NamedFirst (t : RouteTable) : Prop :=
  t.Pairwise fun first second => second.method?.isSome = true → first.method?.isSome = true

instance (t : RouteTable) : Decidable t.NamedFirst :=
  inferInstanceAs (Decidable (List.Pairwise _ _))

theorem named?_cons_of_eq {route : Route} (own : route.method? = some method) (t : RouteTable) :
    named? (route :: t) path method = (route.resolve path).or (named? t path method) := by
  rw [named?, List.filter_cons_of_pos (by simp [own]), List.findSome?_cons]
  cases route.resolve path <;> rfl

theorem named?_cons_of_ne {route : Route} (other : route.method? ≠ some method) (t : RouteTable) :
    named? (route :: t) path method = named? t path method := by
  rw [named?, List.filter_cons_of_neg (by simp [other]), named?]

theorem open?_cons_of_none {route : Route} (free : route.method? = none) (t : RouteTable) :
    open? (route :: t) path = (route.resolve path).or (open? t path) := by
  rw [open?, List.filter_cons_of_pos (by simp [free]), List.findSome?_cons]
  cases route.resolve path <;> rfl

theorem open?_cons_of_some {route : Route} {own : String} (bound : route.method? = some own)
    (t : RouteTable) : open? (route :: t) path = open? t path := by
  rw [open?, List.filter_cons_of_neg (by simp [bound]), open?]

theorem match?_cons_of_accepts {route : Route} (accepts : route.accepts method = true)
    (t : RouteTable) :
    match? (route :: t) path method = (route.resolve path).or (match? t path method) := by
  rw [match?, List.filter_cons, if_pos accepts, List.findSome?_cons]
  cases route.resolve path <;> rfl

theorem match?_cons_of_not_accepts {route : Route} (refuses : route.accepts method = false)
    (t : RouteTable) : match? (route :: t) path method = match? t path method := by
  rw [match?, List.filter_cons_of_neg (by simp [refuses]), match?]

/-- A step of the collection adds the action of the route for the method, unless there is one. -/
theorem lookup_addMethod (found : List (String × String)) (route : Route) :
    (addMethod path found route).lookup method =
      if route.method? = some method then
        (found.lookup method).or ((route.resolve path).map RouteMatch.action)
      else found.lookup method := by
  unfold addMethod
  split
  · rename_i free
    rw [if_neg (by simp [free])]
  · rename_i own bound
    simp only [bound, Option.some.injEq]
    by_cases same : own = method
    · subst same
      rw [if_pos rfl]
      cases known : found.lookup own with
      | some action => rw [Option.isSome_some, if_pos rfl, known, Option.some_or]
      | none =>
        rw [Option.isSome_none, if_neg Bool.false_ne_true]
        cases route.resolve path with
        | none => exact known
        | some resolved => simp [List.lookup_append, known]
    · have other : (method == own) = false := beq_eq_false_iff_ne.2 fun eq => same eq.symm
      rw [if_neg same]
      split
      · rfl
      · split
        · simp only [List.lookup_append, List.lookup_cons, other, List.lookup_nil, Option.or_none]
        · rfl

theorem lookup_foldl_addMethod (t : RouteTable) (found : List (String × String)) :
    (t.foldl (addMethod path) found).lookup method =
      (found.lookup method).or ((t.named? path method).map RouteMatch.action) := by
  induction t generalizing found with
  | nil => simp [named?]
  | cons route t ih =>
    rw [List.foldl_cons, ih, lookup_addMethod]
    by_cases own : route.method? = some method
    · rw [if_pos own, named?_cons_of_eq own, Option.or_assoc]
      cases route.resolve path <;> rfl
    · rw [if_neg own, named?_cons_of_ne own]

/-- The action named for a method is that of the first route for just this method. -/
theorem lookup_methodsFor (t : RouteTable) :
    (t.methodsFor path).lookup method = (t.named? path method).map RouteMatch.action := by
  rw [methodsFor, lookup_foldl_addMethod]
  rfl

theorem nodup_addMethod {found : List (String × String)} (distinct : (Dict.keys found).Nodup)
    (route : Route) : (Dict.keys (addMethod path found route)).Nodup := by
  unfold addMethod
  split
  · exact distinct
  · rename_i own bound
    split
    · exact distinct
    · rename_i unknown
      have absent : own ∉ Dict.keys found :=
        Dict.get?_eq_none_iff.1 (Option.not_isSome_iff_eq_none.1 unknown)
      split
      · rw [Dict.keys, List.map_append, List.map_singleton]
        exact List.nodup_append.2 ⟨distinct, List.nodup_singleton _,
          fun key mem other single => List.mem_singleton.1 single ▸ ne_of_mem_of_not_mem mem absent⟩
      · exact distinct

/-- No method is named twice. -/
theorem nodup_methodsFor (t : RouteTable) (path : String) :
    (Dict.keys (t.methodsFor path)).Nodup := by
  suffices all : ∀ found : List (String × String), (Dict.keys found).Nodup →
      (Dict.keys (t.foldl (addMethod path) found)).Nodup from all [] List.nodup_nil
  induction t with
  | nil => exact fun _ distinct => distinct
  | cons route t ih => exact fun found distinct => ih _ (nodup_addMethod distinct route)

theorem mem_methodsFor_iff :
    (method, action) ∈ t.methodsFor path ↔
      ∃ route, t.named? path method = some route ∧ route.action = action := by
  rw [← Option.map_eq_some_iff, ← lookup_methodsFor]
  exact (Dict.get?_eq_some_iff_mem (nodup_methodsFor t path)).symm

/-- A method is one that some route of the table is for. -/
theorem exists_route_of_named? {found : RouteMatch}
    (here : t.named? path method = some found) :
    ∃ route ∈ t, route.method? = some method ∧ route.resolve path = some found := by
  obtain ⟨route, kept, resolved⟩ := List.exists_of_findSome?_eq_some here
  obtain ⟨mem, own⟩ := List.mem_filter.1 kept
  exact ⟨route, mem, eq_of_beq own, resolved⟩

theorem accepts_iff_of_some {route : Route} {own : String} (bound : route.method? = some own) :
    route.accepts method = true ↔ own = method := by
  rw [Route.accepts, bound]
  exact beq_iff_eq

/-- The route for the method counts before those for any method. -/
theorem match?_eq_or (ordered : t.NamedFirst) :
    t.match? path method = (t.named? path method).or (t.open? path) := by
  induction t with
  | nil => rfl
  | cons route t ih =>
    obtain ⟨ahead, rest⟩ := List.pairwise_cons.1 ordered
    cases bound : route.method? with
    | none =>
      -- Nothing behind this route is for a method of its own.
      have unnamed : named? t path method = none := by
        rw [Option.eq_none_iff_forall_ne_some]
        intro found here
        obtain ⟨later, mem, own, -⟩ := exists_route_of_named? here
        have named := ahead later mem (by rw [own]; rfl)
        rw [bound] at named
        cases named
      have accepts : route.accepts method = true := by rw [Route.accepts, bound]
      rw [match?_cons_of_accepts accepts, ih rest, unnamed, named?_cons_of_ne (by simp [bound]),
        unnamed, open?_cons_of_none bound, Option.none_or, Option.none_or]
    | some own =>
      rw [open?_cons_of_some bound]
      by_cases same : own = method
      · subst same
        have accepts : route.accepts own = true := (accepts_iff_of_some bound).2 rfl
        rw [match?_cons_of_accepts accepts, ih rest, named?_cons_of_eq bound, Option.or_assoc]
      · have refuses : route.accepts method = false :=
          Bool.eq_false_iff.2 (mt (accepts_iff_of_some bound).1 same)
        rw [match?_cons_of_not_accepts refuses, ih rest, named?_cons_of_ne (by simp [bound, same])]

/-- Of the routes with the property `p`, `route` is the first one that resolves the path, and it
leads to `found`. -/
def First (t : RouteTable) (p : Route → Bool) (path : String) (route : Route) (found : RouteMatch) :
    Prop :=
  ∃ before after, t = before ++ route :: after
    ∧ (∀ earlier ∈ before, p earlier = true → earlier.resolve path = none)
    ∧ p route = true ∧ route.resolve path = some found

theorem findSome?_filter_iff {p : Route → Bool} {found : RouteMatch} :
    ((t.filter p).findSome? fun route => route.resolve path) = some found
      ↔ ∃ route, t.First p path route found := by
  rw [List.findSome?_eq_some_iff]
  constructor
  · rintro ⟨front, route, back, kept, resolved, unresolved⟩
    obtain ⟨passed, others, rfl, rfl, later⟩ := List.filter_eq_append_iff.1 kept
    obtain ⟨skipped, after, rfl, lacks, has, -⟩ := List.filter_eq_cons_iff.1 later
    refine ⟨route, passed ++ skipped, after, (List.append_assoc _ _ _).symm, ?_, has, resolved⟩
    intro earlier mem property
    rcases List.mem_append.1 mem with inside | inside
    · exact unresolved earlier (List.mem_filter.2 ⟨inside, property⟩)
    · exact absurd property (lacks earlier inside)
  · rintro ⟨route, before, after, rfl, earlier, has, resolved⟩
    refine ⟨before.filter p, route, after.filter p, ?_, resolved, fun other mem => ?_⟩
    · rw [List.filter_append, List.filter_cons_of_pos has]
    · obtain ⟨inside, property⟩ := List.mem_filter.1 mem
      exact earlier other inside property

/-- A method takes a route for just this method exactly if it is the first of those. -/
theorem first_named_iff (ordered : t.NamedFirst) {route : Route} {found : RouteMatch} :
    t.First (fun route => route.method? == some method) path route found
      ↔ t.First (fun route => route.accepts method) path route found
        ∧ route.method?.isSome = true := by
  simp only [First, beq_iff_eq]
  constructor
  · rintro ⟨before, after, rfl, earlier, own, resolved⟩
    have named : route.method?.isSome = true := Option.isSome_of_eq_some own
    refine ⟨⟨before, after, rfl, fun other mem takes => earlier other mem ?_,
      (accepts_iff_of_some own).2 rfl, resolved⟩, named⟩
    -- what stands before a route for one method is for one method, too
    have ahead := (List.pairwise_append.1 ordered).2.2 other mem route List.mem_cons_self named
    obtain ⟨its, bound⟩ := Option.isSome_iff_exists.1 ahead
    rw [bound, (accepts_iff_of_some bound).1 takes]
  · rintro ⟨⟨before, after, rfl, earlier, takes, resolved⟩, named⟩
    obtain ⟨own, bound⟩ := Option.isSome_iff_exists.1 named
    refine ⟨before, after, rfl, fun other mem same => earlier other mem ?_, ?_, resolved⟩
    · exact (accepts_iff_of_some same).2 rfl
    · rw [bound, (accepts_iff_of_some bound).1 takes]

/-- The methods named for a path and the route that a method takes agree: a method is named, once,
exactly if it takes a route for just this method, and with the action that this leads to; any other
method takes the first route for any method. -/
theorem methodsFor_agrees (ordered : t.NamedFirst) (path method : String) :
    (Dict.keys (t.methodsFor path)).count method ≤ 1
      ∧ (∀ found, t.match? path method = some found
          ↔ ∃ route, t.First (fun route => route.accepts method) path route found)
      ∧ (∀ action, (method, action) ∈ t.methodsFor path
          ↔ ∃ route found, t.First (fun route => route.accepts method) path route found
              ∧ route.method?.isSome = true ∧ found.action = action)
      ∧ ((∀ action, (method, action) ∉ t.methodsFor path) →
          (∀ found, t.match? path method = some found
              ↔ ∃ route, t.First (fun route => route.method?.isNone) path route found)
            ∧ (t.match? path method = none
              ↔ ∀ route ∈ t, route.method? = none → route.resolve path = none)) := by
  refine ⟨List.nodup_iff_count_le_one.1 (nodup_methodsFor t path) method,
    fun found => findSome?_filter_iff, fun action => ?_, fun absent => ?_⟩
  · simp only [mem_methodsFor_iff, named?, findSome?_filter_iff, first_named_iff ordered]
    constructor
    · rintro ⟨found, ⟨route, first, named⟩, leads⟩
      exact ⟨route, found, first, named, leads⟩
    · rintro ⟨route, found, first, named, leads⟩
      exact ⟨found, ⟨route, first, named⟩, leads⟩
  · have unnamed : t.named? path method = none := by
      rw [Option.eq_none_iff_forall_ne_some]
      intro found here
      exact absent found.action (mem_methodsFor_iff.2 ⟨found, here, rfl⟩)
    rw [match?_eq_or ordered, unnamed, Option.none_or]
    refine ⟨fun found => findSome?_filter_iff, ?_⟩
    simp [open?, List.findSome?_eq_none_iff]

/-- Shelves: records are shown, a second route for the same method comes too late, records are not
replaced for lack of an action, and anything else is refused. -/
def shelves : RouteTable :=
  let record : PathPattern := ⟨"/shelf/:id", [.literal "shelf", .variable "id"]⟩
  let books (method? : Option String) : Route :=
    Route.withDefault { pattern := record, method? } Route.collectionVar "books"
  [(books (some "GET")).withAction "show", (books (some "GET")).withAction "list",
    books (some "PUT"), (books none).withAction "refuse"]

theorem methodsFor_agrees_shelves :
    shelves.NamedFirst ∧ shelves.methodsFor "/shelf/3" = [("GET", "show")]
      ∧ (∃ route found, shelves.First (fun route => route.accepts "GET") "/shelf/3" route found
          ∧ route.method?.isSome = true ∧ found.action = "show")
      ∧ (∀ action, ("PUT", action) ∉ shelves.methodsFor "/shelf/3")
      ∧ (∃ route, shelves.First (fun route => route.method?.isNone) "/shelf/3" route
          ⟨"books", "refuse", [("id", "3")]⟩)
      ∧ ∀ route ∈ shelves, route.method? = none → route.resolve "/shelf" = none := by
  have ordered : shelves.NamedFirst := by decide
  have named : shelves.methodsFor "/shelf/3" = [("GET", "show")] := by decide +kernel
  have unnamed : ∀ action, ("PUT", action) ∉ shelves.methodsFor "/shelf/3" := by
    rw [named]
    intro action mem
    have same : "PUT" = "GET" := congrArg Prod.fst (List.mem_singleton.1 mem)
    exact absurd same (by decide)
  have nowhere : shelves.methodsFor "/shelf" = [] := by decide +kernel
  obtain ⟨-, -, get, -⟩ := methodsFor_agrees ordered "/shelf/3" "GET"
  obtain ⟨-, -, -, put⟩ := methodsFor_agrees ordered "/shelf/3" "PUT"
  obtain ⟨-, -, -, lost⟩ := methodsFor_agrees ordered "/shelf" "PUT"
  exact ⟨ordered, named, (get "show").1 (named ▸ List.mem_cons_self), unnamed,
    ((put unnamed).1 _).1 (by decide +kernel),
    (lost fun action mem => absurd (nowhere ▸ mem) List.not_mem_nil).2.1 (by decide +kernel)⟩

end RestService.RouteTable
