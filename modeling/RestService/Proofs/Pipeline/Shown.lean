import RestService.Proofs.Collection.RoundTrip
import RestService.Proofs.Json.Sound
import RestService.Proofs.Pipeline.Later
import RestService.Proofs.Route.Record
import RestService.Proofs.Rule.Renaming

set_option autoImplicit false

namespace RestService

/-- A request to put a record that its body describes in JSON into a collection. -/
structure Request.PostsJson (post : Request) (name : String) : Prop where
  method : post.method = "POST"
  path : PathPattern.split post.path = ["api", name]
  contentType : post.header? HeaderName.contentType = some "application/json"

/-- A request without a body to show in JSON what is at a path. -/
structure Request.GetsJson (get : Request) (path : String) : Prop where
  method : get.method = "GET"
  path : get.path = path
  noBody : get.body.isEmpty = true
  accept : get.header? HeaderName.accept = some "application/json"
  anyCharset : get.header? HeaderName.acceptCharset = none

namespace Application

variable {specs : List CollectionSpec} {app : Application Stores} {before after : Stores}
  {name : String}

/-- The body of a JSON request is read as JSON. -/
theorem parseBody_json_iff {σ : Type} {cx : Context σ} (codecs : cx.service.codecs = Codec.all)
    (json : cx.request.header? HeaderName.contentType = some "application/json")
    {body : ByteArray} {v : Value} : Standard.parseBody cx body = .ok v
      ↔ body.isEmpty = false ∧ JsonTree.parseBody none body = .ok v := by
  have mediaType : parseContentType "application/json" = .ok ⟨"application", "json", []⟩ := by
    decide +kernel
  have chosen : Codec.forInput? Codec.all "application/json" = some .json := by decide +kernel
  have essence : MediaType.essence ⟨"application", "json", []⟩ = "application/json" := by decide
  have parse : Codec.json.parse cx.codecContext none body = JsonTree.parseBody none body := rfl
  have charset? : MediaType.charset? ⟨"application", "json", []⟩ = none := rfl
  unfold Standard.parseBody
  simp only [json, mediaType, Context.ofSource, bind, Except.bind, essence, codecs, chosen,
    charset?, parse]
  cases body.isEmpty with
  | true => simp [throw, throwThe, MonadExceptOf.throw]
  | false => cases JsonTree.parseBody none body <;> simp [pure, Except.pure, throw, throwThe,
      MonadExceptOf.throw]

/-- The fault of a client is not answered like a new record. -/
theorem status_ne_created {fault : Fault} (client : fault.isClientError = true) :
    fault.response.status ≠ .created := by
  intro same
  have code := isClientError_response client
  rw [same] at code
  exact absurd code (by decide)

theorem Routed.of_posts {σ : Type} {app : Application σ} {cx : Context σ}
    (standard : app.IsStandard) {post : Request} (routed : app.Routed post cx)
    (posts : post.PostsJson name) : cx.collection.name = name ∧ cx.action = ActionName.create := by
  rcases routed.cases standard with ⟨path, action⟩ | ⟨text, path, -⟩
  · rw [posts.path] at path
    rw [posts.method] at action
    exact ⟨(List.cons.inj (List.cons.inj path).2).1.symm, action.symm⟩
  · rw [posts.path] at path
    cases path

/-- A new record is the internal shape of what the body of the request says. -/
theorem Handled.stored (inMemory : app.InMemory specs) {post : Request} {response : Response}
    (handled : Handled app post before response after) (posts : post.PostsJson name)
    (answered : response.status = .created) :
    ∃ c v r, app.catalogue.get? name = some c ∧ JsonTree.parseBody none post.body = .ok v
      ∧ Transform.forward app.catalogue c v = .ok (Resource.toValue r)
      ∧ after = before.set name ((before name).insert r).2 := by
  cases handled with
  | unrouted status =>
    rw [status] at answered
    exact absurd answered (by decide)
  | refused routed refused =>
    exact absurd answered (status_ne_created (isClientError_of_intake refused))
  | failed routed refuses =>
    exact absurd answered (status_ne_created (Standard.isClientError_invalidInput refuses))
  | @done cx entity output input? s routed admitted input change =>
    obtain ⟨rfl, create⟩ := routed.of_posts inMemory.toIsStandard posts
    obtain ⟨v, inner, read, shaped, rfl⟩ := intake_eq_ok_of_isWrite (.inl create) admitted
    have service : cx.service = app.toService := routed.ofService
    have known : app.catalogue.get? cx.collection.name = some cx.collection := by
      have found := routed.collection
      rwa [← (Catalogue.mem_of_get? found).2] at found
    generalize same : cx.action = action at change
    cases change with
    | @created r new =>
      have given := Store.inputOf_eq_ok new
      have value : inner = r.toValue := by
        unfold actionInput? at input
        simp only [Option.some.injEq] at input
        simp only at given
        rw [← input] at given
        split at given
        · cases given
        · exact Option.some.inj given
      rw [value, service] at shaped
      have codecs : cx.service.codecs = Codec.all := by
        rw [service]
        exact inMemory.codecs
      have json : cx.request.header? HeaderName.contentType = some "application/json" := by
        rw [routed.ofRequest]
        exact posts.contentType
      have text := ((parseBody_json_iff codecs json).1 read).2
      rw [routed.ofRequest] at text
      exact ⟨cx.collection, v, r, known, text, shaped, rfl⟩
    | _ => exact absurd (same.symm.trans create) (by decide)

/-- A request for JSON gets JSON, in the first charset of the service. -/
theorem negotiate_json {σ : Type} {cx : Context σ} (codecs : cx.service.codecs = Codec.all)
    {charset : String} (first : cx.service.charsets.head? = some charset)
    (accept : cx.request.header? HeaderName.accept = some "application/json")
    (anyCharset : cx.request.header? HeaderName.acceptCharset = none) :
    cx.negotiate = .ok ⟨.json, charset⟩ := by
  have chosen : selectContentType (Codec.all.map Codec.mediaType) "application/json"
      = .ok (some "application/json") := by decide +kernel
  have codec : cx.preferredCodec = .ok .json := by
    have named : (some "application/json").bind (Codec.forOutput? Codec.all) = some .json :=
      Codec.forOutput?_all .json
    unfold Context.preferredCodec
    simp only [accept, codecs, Option.getD_some, chosen, Context.ofSource, bind, Except.bind, named]
    rfl
  have spelling : cx.preferredCharset = .ok charset := by
    unfold Context.preferredCharset
    simp only [anyCharset, first]
    rfl
  unfold Context.negotiate
  rw [codec, spelling]
  rfl

/-- A request for JSON is answered with the JSON form of the value. -/
theorem formatBody_json {σ : Type} {cx : Context σ} (codecs : cx.service.codecs = Codec.all)
    {charset : String} (first : cx.service.charsets.head? = some charset)
    (accept : cx.request.header? HeaderName.accept = some "application/json")
    (anyCharset : cx.request.header? HeaderName.acceptCharset = none) {v : Value}
    {body : ByteArray} (written : JsonTree.formatBody charset v = .ok body) :
    Standard.formatBody cx v = .ok (⟨.json, charset⟩, body) := by
  have format : cx.format ⟨.json, charset⟩ v = .ok body := written
  unfold Standard.formatBody
  rw [negotiate_json codecs first accept anyCharset]
  simp only [bind, Except.bind, format]
  rfl

/-- What is shown of a record. -/
theorem InMemory.show (inMemory : app.InMemory specs) {stores : Stores} {id : Nat}
    {r : Resource} {c : CollectionSchema} (known : app.catalogue.get? name = some c)
    (small : id < Decimal.twoTo 64) (found : (stores name).get? id = some r) {get : Request}
    (gets : get.GetsJson (Store.location name id))
    (segments : PathPattern.split get.path = ["api", name, toString id])
    {charset : String} (first : app.charsets.head? = some charset) {v : Value}
    (shaped : Transform.reverse app.catalogue r.toValue = .ok v) (full : v.isNull = false)
    {body : ByteArray} (written : JsonTree.formatBody charset v = .ok body) :
    ((app.handle get).run stores).1.1.status = .ok
      ∧ ((app.handle get).run stores).1.1.body = body := by
  have named : c.name = name := (Catalogue.mem_of_get? known).2
  have route : app.routes.match? get.path get.method
      = some ⟨name, ActionName.show, [("id", toString id)]⟩ := by
    rw [inMemory.routes, RouteTable.match?_standard, segments, gets.method]
    rfl
  obtain ⟨cx, routed, action, vars, own⟩ : ∃ cx : Context Stores, app.Routed get cx
      ∧ cx.action = ActionName.show ∧ cx.route.pathVars = [("id", toString id)]
      ∧ cx.collection.name = name :=
    ⟨⟨app.toService, get, ⟨name, ActionName.show, [("id", toString id)]⟩, c, app.actions c.name⟩,
      ⟨rfl, rfl, route, known, rfl⟩, rfl, rfl, named⟩
  have service : cx.service = app.toService := routed.ofService
  have actions : cx.actions = Stores.collection name := by
    rw [routed.actions, own]
    exact congrFun inMemory.actions name
  have admitted : intake cx = .ok .empty := by
    refine intake_of_noBody ?_ ?_ ?_ ?_
    · rw [routed.ofRequest]
      exact gets.noBody
    · rw [action]
      rfl
    · rw [action]
      decide
    · rw [actions, action]
      rfl
  have mine : Store.idOf name ⟨arguments cx, none⟩ = .ok id := by
    unfold Store.idOf
    simp only [get?_arguments vars, Decimal.nat64?_toString small]
  have called : (cx.actions.call cx.action ⟨arguments cx, none⟩).run stores
      = (.ok (Entity.ofResource r), stores) := by
    rw [actions, action, Stores.run_call, Store.call_show mine found, Stores.set_self]
  have formatted : Standard.formatBody cx v = .ok (⟨.json, charset⟩, body) := by
    refine formatBody_json ?_ ?_ ?_ ?_ written
    · rw [service]
      exact inMemory.codecs
    · rw [service]
      exact first
    · rw [routed.ofRequest]
      exact gets.accept
    · rw [routed.ofRequest]
      exact gets.anyCharset
  rw [← service] at shaped
  let flow : Flow Stores := invoke cx { context := cx, world := stores }
  have whole : ((app.finish cx (.value r.toValue)).run flow).1
      = .finished (flow.setHeader HeaderName.contentType
          (Representation.contentType ⟨.json, charset⟩).toUTF8).response body :=
    inMemory.run_show action rfl shaped full formatted
  obtain ⟨response, -⟩ := handle_of_called inMemory.toIsStandard routed admitted rfl called
  rw [response, Entity.ofResource, whole]
  exact ⟨rfl, rfl⟩

end Application

namespace Application

variable {specs : List CollectionSpec} {app : Application Stores}

end Application

end RestService
