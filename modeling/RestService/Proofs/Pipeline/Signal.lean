import RestService.Proofs.Pipeline.Refusal

set_option autoImplicit false

namespace RestService

namespace Headers

theorem values_append (front back : Headers) (name : String) :
    values (front ++ back) name = front.values name ++ back.values name := by
  rw [values, List.filter_append, List.map_append]
  rfl

theorem values_singleton (name other : String) (value : ByteArray) :
    values [(name, value)] other = if name = other then [value] else [] := by
  by_cases same : name = other <;> simp [values, same]

theorem values_erase (headers : Headers) (name other : String) :
    (headers.erase name).values other = if name = other then [] else headers.values other := by
  rw [values, erase, List.filter_filter]
  by_cases same : name = other
  · subst same
    simp
  · rw [if_neg same, values]
    congr 2
    funext header
    by_cases here : header.1 = other <;> simp [here, Ne.symm same]

theorem values_insert (headers : Headers) (name other : String) (value : ByteArray) :
    (headers.insert name value).values other
      = if name = other then [value] else headers.values other := by
  rw [insert, values_append, values_erase, values_singleton]
  by_cases same : name = other <;> simp [same]

/-- Of headers that are put to others one after the other, the last value of each name stays. -/
theorem values_foldl_insert (headers kept : Headers) (name : String) :
    values (headers.foldl (fun kept header => kept.insert header.1 header.2) kept) name
      = ((headers.values name).getLast?.map ([·])).getD (kept.values name) := by
  induction headers generalizing kept with
  | nil => rfl
  | cons header rest ih =>
    have whole : values (header :: rest) name = values [header] name ++ values rest name :=
      values_append [header] rest name
    rw [List.foldl_cons, ih, values_insert, whole, values_singleton, List.getLast?_append]
    cases (values rest name).getLast? with
    | some last => rfl
    | none => by_cases same : header.1 = name <;> simp [same]

end Headers

/-- The last item of a list is all of it exactly if there is no other one. -/
theorem toList_getLast?_eq_iff {α : Type} {xs : List α} :
    xs.getLast?.toList = xs ↔ xs.length ≤ 1 := by
  cases found : xs.getLast? with
  | none => simp [List.getLast?_eq_none_iff.1 found]
  | some last =>
    obtain ⟨front, rfl⟩ := List.getLast?_eq_some_iff.1 found
    cases front with
    | nil => simp
    | cons first front => simp

/-- The fault is a signal, raised on the way of a request or by an action. -/
def Fault.Carries (fault : Fault) (s : StatusSignal) : Prop :=
  fault = .signal s ∨ fault = .action (.status s)

theorem Fault.Carries.response_eq {fault : Fault} {s : StatusSignal} (carries : fault.Carries s) :
    fault.response = s.response := by
  rcases carries with rfl | rfl <;> rfl

theorem StatusSignal.response_of_body {s : StatusSignal} (full : s.body.isEmpty = false) :
    s.response = ⟨s.status, s.headers, s.body⟩ := by
  rw [response, if_neg (Bool.eq_false_iff.1 full)]

theorem StatusSignal.body_response {s : StatusSignal} (bare : s.body.isEmpty = true) :
    s.response.body = (s.reason?.getD (s.status.phrase?.getD "")).toUTF8 := by
  rw [response, if_pos bare]
  rfl

theorem StatusSignal.values_response {s : StatusSignal} (bare : s.body.isEmpty = true)
    (name : String) :
    s.response.headers.values name
      = if name = HeaderName.contentType then [Response.plainText.toUTF8]
        else (s.headers.values name).getLast?.toList := by
  have headers : s.response.headers
      = (s.headers.erase HeaderName.contentType).foldl
        (fun kept header => Headers.insert kept header.1 header.2)
        [(HeaderName.contentType, Response.plainText.toUTF8)] := by
    rw [response, if_pos bare]
    rfl
  rw [headers, Headers.values_foldl_insert, Headers.values_erase, Headers.values_singleton]
  by_cases own : HeaderName.contentType = name
  · rw [if_pos own, if_pos own, if_pos own.symm]
    rfl
  · rw [if_neg own, if_neg own, if_neg (Ne.symm own)]
    cases (s.headers.values name).getLast? <;> rfl

/-- A signal is answered with its status. With a body, it is answered with that and its headers.
Without, it is answered with a sentence, and with the last value of each of its headers other than
the one for the type of the body: all that the signal has is sent exactly if it has no two values
of one name. -/
theorem Fault.response_of_carries {fault : Fault} {s : StatusSignal} (carries : fault.Carries s) :
    fault.response.status = s.status
      ∧ (s.body.isEmpty = false →
          fault.response.headers = s.headers ∧ fault.response.body = s.body)
      ∧ (s.body.isEmpty = true →
          fault.response.body = (s.reason?.getD (s.status.phrase?.getD "")).toUTF8
            ∧ fault.response.headers.values HeaderName.contentType = [Response.plainText.toUTF8]
            ∧ (∀ name, name ≠ HeaderName.contentType →
                fault.response.headers.values name = (s.headers.values name).getLast?.toList)
            ∧ ((∀ name, name ≠ HeaderName.contentType →
                  fault.response.headers.values name = s.headers.values name)
                ↔ ∀ name, name ≠ HeaderName.contentType → (s.headers.values name).length ≤ 1)) := by
  have status : fault.response.status = s.status := by
    rw [status_response]
    rcases carries with rfl | rfl <;> rfl
  refine ⟨status, fun full => ?_, fun bare => ?_⟩
  · rw [carries.response_eq, StatusSignal.response_of_body full]
    exact ⟨rfl, rfl⟩
  · rw [carries.response_eq]
    have last (name : String) (other : name ≠ HeaderName.contentType) :
        s.response.headers.values name = (s.headers.values name).getLast?.toList := by
      rw [StatusSignal.values_response bare, if_neg other]
    refine ⟨StatusSignal.body_response bare, ?_, last, ?_⟩
    · rw [StatusSignal.values_response bare, if_pos rfl]
    · refine forall₂_congr fun name other => ?_
      rw [last name other, toList_getLast?_eq_iff]

/-- The refusal of a client that may choose between two schemes. -/
def unauthorized (body : String) : StatusSignal where
  status := ⟨401⟩
  headers := [("www-authenticate", "Basic".toUTF8), ("www-authenticate", "Bearer".toUTF8)]
  body := body.toUTF8

theorem Fault.response_of_carries_unauthorized :
    (Fault.action (.status (unauthorized "none"))).Carries (unauthorized "none")
      ∧ (unauthorized "none").body.isEmpty = false
      ∧ (Fault.action (.status (unauthorized "none"))).response.headers
        = [("www-authenticate", "Basic".toUTF8), ("www-authenticate", "Bearer".toUTF8)]
      ∧ (Fault.signal (unauthorized "")).Carries (unauthorized "")
      ∧ (unauthorized "").body.isEmpty = true
      ∧ (Fault.signal (unauthorized "")).response.status = ⟨401⟩
      ∧ (Fault.signal (unauthorized "")).response.body = "Unauthorized".toUTF8
      ∧ "www-authenticate" ≠ HeaderName.contentType
      ∧ (Fault.signal (unauthorized "")).response.headers.values "www-authenticate"
        = ["Bearer".toUTF8] := by
  have full : (unauthorized "none").body.isEmpty = false := by decide +kernel
  have bare : (unauthorized "").body.isEmpty = true := by decide +kernel
  have raised : (Fault.action (.status (unauthorized "none"))).Carries (unauthorized "none") :=
    .inr rfl
  have carries : (Fault.signal (unauthorized "")).Carries (unauthorized "") := .inl rfl
  have other : "www-authenticate" ≠ HeaderName.contentType := by decide
  obtain ⟨-, whole, -⟩ := Fault.response_of_carries raised
  obtain ⟨status, -, sentence⟩ := Fault.response_of_carries carries
  obtain ⟨body, -, last, -⟩ := sentence bare
  exact ⟨raised, full, (whole full).1, carries, bare, status, body, other, last _ other⟩

/-- A signal without a body loses a value of a header that has two. -/
theorem Fault.exists_value_lost :
    ∃ (s : StatusSignal) (name : String), s.body.isEmpty = true ∧ name ≠ HeaderName.contentType
      ∧ (Fault.signal s).response.headers.values name ≠ s.headers.values name := by
  refine ⟨unauthorized "", "www-authenticate", by decide +kernel, by decide, fun same => ?_⟩
  have lengths : 1 = 2 := congrArg List.length same
  cases lengths

end RestService
