import RestService.Collection.Memory
import RestService.Proofs.Result

set_option autoImplicit false

namespace RestService

namespace Store

/-- The ids ascend, and those that have been given out are below the next one. -/
structure Ordered (s : Store) : Prop where
  ascending : s.records.Pairwise fun first second => first.1 < second.1
  below : ∀ entry ∈ s.records, entry.1 < s.nextId

theorem ordered_empty : Ordered {} := ⟨List.Pairwise.nil, List.forall_mem_nil _⟩

/-- The store `after` holds the records of `before` and one more, under the next id. -/
structure Gains (before after : Store) (r : Resource) : Prop where
  fresh : before.get? before.nextId = none
  added : after.get? before.nextId = some r
  others : ∀ id, id ≠ before.nextId → after.get? id = before.get? id
  next : after.nextId = before.nextId + 1

/-- The store `after` holds the records of `before`, but for a new one in place of that of `id`. -/
structure Replaces (before after : Store) (id : Nat) (r : Resource) : Prop where
  existing : (before.get? id).isSome
  replaced : after.get? id = some r
  others : ∀ other, other ≠ id → after.get? other = before.get? other
  next : after.nextId = before.nextId

/-- The store `after` holds the records of `before` but for that of `id`. -/
structure Loses (before after : Store) (id : Nat) : Prop where
  existing : (before.get? id).isSome
  removed : after.get? id = none
  others : ∀ other, other ≠ id → after.get? other = before.get? other
  next : after.nextId = before.nextId

theorem get?_cons (key id : Nat) (r : Resource) (next : Nat) (rest : List (Nat × Resource)) :
    get? ⟨next, (key, r) :: rest⟩ id = if id = key then some r else get? ⟨next, rest⟩ id := by
  rw [get?, List.lookup_cons]
  by_cases same : id = key
  · rw [if_pos same, beq_iff_eq.2 same]
  · rw [if_neg same, beq_eq_false_iff_ne.2 same]
    rfl

theorem mem_of_get? {s : Store} {id : Nat} {r : Resource} (found : s.get? id = some r) :
    (id, r) ∈ s.records := by
  obtain ⟨next, records⟩ := s
  induction records with
  | nil => exact absurd found (by simp [get?])
  | cons entry rest ih =>
    obtain ⟨key, other⟩ := entry
    rw [get?_cons] at found
    split at found
    · rename_i same
      rw [same, ← Option.some.inj found]
      exact List.mem_cons_self
    · exact List.mem_cons_of_mem _ (ih found)

theorem get?_eq_none_of_forall {s : Store} {id : Nat} (absent : ∀ entry ∈ s.records, entry.1 ≠ id) :
    s.get? id = none := by
  cases found : s.get? id with
  | none => rfl
  | some r => exact absurd rfl (absent _ (mem_of_get? found))

theorem Ordered.get?_nextId {s : Store} (ordered : s.Ordered) : s.get? s.nextId = none :=
  get?_eq_none_of_forall fun entry mem => Nat.ne_of_lt (ordered.below entry mem)

theorem get?_append (next : Nat) (records : List (Nat × Resource)) (key id : Nat) (r : Resource) :
    get? ⟨next, records ++ [(key, r)]⟩ id
      = (get? ⟨next, records⟩ id).or (if id = key then some r else none) := by
  induction records with
  | nil => exact get?_cons key id r next []
  | cons entry rest ih =>
    obtain ⟨other, held⟩ := entry
    rw [List.cons_append, get?_cons, get?_cons, ih]
    by_cases same : id = other
    · rw [if_pos same, if_pos same, Option.some_or]
    · rw [if_neg same, if_neg same]

theorem Ordered.insert_gains {s : Store} (ordered : s.Ordered) (r : Resource) :
    s.Gains (s.insert r).2 r := by
  refine ⟨ordered.get?_nextId, ?_, fun id ne => ?_, rfl⟩
  · change get? ⟨s.nextId + 1, s.records ++ [(s.nextId, r)]⟩ s.nextId = _
    rw [get?_append, if_pos rfl]
    change (s.get? s.nextId).or _ = _
    rw [ordered.get?_nextId, Option.none_or]
  · change get? ⟨s.nextId + 1, s.records ++ [(s.nextId, r)]⟩ id = _
    rw [get?_append, if_neg ne, Option.or_none]
    rfl

theorem Ordered.insert {s : Store} (ordered : s.Ordered) (r : Resource) :
    (s.insert r).2.Ordered := by
  constructor
  · refine List.pairwise_append.2 ⟨ordered.ascending, List.pairwise_singleton _ _, ?_⟩
    intro entry mem last isLast
    rw [List.mem_singleton.1 isLast]
    exact ordered.below entry mem
  · intro entry mem
    rcases List.mem_append.1 mem with old | new
    · exact Nat.lt_succ_of_lt (ordered.below entry old)
    · rw [List.mem_singleton.1 new]
      exact Nat.lt_succ_self _

theorem get?_replace (next : Nat) (records : List (Nat × Resource)) (id other : Nat)
    (r : Resource) :
    (replace ⟨next, records⟩ id r).get? other
      = if other = id then (get? ⟨next, records⟩ id).map fun _ => r
        else get? ⟨next, records⟩ other := by
  induction records with
  | nil => simp [replace, get?]
  | cons entry rest ih =>
    obtain ⟨key, held⟩ := entry
    have step : (replace ⟨next, (key, held) :: rest⟩ id r).get? other
        = if other = key then some (if key = id then r else held)
          else (replace ⟨next, rest⟩ id r).get? other := by
      unfold replace
      simp only [List.map_cons]
      by_cases same : key = id
      · rw [if_pos same, if_pos same, get?_cons, same]
      · rw [if_neg same, if_neg same, get?_cons]
    rw [step, ih, get?_cons, get?_cons]
    by_cases same : other = id
    · subst same
      by_cases here : other = key
      · simp [here]
      · simp [here]
    · by_cases here : other = key
      · have ne : key ≠ id := fun eq => same (here.trans eq)
        simp [here, ne]
      · simp [same, here]

theorem replace_replaces {s : Store} {id : Nat} (existing : (s.get? id).isSome) (r : Resource) :
    s.Replaces (s.replace id r) id r := by
  obtain ⟨held, found⟩ := Option.isSome_iff_exists.1 existing
  refine ⟨existing, ?_, fun other ne => ?_, rfl⟩
  · have look := get?_replace s.nextId s.records id id r
    rw [if_pos rfl] at look
    change _ = (s.get? id).map _ at look
    rw [found] at look
    exact look
  · have look := get?_replace s.nextId s.records id other r
    rwa [if_neg ne] at look

theorem Ordered.replace {s : Store} (ordered : s.Ordered) (id : Nat) (r : Resource) :
    (s.replace id r).Ordered := by
  have key (entry : Nat × Resource) : (if entry.1 = id then (id, r) else entry).1 = entry.1 := by
    split
    · rename_i same
      exact same.symm
    · rfl
  constructor
  · refine List.pairwise_map.2 (ordered.ascending.imp fun less => ?_)
    rw [key, key]
    exact less
  · intro entry mem
    obtain ⟨old, inside, same⟩ := List.mem_map.1 mem
    rw [← same, key]
    exact ordered.below old inside

theorem get?_erase (next : Nat) (records : List (Nat × Resource)) (id other : Nat) :
    (erase ⟨next, records⟩ id).get? other
      = if other = id then none else get? ⟨next, records⟩ other := by
  induction records with
  | nil => simp [erase, get?]
  | cons entry rest ih =>
    obtain ⟨key, held⟩ := entry
    have step : (erase ⟨next, (key, held) :: rest⟩ id).get? other
        = if key = id then (erase ⟨next, rest⟩ id).get? other
          else if other = key then some held else (erase ⟨next, rest⟩ id).get? other := by
      unfold erase
      by_cases same : key = id
      · rw [if_pos same, List.filter_cons_of_neg (by simp [same])]
      · rw [if_neg same, List.filter_cons_of_pos (by simp [same]), get?_cons]
    rw [step, ih, get?_cons]
    by_cases same : key = id
    · rw [if_pos same]
      by_cases here : other = id
      · rw [if_pos here, if_pos here]
      · rw [if_neg here, if_neg here, if_neg (same ▸ here)]
    · rw [if_neg same]
      by_cases here : other = key
      · rw [if_pos here, if_pos here, if_neg (here ▸ same)]
      · rw [if_neg here, if_neg here]

/-- There is nothing to remove under an id without a record. -/
theorem erase_eq_self {s : Store} {id : Nat} (missing : s.get? id = none) : s.erase id = s := by
  have absent : ∀ entry ∈ s.records, entry.1 != id := fun entry mem => by
    simpa [bne_comm] using List.lookup_eq_none_iff.1 missing entry mem
  rw [erase, List.filter_eq_self.2 absent]

theorem erase_loses {s : Store} {id : Nat} (existing : (s.get? id).isSome) :
    s.Loses (s.erase id) id := by
  refine ⟨existing, ?_, fun other ne => ?_, rfl⟩
  · exact (get?_erase s.nextId s.records id id).trans (if_pos rfl)
  · exact (get?_erase s.nextId s.records id other).trans (if_neg ne)

theorem Ordered.erase {s : Store} (ordered : s.Ordered) (id : Nat) : (s.erase id).Ordered :=
  ⟨ordered.ascending.filter _, fun entry mem => ordered.below entry (List.mem_filter.1 mem).1⟩

/-- Errors of stores are the client's. -/
def Refuses (error : ActionError) : Prop :=
  (∃ what, error = .notFound what) ∨ ∃ reason, error = .invalid reason

theorem refuses_absent (name id : String) : Refuses (absent name id) := .inl ⟨_, rfl⟩

theorem refuses_of_idOf {name : String} {call : ActionCall} {error : ActionError}
    (failed : idOf name call = .error error) : Refuses error := by
  unfold idOf at failed
  split at failed
  · exact .inr ⟨_, (Except.error.inj failed).symm⟩
  · split at failed
    · cases failed
    · cases failed
      exact refuses_absent _ _

theorem refuses_of_recordOf {name : String} {s : Store} {call : ActionCall} {error : ActionError}
    (failed : recordOf name s call = .error error) : Refuses error := by
  rcases Result.bind_eq_error.1 failed with noId | ⟨id, -, here⟩
  · exact refuses_of_idOf noId
  · split at here
    · cases here
    · cases here
      exact refuses_absent _ _

theorem refuses_of_inputOf {call : ActionCall} {error : ActionError}
    (failed : inputOf call = .error error) : Refuses error := by
  unfold inputOf at failed
  split at failed
  · exact .inr ⟨_, (Except.error.inj failed).symm⟩
  · split at failed
    · cases failed
    · exact .inr ⟨_, (Except.error.inj failed).symm⟩

theorem recordOf_eq_ok {name : String} {s : Store} {call : ActionCall} {id : Nat} {r : Resource}
    (found : recordOf name s call = .ok (id, r)) :
    idOf name call = .ok id ∧ s.get? id = some r := by
  obtain ⟨known, named, here⟩ := Result.bind_eq_ok.1 found
  split at here
  · rename_i held look
    cases here
    exact ⟨named, look⟩
  · cases here

theorem inputOf_eq_ok {call : ActionCall} {r : Resource} (input : inputOf call = .ok r) :
    call.input? = some r.toValue := by
  unfold inputOf at input
  split at input
  · cases input
  · rename_i v given
    split at input
    · rename_i held isRecord
      cases input
      rw [given]
      cases v with
      | resource typeName fields => cases isRecord; rfl
      | _ => cases isRecord
    · cases input

section Run

variable (name : String) (call : ActionCall) (s : Store)

theorem run_get : (run name call .get).run.run s = match recordOf name s call with
    | .ok (_, r) => (.ok (Entity.ofResource r), s)
    | .error error => (.error error, s) := by
  simp only [run, Fallible.run_bind, Fallible.run_get, Fallible.run_ofResult]
  cases recordOf name s call <;> rfl

theorem run_create : (run name call .create).run.run s = match inputOf call with
    | .ok r => (.ok (.located (location name s.nextId) .empty), (s.insert r).2)
    | .error error => (.error error, s) := by
  simp only [run, Fallible.run_bind, Fallible.run_ofResult]
  cases inputOf call <;> rfl

theorem run_update : (run name call .update).run.run s
    = match idOf name call, inputOf call with
      | .ok id, .ok r =>
        if (s.get? id).isSome then (.ok .empty, s.replace id r)
        else (.error (absent name (toString id)), s)
      | .ok _, .error error => (.error error, s)
      | .error error, _ => (.error error, s) := by
  simp only [run, Fallible.run_bind, Fallible.run_ofResult]
  cases idOf name call with
  | error error => rfl
  | ok id =>
    cases inputOf call with
    | error error => rfl
    | ok r =>
      simp only [Fallible.run_get]
      split <;> rfl

theorem run_delete : (run name call .delete).run.run s = match idOf name call with
    | .ok id =>
      (if (s.get? id).isSome then .ok .empty else .error (absent name (toString id)), s.erase id)
    | .error error => (.error error, s) := by
  simp only [run, Fallible.run_bind, Fallible.run_ofResult]
  cases idOf name call with
  | error error => rfl
  | ok id =>
    simp only [Fallible.run_get, Fallible.run_set]
    split <;> rfl

end Run

/-- A record that a call names is shown. -/
theorem call_show {name : String} {call : ActionCall} {s : Store} {id : Nat} {r : Resource}
    (named : idOf name call = .ok id) (found : s.get? id = some r) :
    s.call name ActionName.show call = (.ok (Entity.ofResource r), s) := by
  have known : recordOf name s call = .ok (id, r) := by
    unfold recordOf
    rw [named]
    simp only [bind, Except.bind, found]
    rfl
  have operation : Operation.ofName? ActionName.show = some .get := by decide
  unfold Store.call act
  simp only [operation, run, Fallible.run_bind, Fallible.run_get, Fallible.run_ofResult, known,
    Fallible.run_pure]

/-- What an action that succeeds makes of a store, and what it gives back. -/
inductive Change (name : String) (call : ActionCall) (before : Store) :
    String → Entity → Store → Prop
  | listed : Change name call before ActionName.list
      (Entity.ofResources (before.records.map Prod.snd)) before
  | shown {id : Nat} {r : Resource} (named : idOf name call = .ok id)
      (found : before.get? id = some r) :
      Change name call before ActionName.show (Entity.ofResource r) before
  | created {r : Resource} (input : inputOf call = .ok r) :
      Change name call before ActionName.create
        (.located (location name before.nextId) .empty) (before.insert r).2
  | updated {id : Nat} {r : Resource} (named : idOf name call = .ok id)
      (input : inputOf call = .ok r) (existing : (before.get? id).isSome) :
      Change name call before ActionName.update .empty (before.replace id r)
  | deleted {id : Nat} (named : idOf name call = .ok id) (existing : (before.get? id).isSome) :
      Change name call before ActionName.delete .empty (before.erase id)

theorem Operation.ofName?_eq_some {action : String} {operation : Operation}
    (known : Operation.ofName? action = some operation) :
    (operation = .list ∧ action = ActionName.list) ∨ (operation = .get ∧ action = ActionName.show)
      ∨ (operation = .create ∧ action = ActionName.create)
      ∨ (operation = .update ∧ action = ActionName.update)
      ∨ (operation = .delete ∧ action = ActionName.delete) := by
  unfold Operation.ofName? at known
  split at known
  · cases known; exact .inl ⟨rfl, ‹_›⟩
  · split at known
    · cases known; exact .inr (.inl ⟨rfl, ‹_›⟩)
    · split at known
      · cases known; exact .inr (.inr (.inl ⟨rfl, ‹_›⟩))
      · split at known
        · cases known; exact .inr (.inr (.inr (.inl ⟨rfl, ‹_›⟩)))
        · split at known
          · cases known; exact .inr (.inr (.inr (.inr ⟨rfl, ‹_›⟩)))
          · cases known

theorem change_of_run {name : String} {call : ActionCall} {s after : Store} {entity : Entity}
    {action : String} {operation : Operation} (known : Operation.ofName? action = some operation)
    (ran : (run name call operation).run.run s = (.ok entity, after)) :
    Change name call s action entity after := by
  rcases Operation.ofName?_eq_some known with
    ⟨rfl, rfl⟩ | ⟨rfl, rfl⟩ | ⟨rfl, rfl⟩ | ⟨rfl, rfl⟩ | ⟨rfl, rfl⟩
  · cases ran
    exact .listed
  · rw [run_get] at ran
    split at ran
    · rename_i found
      obtain ⟨named, look⟩ := recordOf_eq_ok found
      cases ran
      exact .shown named look
    · cases ran
  · rw [run_create] at ran
    split at ran
    · cases ran
      exact .created ‹_›
    · cases ran
  · rw [run_update] at ran
    split at ran
    · split at ran
      · cases ran
        exact .updated ‹_› ‹_› ‹_›
      · cases ran
    · cases ran
    · cases ran
  · rw [run_delete] at ran
    split at ran
    · split at ran
      · cases ran
        exact .deleted ‹_› ‹_›
      · cases ran
    · cases ran

/-- An operation that fails does so by the client's fault, and has changed nothing. -/
theorem refuses_of_run {name : String} {call : ActionCall} {s after : Store} {operation : Operation}
    {error : ActionError} (failed : (run name call operation).run.run s = (.error error, after)) :
    Refuses error ∧ after = s := by
  cases operation with
  | list => cases failed
  | get =>
    rw [run_get] at failed
    split at failed
    · cases failed
    · cases failed
      exact ⟨refuses_of_recordOf ‹_›, rfl⟩
  | create =>
    rw [run_create] at failed
    split at failed
    · cases failed
    · cases failed
      exact ⟨refuses_of_inputOf ‹_›, rfl⟩
  | update =>
    rw [run_update] at failed
    split at failed
    · split at failed
      · cases failed
      · cases failed
        exact ⟨refuses_absent _ _, rfl⟩
    · cases failed
      exact ⟨refuses_of_inputOf ‹_›, rfl⟩
    · cases failed
      exact ⟨refuses_of_idOf ‹_›, rfl⟩
  | delete =>
    rw [run_delete] at failed
    split at failed
    · split at failed
      · cases failed
      · rename_i missing
        cases failed
        exact ⟨refuses_absent _ _, erase_eq_self (by simpa using missing)⟩
    · cases failed
      exact ⟨refuses_of_idOf ‹_›, rfl⟩

/-- An action either succeeds, with one of the changes, or fails by the client's fault and changes
nothing. -/
theorem call_changes (name action : String) (call : ActionCall) (s : Store) :
    (∃ entity, (s.call name action call).1 = .ok entity
      ∧ Change name call s action entity (s.call name action call).2)
    ∨ (∃ error, (s.call name action call).1 = .error error ∧ Refuses error)
      ∧ (s.call name action call).2 = s := by
  unfold Store.call act
  split
  · exact .inr ⟨⟨_, rfl, .inr ⟨_, rfl⟩⟩, rfl⟩
  · rename_i operation known
    rcases ran : (run name call operation).run.run s with ⟨error | entity, after⟩
    · obtain ⟨refuses, same⟩ := refuses_of_run ran
      exact .inr ⟨⟨error, rfl, refuses⟩, same⟩
    · exact .inl ⟨entity, rfl, change_of_run known ran⟩

theorem Change.ordered {name action : String} {call : ActionCall} {before after : Store}
    {entity : Entity} (change : Change name call before action entity after)
    (ordered : before.Ordered) : after.Ordered := by
  cases change with
  | listed => exact ordered
  | shown => exact ordered
  | created => exact ordered.insert _
  | updated => exact ordered.replace _ _
  | deleted => exact ordered.erase _

/-- A record stays as it is, unless the action is about changing or removing it. -/
theorem Change.get?_or {name action : String} {call : ActionCall} {before after : Store}
    {entity : Entity} (change : Change name call before action entity after)
    (ordered : before.Ordered) {id : Nat} {r : Resource} (found : before.get? id = some r) :
    after.get? id = some r
      ∨ ((action = ActionName.update ∨ action = ActionName.delete) ∧ entity = .empty
        ∧ idOf name call = .ok id) := by
  cases change with
  | listed => exact .inl found
  | shown => exact .inl found
  | @created new input =>
    have other : id ≠ before.nextId := by
      intro same
      rw [same, ordered.get?_nextId] at found
      cases found
    exact .inl (((ordered.insert_gains new).others id other).trans found)
  | @updated changed new named input existing =>
    by_cases same : id = changed
    · exact .inr ⟨.inl rfl, rfl, same ▸ named⟩
    · exact .inl (((replace_replaces existing new).others id same).trans found)
  | @deleted removed named existing =>
    by_cases same : id = removed
    · exact .inr ⟨.inr rfl, rfl, same ▸ named⟩
    · exact .inl (((erase_loses existing).others id same).trans found)

end Store

namespace Stores

def Ordered (stores : Stores) : Prop := ∀ name, (stores name).Ordered

theorem ordered_empty : Ordered empty := fun _ => Store.ordered_empty

theorem Ordered.set {stores : Stores} (ordered : stores.Ordered) {name : String} {s : Store}
    (new : s.Ordered) : (stores.set name s).Ordered := by
  intro other
  by_cases same : other = name
  · subst same
    rw [set_same]
    exact new
  · rw [set_other stores s same]
    exact ordered other

theorem run_call (name action : String) (call : ActionCall) (stores : Stores) :
    ((collection name).call action call).run stores
      = (((stores name).call name action call).1,
          stores.set name ((stores name).call name action call).2) := rfl

theorem set_self (stores : Stores) (name : String) : stores.set name (stores name) = stores := by
  funext other
  by_cases same : other = name
  · subst same
    exact set_same stores _ _
  · exact set_other stores _ same

end Stores

end RestService
