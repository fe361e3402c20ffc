import Mathlib.Data.List.Induction
import RestService.Proofs.Collection.Store
import RestService.Proofs.Decimal.Digits

set_option autoImplicit false

namespace RestService.Store

/-- One use of a store: a record is put in directly, or an action is called. -/
inductive Use
  | insert (r : Resource)
  | call (action : String) (call : ActionCall)

/-- What a use gives back. -/
inductive Answer
  | id (id : Nat)
  | result (result : Except ActionError Entity)

/-- What a use of the store of the collection `name` gives back, and the store after it. -/
def use (name : String) (s : Store) : Use → Answer × Store
  | .insert r =>
    let (id, after) := s.insert r
    (.id id, after)
  | .call action call =>
    let (result, after) := s.call name action call
    (.result result, after)

/-- A change to the record of an id. -/
inductive Entry
  | added (id : Nat) (r : Resource)
  | replaced (id : Nat) (r : Resource)
  | removed (id : Nat)

namespace Entry

def id : Entry → Nat
  | added id _ => id
  | replaced id _ => id
  | removed id => id

def record? : Entry → Option Resource
  | added _ r => some r
  | replaced _ r => some r
  | removed _ => none

def isAdded : Entry → Bool
  | added _ _ => true
  | _ => false

def isRemoved : Entry → Bool
  | removed _ => true
  | _ => false

end Entry

/-- The number of records that have been added. -/
def additions (log : List Entry) : Nat := log.countP Entry.isAdded

/-- The number of records that have been removed. -/
def removals (log : List Entry) : Nat := log.countP Entry.isRemoved

/-- The record that the latest change to an id has left. -/
def lastRecord? (log : List Entry) (id : Nat) : Option Resource :=
  (log.filter fun entry => entry.id == id).getLast?.bind Entry.record?

def idIn? (call : ActionCall) : Option Nat := (Dict.get? call.args "id").bind Decimal.nat64?

def recordIn? (call : ActionCall) : Option Resource := call.input?.bind Value.resource?

/-- The change that a use and its answer tell of, if a new record is number `next`. -/
def entryOf? (next : Nat) : Use → Answer → Option Entry
  | .insert r, _ => some (.added next r)
  | .call action call, .result (.ok _) =>
    if action = ActionName.create then (recordIn? call).map (Entry.added next)
    else if action = ActionName.update then
      (idIn? call).bind fun id => (recordIn? call).map (Entry.replaced id)
    else if action = ActionName.delete then (idIn? call).map Entry.removed
    else none
  | .call _ _, _ => none

def proceed (name : String) (state : Store × List Entry) (u : Use) : Store × List Entry :=
  let (answer, after) := state.1.use name u
  (after, state.2 ++ (entryOf? (additions state.2 + 1) u answer).toList)

/-- A new store after some uses, and the log of them. -/
def history (name : String) (uses : List Use) : Store × List Entry :=
  uses.foldl (proceed name) ({}, [])

def after (name : String) (uses : List Use) : Store := (history name uses).1

/-- The log of some uses of a new store. New records are numbered from one. -/
def log (name : String) (uses : List Use) : List Entry := (history name uses).2

/-- What a use is answered after others of a new store. -/
def answer (name : String) (uses : List Use) (u : Use) : Answer := ((after name uses).use name u).1

/-- The answer tells the id of a new record. -/
def Answer.Gives (name : String) (answer : Answer) (id : Nat) : Prop :=
  answer = .id id ∨ answer = .result (.ok (.located (location name id) .empty))

def answerFor (name : String) (id : Nat) (record? : Option Resource) (output : Resource → Entity) :
    Answer :=
  .result (match record? with
    | some r => .ok (output r)
    | none => .error (absent name (toString id)))

/-- The store is what the log tells. -/
structure Refines (s : Store) (log : List Entry) : Prop where
  ordered : s.Ordered
  next : s.nextId = additions log + 1
  holds : ∀ id, s.get? id = lastRecord? log id
  size : s.size + removals log = additions log

section

variable {s : Store} {log : List Entry} {id : Nat} {r : Resource}

theorem additions_concat (log : List Entry) (entry : Entry) :
    additions (log ++ [entry]) = additions log + if entry.isAdded then 1 else 0 := by
  rw [additions, List.countP_append, List.countP_singleton]
  rfl

theorem removals_concat (log : List Entry) (entry : Entry) :
    removals (log ++ [entry]) = removals log + if entry.isRemoved then 1 else 0 := by
  rw [removals, List.countP_append, List.countP_singleton]
  rfl

theorem lastRecord?_concat_same {entry : Entry} (same : entry.id = id) (log : List Entry) :
    lastRecord? (log ++ [entry]) id = entry.record? := by
  unfold lastRecord?
  rw [List.filter_append, List.filter_cons_of_pos (by simpa using same), List.filter_nil,
    List.getLast?_concat, Option.bind_some]

theorem lastRecord?_concat_other {entry : Entry} (other : entry.id ≠ id) (log : List Entry) :
    lastRecord? (log ++ [entry]) id = lastRecord? log id := by
  unfold lastRecord?
  rw [List.filter_append, List.filter_cons_of_neg (by simpa using other), List.filter_nil,
    List.append_nil]

/-- A change to the record of one id is the last word on that id, and none on the others. -/
theorem holds_concat {after : Store} {entry : Entry} (holds : ∀ id, s.get? id = lastRecord? log id)
    (here : after.get? entry.id = entry.record?)
    (others : ∀ id, id ≠ entry.id → after.get? id = s.get? id) (id : Nat) :
    after.get? id = lastRecord? (log ++ [entry]) id := by
  by_cases same : entry.id = id
  · rw [lastRecord?_concat_same same, ← same, here]
  · rw [lastRecord?_concat_other same, others id (Ne.symm same), holds]

theorem refines_empty : Refines {} [] := ⟨ordered_empty, rfl, fun _ => rfl, rfl⟩

theorem Refines.insert (refines : s.Refines log) (r : Resource) :
    (s.insert r).2.Refines (log ++ [.added (additions log + 1) r]) := by
  have gains := refines.ordered.insert_gains r
  constructor
  · exact refines.ordered.insert r
  · rw [additions_concat, gains.next, refines.next]
    rfl
  · rw [← refines.next]
    exact holds_concat refines.holds gains.added gains.others
  · have size := refines.size
    have longer : (s.insert r).2.size = s.size + 1 := List.length_append
    rw [additions_concat, removals_concat, longer]
    change s.size + 1 + (removals log + 0) = additions log + 1
    omega

theorem Refines.replace (refines : s.Refines log) (existing : (s.get? id).isSome) (r : Resource) :
    (s.replace id r).Refines (log ++ [.replaced id r]) := by
  have replaces := replace_replaces existing r
  constructor
  · exact refines.ordered.replace id r
  · rw [additions_concat, replaces.next, refines.next]
    rfl
  · exact holds_concat refines.holds replaces.replaced replaces.others
  · have size := refines.size
    have kept : (s.replace id r).size = s.size := List.length_map _
    rw [additions_concat, removals_concat, kept]
    change s.size + (removals log + 0) = additions log + 0
    omega

theorem Ordered.size_erase (ordered : s.Ordered) (existing : (s.get? id).isSome) :
    (s.erase id).size + 1 = s.size := by
  obtain ⟨r, found⟩ := Option.isSome_iff_exists.1 existing
  obtain ⟨front, back, split⟩ := List.append_of_mem (mem_of_get? found)
  have ascending := ordered.ascending
  rw [split] at ascending
  obtain ⟨-, rest, before⟩ := List.pairwise_append.1 ascending
  have after := (List.pairwise_cons.1 rest).1
  have keepFront : front.filter (fun entry => entry.1 != id) = front := by
    apply List.filter_eq_self.2
    intro entry mem
    have less := before entry mem _ List.mem_cons_self
    simpa using Nat.ne_of_lt less
  have keepBack : back.filter (fun entry => entry.1 != id) = back := by
    apply List.filter_eq_self.2
    intro entry mem
    have less := after entry mem
    simpa using Nat.ne_of_gt less
  unfold size Store.erase
  rw [split, List.filter_append, List.filter_cons_of_neg (by simp), keepFront, keepBack]
  simp only [List.length_append, List.length_cons]
  omega

theorem Refines.erase (refines : s.Refines log) (existing : (s.get? id).isSome) :
    (s.erase id).Refines (log ++ [.removed id]) := by
  have loses := erase_loses existing
  constructor
  · exact refines.ordered.erase id
  · rw [additions_concat, loses.next, refines.next]
    rfl
  · exact holds_concat refines.holds loses.removed loses.others
  · have size := refines.size
    have smaller := refines.ordered.size_erase existing
    rw [additions_concat, removals_concat]
    change (s.erase id).size + (removals log + 1) = additions log + 0
    omega

theorem idIn?_of_idOf {name : String} {call : ActionCall} (named : idOf name call = .ok id) :
    idIn? call = some id := by
  unfold idOf at named
  unfold idIn?
  split at named
  · cases named
  · rename_i text given
    rw [given, Option.bind_some]
    split at named
    · rename_i number read
      rw [read, Except.ok.inj named]
    · cases named

theorem idOf_of_idIn? {call : ActionCall} (named : idIn? call = some id) (name : String) :
    idOf name call = .ok id := by
  obtain ⟨text, given, read⟩ := Option.bind_eq_some_iff.1 named
  unfold idOf
  rw [given]
  simp only [read]

theorem recordIn?_of_inputOf {call : ActionCall} (input : inputOf call = .ok r) :
    recordIn? call = some r := by
  rw [recordIn?, inputOf_eq_ok input]
  rfl

theorem inputOf_of_recordIn? {call : ActionCall} (brought : recordIn? call = some r) :
    inputOf call = .ok r := by
  obtain ⟨v, given, record⟩ := Option.bind_eq_some_iff.1 brought
  unfold inputOf
  rw [given]
  simp only [record]

theorem entryOf?_of_list (next : Nat) (call : ActionCall) (entity : Entity) :
    entryOf? next (.call ActionName.list call) (.result (.ok entity)) = none := rfl

theorem entryOf?_of_show (next : Nat) (call : ActionCall) (entity : Entity) :
    entryOf? next (.call ActionName.show call) (.result (.ok entity)) = none := rfl

theorem entryOf?_of_create {call : ActionCall} {entity : Entity}
    (brought : recordIn? call = some r) (next : Nat) :
    entryOf? next (.call ActionName.create call) (.result (.ok entity)) = some (.added next r) := by
  simp only [entryOf?, if_true, brought, Option.map_some]

theorem entryOf?_of_update {call : ActionCall} {entity : Entity} (named : idIn? call = some id)
    (brought : recordIn? call = some r) (next : Nat) :
    entryOf? next (.call ActionName.update call) (.result (.ok entity)) = some (.replaced id r) := by
  have other : ActionName.update ≠ ActionName.create := by decide
  simp only [entryOf?, if_neg other, if_true, named, brought, Option.bind_some, Option.map_some]

theorem entryOf?_of_delete {call : ActionCall} {entity : Entity} (named : idIn? call = some id)
    (next : Nat) :
    entryOf? next (.call ActionName.delete call) (.result (.ok entity)) = some (.removed id) := by
  have other : ActionName.delete ≠ ActionName.create := by decide
  have another : ActionName.delete ≠ ActionName.update := by decide
  simp only [entryOf?, if_neg other, if_neg another, if_true, named, Option.map_some]

/-- What one use does to a store and its log. -/
theorem Refines.proceed {name : String} {state : Store × List Entry}
    (refines : state.1.Refines state.2) (u : Use) :
    (proceed name state u).1.Refines (proceed name state u).2 := by
  obtain ⟨s, log⟩ := state
  have refines : s.Refines log := refines
  cases u with
  | insert r => exact refines.insert r
  | call action call =>
    change (s.call name action call).2.Refines
      (log ++ (entryOf? (additions log + 1) _ (.result (s.call name action call).1)).toList)
    rcases call_changes name action call s with
      ⟨entity, answered, change⟩ | ⟨⟨error, failed, -⟩, same⟩
    · rw [answered]
      generalize (s.call name action call).2 = after at change
      cases change with
      | listed =>
        rw [entryOf?_of_list, Option.toList_none, List.append_nil]
        exact refines
      | shown named found =>
        rw [entryOf?_of_show, Option.toList_none, List.append_nil]
        exact refines
      | created input =>
        rw [entryOf?_of_create (recordIn?_of_inputOf input)]
        exact refines.insert _
      | updated named input existing =>
        rw [entryOf?_of_update (idIn?_of_idOf named) (recordIn?_of_inputOf input)]
        exact refines.replace existing _
      | deleted named existing =>
        rw [entryOf?_of_delete (idIn?_of_idOf named)]
        exact refines.erase existing
    · rw [failed, same]
      change s.Refines (log ++ [])
      rw [List.append_nil]
      exact refines

theorem call_eq {action : String} {operation : Operation}
    (known : Operation.ofName? action = some operation) (name : String) (call : ActionCall)
    (s : Store) : s.call name action call = (run name call operation).run.run s := by
  unfold Store.call act
  rw [known]

theorem recordOf_of_idIn? {call : ActionCall} (named : idIn? call = some id) (name : String)
    (s : Store) :
    recordOf name s call
      = (match s.get? id with
        | some r => .ok (id, r)
        | none => .error (absent name (toString id))) := by
  unfold recordOf
  rw [idOf_of_idIn? named]
  rfl

theorem call_get {call : ActionCall} (named : idIn? call = some id) (name : String) (s : Store) :
    .result (s.call name ActionName.show call).1
      = answerFor name id (s.get? id) Entity.ofResource := by
  have known : Operation.ofName? ActionName.show = some .get := by decide
  rw [call_eq known, run_get, recordOf_of_idIn? named]
  cases s.get? id <;> rfl

theorem call_delete {call : ActionCall} (named : idIn? call = some id) (name : String)
    (s : Store) :
    .result (s.call name ActionName.delete call).1
      = answerFor name id (s.get? id) fun _ => .empty := by
  have known : Operation.ofName? ActionName.delete = some .delete := by decide
  rw [call_eq known, run_delete, idOf_of_idIn? named]
  simp only
  cases s.get? id <;> rfl

theorem call_update {call : ActionCall} (named : idIn? call = some id)
    (brought : recordIn? call = some r) (name : String) (s : Store) :
    .result (s.call name ActionName.update call).1
      = answerFor name id (s.get? id) fun _ => .empty := by
  have known : Operation.ofName? ActionName.update = some .update := by decide
  rw [call_eq known, run_update, idOf_of_idIn? named, inputOf_of_recordIn? brought]
  simp only
  cases s.get? id <;> rfl

theorem call_create {call : ActionCall} (brought : recordIn? call = some r) (name : String)
    (s : Store) :
    (s.call name ActionName.create call).1
      = .ok (.located (location name s.nextId) .empty) := by
  have known : Operation.ofName? ActionName.create = some .create := by decide
  rw [call_eq known, run_create, inputOf_of_recordIn? brought]

theorem call_create_none {call : ActionCall} (nothing : recordIn? call = none) (name : String)
    (s : Store) : ∃ error, (s.call name ActionName.create call).1 = .error error := by
  have known : Operation.ofName? ActionName.create = some .create := by decide
  rw [call_eq known, run_create]
  cases input : inputOf call with
  | error error => exact ⟨error, rfl⟩
  | ok r =>
    rw [recordIn?_of_inputOf input] at nothing
    cases nothing

theorem Ordered.mem_iff (ordered : s.Ordered) : (id, r) ∈ s.records ↔ s.get? id = some r := by
  refine ⟨fun mem => ?_, mem_of_get?⟩
  obtain ⟨front, back, split⟩ := List.append_of_mem mem
  have ascending := ordered.ascending
  rw [split] at ascending
  refine List.lookup_eq_some_iff.2 ⟨front, back, split, fun entry inside => ?_⟩
  have less := (List.pairwise_append.1 ascending).2.2 entry inside _ List.mem_cons_self
  simpa using Nat.ne_of_gt less

theorem location_injective {name : String} {other : Nat}
    (same : location name id = location name other) : id = other := by
  have text : toString id = toString other :=
    (String.append_right_inj ("/api/" ++ name ++ "/")).1 same
  have digits : Nat.toDigits 10 id = Nat.toDigits 10 other := by
    rw [← Decimal.toList_toString, text, Decimal.toList_toString]
  have read := (Decimal.writes_toDigits id).value
  rw [digits, (Decimal.writes_toDigits other).value] at read
  exact read.symm

/-- Only a use that adds a record gives an id away, and it is that of the record. -/
theorem Refines.entryOf?_of_gives {name : String} {u : Use} (refines : s.Refines log)
    (gives : (s.use name u).1.Gives name id) :
    id = additions log + 1
      ∧ ∃ r, entryOf? (additions log + 1) u (s.use name u).1
        = some (.added (additions log + 1) r) := by
  cases u with
  | insert r =>
    refine ⟨?_, r, rfl⟩
    rcases gives with told | located
    · rw [← refines.next]
      exact (Answer.id.inj told).symm
    · cases located
  | call action call =>
    rcases gives with told | located
    · cases told
    · have located : (s.call name action call).1 = .ok (.located (location name id) .empty) :=
        Answer.result.inj located
      change _ ∧ ∃ r, entryOf? _ _ (.result (s.call name action call).1) = _
      rw [located]
      rcases call_changes name action call s with
        ⟨entity, answered, change⟩ | ⟨⟨error, failed, -⟩, -⟩
      · cases Except.ok.inj (located.symm.trans answered)
        generalize (s.call name action call).2 = after at change
        generalize same : location name id = place at change
        cases change with
        | @created r input =>
          rw [← refines.next]
          exact ⟨location_injective same, r, entryOf?_of_create (recordIn?_of_inputOf input) _⟩
      · cases located.symm.trans failed

end

section

variable (name : String) (uses more : List Use) (u : Use)

theorem history_concat : history name (uses ++ [u]) = proceed name (history name uses) u :=
  List.foldl_concat _ _ _ _

theorem after_concat : after name (uses ++ [u]) = ((after name uses).use name u).2 := by
  unfold after
  rw [history_concat]
  rfl

theorem log_concat :
    log name (uses ++ [u])
      = log name uses
        ++ (entryOf? (additions (log name uses) + 1) u (answer name uses u)).toList := by
  unfold log
  rw [history_concat]
  rfl

/-- A store is always what the log of its uses tells. -/
theorem refines_after : (after name uses).Refines (log name uses) := by
  induction uses using List.reverseRecOn with
  | nil => exact refines_empty
  | append_singleton uses u ih =>
    unfold after log
    rw [history_concat]
    exact Refines.proceed ih u

/-- Logs only grow. -/
theorem isPrefix_log_append : log name uses <+: log name (uses ++ more) := by
  induction more using List.reverseRecOn with
  | nil => simp only [List.append_nil, List.prefix_rfl]
  | append_singleton more u ih =>
    rw [← List.append_assoc, log_concat]
    exact ih.trans (List.prefix_append _ _)

end

/-- An id is above all that have been given out before. -/
theorem lt_of_gives {name : String} {uses more : List Use} {u last : Use} {id next : Nat}
    (earlier : (answer name uses u).Gives name id)
    (later : (answer name (uses ++ u :: more) last).Gives name next) : id < next := by
  obtain ⟨first, r, added⟩ := (refines_after name uses).entryOf?_of_gives earlier
  obtain ⟨second, -⟩ := (refines_after name _).entryOf?_of_gives later
  have grown : additions (log name (uses ++ [u])) = additions (log name uses) + 1 := by
    have entry : entryOf? _ u (answer name uses u) = _ := added
    rw [log_concat, entry, Option.toList_some, additions_concat]
    rfl
  have kept : additions (log name (uses ++ [u])) ≤ additions (log name (uses ++ [u] ++ more)) :=
    (isPrefix_log_append name (uses ++ [u]) more).countP_le
  rw [List.append_assoc, List.singleton_append] at kept
  omega

/-- Whatever uses a new store has had, the log of them tells how it answers the next one. New records
are numbered from one, as they come, and no number is given out a second time. A record can be shown,
replaced and removed exactly while the latest change to it has left one, and all of those are listed
in the order of their numbers. The store holds as many records as have been added and not removed,
and a use that fails leaves it as it was. -/
theorem refines_log (name : String) (uses : List Use) :
    (∀ r, answer name uses (.insert r) = .id (additions (log name uses) + 1))
    ∧ (∀ call r, recordIn? call = some r → answer name uses (.call ActionName.create call)
      = .result (.ok (.located (location name (additions (log name uses) + 1)) .empty)))
    ∧ (∀ call, recordIn? call = none →
      ∃ error, answer name uses (.call ActionName.create call) = .result (.error error))
    ∧ (∀ u more last id next, (answer name uses u).Gives name id →
      (answer name (uses ++ u :: more) last).Gives name next → id < next)
    ∧ (∀ call id, idIn? call = some id →
      answer name uses (.call ActionName.show call)
        = answerFor name id (lastRecord? (log name uses) id) Entity.ofResource
      ∧ answer name uses (.call ActionName.delete call)
        = answerFor name id (lastRecord? (log name uses) id) (fun _ => .empty)
      ∧ ∀ r, recordIn? call = some r → answer name uses (.call ActionName.update call)
        = answerFor name id (lastRecord? (log name uses) id) fun _ => .empty)
    ∧ (∀ call, ∃ live : List (Nat × Resource), (live.Pairwise fun one other => one.1 < other.1)
      ∧ (∀ id r, (id, r) ∈ live ↔ lastRecord? (log name uses) id = some r)
      ∧ answer name uses (.call ActionName.list call)
        = .result (.ok (Entity.ofResources (live.map Prod.snd))))
    ∧ (after name uses).size + removals (log name uses) = additions (log name uses)
    ∧ ∀ u error, answer name uses u = .result (.error error) →
      after name (uses ++ [u]) = after name uses := by
  have refines := refines_after name uses
  refine ⟨?_, ?_, ?_, ?_, ?_, ?_, refines.size, ?_⟩
  · intro r
    rw [← refines.next]
    rfl
  · intro call r brought
    rw [← refines.next]
    exact congrArg Answer.result (call_create brought name _)
  · intro call nothing
    obtain ⟨error, failed⟩ := call_create_none nothing name (after name uses)
    exact ⟨error, congrArg Answer.result failed⟩
  · intro u more last id next
    exact lt_of_gives
  · intro call id named
    rw [← refines.holds]
    exact ⟨call_get named name _, call_delete named name _,
      fun r brought => call_update named brought name _⟩
  · intro call
    refine ⟨(after name uses).records, refines.ordered.ascending, ?_, rfl⟩
    intro id r
    rw [← refines.holds]
    exact refines.ordered.mem_iff
  · intro u error failed
    rw [after_concat]
    cases u with
    | insert r => cases failed
    | call action call =>
      rcases call_changes name action call (after name uses) with ⟨entity, answered, -⟩ | ⟨-, same⟩
      · cases answered.symm.trans (Answer.result.inj failed)
      · exact same

/-- A removed book is not found, however its number is spelled, and the next one gets another
number. -/
theorem refines_log_books :
    let uses := [.insert ⟨"book", []⟩, .call ActionName.delete { args := [("id", "1")] }]
    answer "books" uses (.call ActionName.show { args := [("id", "+01")] })
        = .result (.error (.notFound "books 1"))
      ∧ answer "books" uses (.call ActionName.create { input? := some (.resource "book" []) })
        = .result (.ok (.located "/api/books/2" .empty))
      ∧ after "books" (uses ++ [.call ActionName.show { args := [("id", "+01")] }])
        = after "books" uses := by
  intro uses
  obtain ⟨-, created, -, -, shown, -, -, unchanged⟩ := refines_log "books" uses
  have gone : lastRecord? (log "books" uses) 1 = none :=
    Option.isNone_iff_eq_none.1 (by decide +kernel)
  have added : additions (log "books" uses) = 1 := by decide +kernel
  have named : idIn? { args := [("id", "+01")] } = some 1 := by decide +kernel
  have refused := (shown _ _ named).1
  rw [gone] at refused
  have next := created { input? := some (.resource "book" []) } ⟨"book", []⟩ rfl
  rw [added] at next
  exact ⟨refused, next, unchanged _ _ refused⟩

end RestService.Store
