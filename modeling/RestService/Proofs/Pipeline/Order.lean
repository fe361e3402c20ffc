import Mathlib.Data.List.Nodup
import Mathlib.Data.List.Sort
import RestService.Pipeline.Chain

set_option autoImplicit false

namespace RestService

namespace Registration

variable {α β : Type}

/-- Each scope of the registration is any name or the given one. -/
def Matches (r : Registration α) (collection action : String) : Prop :=
  (r.collection = .any ∨ r.collection = .named collection)
    ∧ (r.action = .any ∨ r.action = .named action)

instance (r : Registration α) (collection action : String) :
    Decidable (r.Matches collection action) := inferInstanceAs (Decidable (_ ∧ _))

def precedes (first second : Registration α) : Bool := decide (first.priority ≤ second.priority)

/-- The items of the registrations that match an action, by ascending priority. Those of one
priority keep their order. -/
def inOrder (rs : List (Registration α)) (collection action : String) : List α :=
  ((rs.filter fun r => r.Matches collection action).mergeSort precedes).map item

/-- The first registration has no higher priority than the second, or no action matches both. -/
def MayPrecede (first second : Registration α) : Prop :=
  first.priority ≤ second.priority
    ∨ first.action ≠ .any ∧ second.action ≠ .any ∧ first.action ≠ second.action

instance (first second : Registration α) : Decidable (first.MayPrecede second) :=
  inferInstanceAs (Decidable (_ ∨ _))

/-- Registrations that are in order already need no sorting. -/
theorem inOrder_of_pairwise {rs : List (Registration α)} (sorted : rs.Pairwise MayPrecede)
    (collection action : String) :
    inOrder rs collection action
      = (rs.filter fun r => r.Matches collection action).map item := by
  have only {r : Registration α} (mem : r ∈ rs.filter fun r => r.Matches collection action)
      (named : r.action ≠ .any) : r.action = .named action := by
    have both := of_decide_eq_true (List.mem_filter.1 mem).2
    exact both.2.resolve_left named
  rw [inOrder, List.mergeSort_of_pairwise]
  refine (List.Pairwise.imp_of_mem ?_ (sorted.filter _))
  intro first second mem memToo may
  rcases may with le | ⟨named, namedToo, apart⟩
  · exact decide_eq_true le
  · rw [only mem named, only memToo namedToo] at apart
    exact absurd rfl apart

theorem inOrder_map (f : α → β) (rs : List (Registration α)) (collection action : String) :
    inOrder (rs.map (map f)) collection action = (inOrder rs collection action).map f := by
  have sort (rs : List (Registration α)) :
      (rs.map (map f)).mergeSort precedes = (rs.mergeSort precedes).map (map f) :=
    (List.map_mergeSort (f := map f) fun _ _ _ _ => rfl).symm
  rw [inOrder, inOrder, List.filter_map, sort, List.map_map, List.map_map]
  rfl

end Registration

/-- The elements with one of several keys are those with the first, those with the second, and so
on, each of them once. -/
theorem flatMap_filter_perm {α κ : Type} [DecidableEq κ] {key : α → κ} {keys : List κ}
    (nodup : keys.Nodup) {keep : α → Bool} (kept : ∀ x, keep x = true ↔ key x ∈ keys)
    (xs : List α) :
    (keys.flatMap fun k => xs.filter fun x => key x = k).Perm (xs.filter keep) := by
  induction keys generalizing keep with
  | nil =>
    have none : xs.filter keep = [] :=
      List.filter_eq_nil_iff.2 fun x _ yes => List.not_mem_nil ((kept x).1 yes)
    rw [none, List.flatMap_nil]
  | cons k keys ih =>
    obtain ⟨other, apart⟩ := List.nodup_cons.1 nodup
    have mine : (xs.filter keep).filter (fun x => key x = k) = xs.filter fun x => key x = k := by
      rw [List.filter_filter]
      refine List.filter_congr fun x _ => ?_
      by_cases own : key x = k
      · simp [own, (kept x).2 (own ▸ List.mem_cons_self)]
      · simp [own]
    have theirs : ∀ x, (keep x && !decide (key x = k)) = true ↔ key x ∈ keys := by
      intro x
      rw [Bool.and_eq_true, kept x, List.mem_cons, Bool.not_eq_true', decide_eq_false_iff_not]
      constructor
      · rintro ⟨own | later, away⟩
        · exact absurd own away
        · exact later
      · exact fun later => ⟨.inr later, fun own => other (own ▸ later)⟩
    have parts := List.filter_append_perm (fun x => decide (key x = k)) (xs.filter keep)
    have swapped : (fun x => !decide (key x = k) && keep x) = fun x => keep x && !decide (key x = k) :=
      funext fun x => Bool.and_comm _ _
    rw [mine, List.filter_filter, swapped] at parts
    rw [List.flatMap_cons]
    exact ((ih apart theirs).append_left _).trans parts

namespace Entry

variable {α : Type}

theorem precedes_iff {first second : Entry α} :
    first.precedes second = true ↔ first.priority < second.priority
      ∨ first.priority = second.priority ∧ first.serial ≤ second.serial := decide_eq_true_iff

theorem precedes_trans (first second third : Entry α) (here : first.precedes second = true)
    (there : second.precedes third = true) : first.precedes third = true := by
  rw [precedes_iff] at here there ⊢
  omega

theorem precedes_total (first second : Entry α) :
    (first.precedes second || second.precedes first) = true := by
  rw [Bool.or_eq_true, precedes_iff, precedes_iff]
  omega

def below (first second : Entry α) : Bool := decide (first.priority ≤ second.priority)

theorem below_iff {first second : Entry α} :
    first.below second = true ↔ first.priority ≤ second.priority := decide_eq_true_iff

theorem below_trans (first second third : Entry α) (here : first.below second = true)
    (there : second.below third = true) : first.below third = true := by
  rw [below_iff] at here there ⊢
  omega

theorem below_total (first second : Entry α) :
    (first.below second || second.below first) = true := by
  rw [Bool.or_eq_true, below_iff, below_iff]
  omega

/-- Sorting by priority alone leaves ties as they were, so they stay in the order of their
serials. -/
theorem pairwise_precedes_mergeSort {es : List (Entry α)}
    (numbered : es.Pairwise fun first second => first.serial < second.serial) :
    (es.mergeSort below).Pairwise fun first second => first.precedes second = true := by
  induction es with
  | nil =>
    rw [List.mergeSort_nil]
    exact .nil
  | cons e es ih =>
    obtain ⟨after, rest⟩ := List.pairwise_cons.1 numbered
    obtain ⟨front, back, whole, others, lower⟩ := List.mergeSort_cons below_trans below_total e es
    have sorted := List.pairwise_mergeSort below_trans below_total (e :: es)
    rw [whole] at sorted
    have above := (List.pairwise_cons.1 (List.pairwise_append.1 sorted).2.1).1
    have tail := ih rest
    rw [others] at tail
    obtain ⟨early, late, between⟩ := List.pairwise_append.1 tail
    have inside {other : Entry α} (mem : other ∈ front ++ back) : other ∈ es := by
      rw [← others] at mem
      exact List.mem_mergeSort.1 mem
    rw [whole, List.pairwise_append]
    refine ⟨early, List.pairwise_cons.2 ⟨fun other mem => ?_, late⟩, fun first mem other => ?_⟩
    · have serial := after other (inside (List.mem_append_right _ mem))
      have priority := below_iff.1 (above other mem)
      rw [precedes_iff]
      omega
    · intro memOther
      rcases List.mem_cons.1 memOther with rfl | later
      · have not := lower first mem
        rw [Bool.not_eq_true', Bool.eq_false_iff, Ne, below_iff] at not
        rw [precedes_iff]
        omega
      · exact between first mem other later

/-- The entries of one chain may be gathered in any order: sorting by priority and serial brings
them into the one that sorting by priority gives to the order of their registration. -/
theorem mergeSort_eq_of_perm {gathered es : List (Entry α)} (perm : gathered.Perm es)
    (numbered : es.Pairwise fun first second => first.serial < second.serial) :
    gathered.mergeSort precedes = es.mergeSort below := by
  have same : (gathered.mergeSort precedes).Perm (es.mergeSort below) :=
    (List.mergeSort_perm _ _).trans (perm.trans (List.mergeSort_perm _ _).symm)
  have apart : (es.map serial).Nodup :=
    List.pairwise_map.2 (numbered.imp fun less => Nat.ne_of_lt less)
  refine List.Perm.eq_of_pairwise (fun first second mem memToo here there => ?_)
    (List.pairwise_mergeSort precedes_trans precedes_total gathered)
    (pairwise_precedes_mergeSort numbered) same
  have inside : first ∈ es := perm.mem_iff.1 (List.mem_mergeSort.1 mem)
  have insideToo : second ∈ es := List.mem_mergeSort.1 memToo
  rw [precedes_iff] at here there
  exact List.inj_on_of_nodup_map apart inside insideToo (by omega)

end Entry

namespace Chain

variable {α β : Type} {chain : Chain α}

theorem lookup_push (key other : Scope × Scope) (e : Entry α)
    (buckets : List ((Scope × Scope) × List (Entry α))) :
    ((push key e buckets).lookup other).getD []
      = if other = key then (buckets.lookup other).getD [] ++ [e]
        else (buckets.lookup other).getD [] := by
  induction buckets with
  | nil =>
    rw [push, List.lookup_cons]
    by_cases own : other = key
    · simp [own]
    · simp [own, beq_false_of_ne own]
  | cons bucket buckets ih =>
    obtain ⟨first, es⟩ := bucket
    rw [push]
    by_cases here : first = key
    · rw [if_pos here, List.lookup_cons, List.lookup_cons, here]
      by_cases own : other = key
      · simp [own]
      · simp [own, beq_false_of_ne own]
    · rw [if_neg here, List.lookup_cons, List.lookup_cons]
      by_cases found : other = first
      · simp [found, here]
      · rw [beq_false_of_ne found]
        exact ih

theorem bucket_add (chain : Chain α) (r : Registration α) (serial : Nat) (key : Scope × Scope) :
    (chain.add r serial).bucket key
      = if key = r.key then chain.bucket key ++ [⟨r.priority, serial, r.item⟩]
        else chain.bucket key := lookup_push r.key key _ chain.buckets

def entry (r : Registration α × Nat) : Entry α := ⟨r.1.priority, r.2, r.1.item⟩

/-- The chain has the entries of these registrations, each in the bucket of its key, in their order.
-/
def Holds (chain : Chain α) (rs : List (Registration α × Nat)) : Prop :=
  ∀ key, chain.bucket key = (rs.filter fun r => r.1.key = key).map entry

theorem Holds.add {rs : List (Registration α × Nat)} (holds : chain.Holds rs)
    (r : Registration α) (serial : Nat) : (chain.add r serial).Holds (rs ++ [(r, serial)]) := by
  intro key
  rw [bucket_add, holds key, List.filter_append, List.map_append]
  by_cases own : key = r.key
  · rw [if_pos own, List.filter_cons_of_pos (by simp [own])]
    rfl
  · rw [if_neg own, List.filter_cons_of_neg (by simpa using fun same => own same.symm)]
    exact (List.append_nil _).symm

theorem mem_keys_iff {r : Registration α} {collection action : String} :
    r.key ∈ keys collection action ↔ r.Matches collection action := by
  unfold Registration.key keys Registration.Matches
  simp only [List.mem_cons, Prod.mk.injEq, List.not_mem_nil, or_false]
  tauto

theorem nodup_keys (collection action : String) : (keys collection action).Nodup := by
  simp [keys]

/-- The buckets are merged into the registrations for the action, sorted by priority. -/
theorem Holds.resolve {rs : List (Registration α × Nat)} (holds : chain.Holds rs)
    (numbered : rs.Pairwise fun first second => first.2 < second.2) (collection action : String) :
    chain.resolve collection action
      = Registration.inOrder (rs.map Prod.fst) collection action := by
  let matching := rs.filter fun r => r.1.Matches collection action
  have gathered : ((keys collection action).flatMap chain.bucket).Perm (matching.map entry) := by
    have buckets : chain.bucket = fun key => (rs.filter fun r => r.1.key = key).map entry :=
      funext holds
    have kept (r : Registration α × Nat) :
        decide (r.1.Matches collection action) = true ↔ r.1.key ∈ keys collection action := by
      rw [decide_eq_true_iff, mem_keys_iff]
    rw [buckets, ← List.map_flatMap]
    exact (flatMap_filter_perm (nodup_keys collection action) kept rs).map entry
  have serials : (matching.map entry).Pairwise fun first second => first.serial < second.serial :=
    List.pairwise_map.2 (numbered.filter _)
  have entries : (matching.map entry).mergeSort Entry.below
      = (matching.mergeSort fun first second => first.1.precedes second.1).map entry :=
    (List.map_mergeSort (f := entry) fun _ _ _ _ => rfl).symm
  have registrations : (matching.map Prod.fst).mergeSort Registration.precedes
      = (matching.mergeSort fun first second => first.1.precedes second.1).map Prod.fst :=
    (List.map_mergeSort (f := Prod.fst) fun _ _ _ _ => rfl).symm
  have filtered : (rs.map Prod.fst).filter (fun r => r.Matches collection action)
      = matching.map Prod.fst := List.filter_map
  rw [Chain.resolve, Entry.mergeSort_eq_of_perm gathered serials, entries, Registration.inOrder,
    filtered, registrations, List.map_map, List.map_map]
  rfl

end Chain

namespace Filters

variable {φ η : Type}

/-- The registrations for a kind of chain, in the order of the additions. -/
def registrations (kind : ChainKind) (additions : List (Addition φ η)) :
    List (Registration (kind.Item φ η)) := additions.filterMap (Addition.registration? kind)

/-- The registrations for a kind of chain with their serials, which count additions of all kinds. -/
def numbered (kind : ChainKind) (start : Nat) :
    List (Addition φ η) → List (Registration (kind.Item φ η) × Nat)
  | [] => []
  | addition :: rest =>
    match addition.registration? kind with
    | some r => (r, start) :: numbered kind (start + 1) rest
    | none => numbered kind (start + 1) rest

theorem map_fst_numbered (kind : ChainKind) (start : Nat) (additions : List (Addition φ η)) :
    (numbered kind start additions).map Prod.fst = registrations kind additions := by
  induction additions generalizing start with
  | nil => rfl
  | cons addition rest ih =>
    rw [numbered, registrations, List.filterMap_cons]
    cases addition.registration? kind with
    | none => exact ih (start + 1)
    | some r => exact congrArg (r :: ·) (ih (start + 1))

theorem pairwise_numbered (kind : ChainKind) (start : Nat) (additions : List (Addition φ η)) :
    (∀ r ∈ numbered kind start additions, start ≤ r.2)
      ∧ (numbered kind start additions).Pairwise fun first second => first.2 < second.2 := by
  induction additions generalizing start with
  | nil => exact ⟨List.forall_mem_nil _, .nil⟩
  | cons addition rest ih =>
    obtain ⟨least, rising⟩ := ih (start + 1)
    have later : ∀ r ∈ numbered kind (start + 1) rest, start ≤ r.2 := fun r mem =>
      Nat.le_of_succ_le (least r mem)
    rw [numbered]
    cases addition.registration? kind with
    | none => exact ⟨later, rising⟩
    | some r =>
      exact ⟨List.forall_mem_cons.2 ⟨le_rfl, later⟩,
        List.pairwise_cons.2 ⟨fun other mem => least other mem, rising⟩⟩

theorem nextSerial_add (f : Filters φ η) (addition : Addition φ η) :
    (f.add addition).nextSerial = f.nextSerial + 1 := by
  cases addition <;> rfl

theorem chain_add (f : Filters φ η) (addition : Addition φ η) (kind : ChainKind) :
    (f.add addition).chain kind
      = match addition.registration? kind with
        | some r => (f.chain kind).add r f.nextSerial
        | none => f.chain kind := by
  cases kind <;> cases addition <;> rfl

/-- Whatever is added, each chain keeps what it has and gets the registrations of its kind. -/
theorem holds_addAll {kind : ChainKind} {f : Filters φ η}
    {rs : List (Registration (kind.Item φ η) × Nat)} (holds : (f.chain kind).Holds rs)
    (additions : List (Addition φ η)) :
    ((f.addAll additions).chain kind).Holds (rs ++ numbered kind f.nextSerial additions) := by
  induction additions generalizing f rs with
  | nil =>
    rw [numbered, List.append_nil]
    exact holds
  | cons addition rest ih =>
    have step := chain_add f addition kind
    rw [numbered]
    cases found : addition.registration? kind with
    | none =>
      rw [found] at step
      have kept : ((f.add addition).chain kind).Holds rs := by
        rw [step]
        exact holds
      have later := ih kept
      rwa [nextSerial_add] at later
    | some r =>
      rw [found] at step
      have grown : ((f.add addition).chain kind).Holds (rs ++ [(r, f.nextSerial)]) := by
        rw [step]
        exact holds.add r f.nextSerial
      have later := ih grown
      rwa [nextSerial_add, List.append_assoc, List.singleton_append] at later

/-- What takes part in an action are the items registered for it, in order. -/
theorem resolve_addAll (additions : List (Addition φ η)) (kind : ChainKind)
    (collection action : String) :
    ((addAll {} additions).chain kind).resolve collection action
      = Registration.inOrder (registrations kind additions) collection action := by
  have empty : (chain ({} : Filters φ η) kind).Holds [] := by
    intro key
    cases kind <;> rfl
  have holds := holds_addAll empty additions
  rw [List.nil_append] at holds
  rw [holds.resolve (pairwise_numbered kind _ additions).2, map_fst_numbered]

/-- Whether an addition is to a chain of this kind, and for this action. -/
def Concerns (kind : ChainKind) (collection action : String) (addition : Addition φ η) : Bool :=
  (addition.registration? kind).any fun r => r.Matches collection action

/-- The registrations that match an action are all among the additions that concern it. -/
theorem filter_registrations (additions : List (Addition φ η)) (kind : ChainKind)
    (collection action : String) :
    (registrations kind (additions.filter (Concerns kind collection action))).filter
        (fun r => decide (r.Matches collection action))
      = (registrations kind additions).filter fun r => decide (r.Matches collection action) := by
  unfold registrations
  induction additions with
  | nil => rfl
  | cons addition rest ih =>
    rw [List.filter_cons, List.filterMap_cons]
    cases found : addition.registration? kind with
    | none =>
      have unconcerned : ¬Concerns kind collection action addition = true := by
        simp [Concerns, found]
      rw [if_neg unconcerned, ih]
    | some r =>
      by_cases matching : r.Matches collection action
      · have concerned : Concerns kind collection action addition = true := by
          simp [Concerns, found, matching]
        rw [if_pos concerned, List.filterMap_cons, found]
        simp only [List.filter_cons, matching, decide_true, if_true, ih]
      · have unconcerned : ¬Concerns kind collection action addition = true := by
          simp [Concerns, found, matching]
        rw [if_neg unconcerned, ih]
        simp only [List.filter_cons, matching, decide_false, Bool.false_eq_true, if_false]

/-- Whatever is registered, and in whichever order, what takes part in an action of a collection are
the items of that kind that have been registered for it, each as often as it has been, by ascending
priority and in the order of their registration. Nothing else makes a difference. -/
theorem resolve_ofAdditions (additions : List (Addition φ η)) (kind : ChainKind)
    (collection action : String) :
    ((ofAdditions additions).chain kind).resolve collection action
        = Registration.inOrder (registrations kind additions) collection action
      ∧ ((ofAdditions additions).chain kind).resolve collection action
        = ((ofAdditions (additions.filter (Concerns kind collection action))).chain kind).resolve
            collection action := by
  have resolved (additions : List (Addition φ η)) :
      ((ofAdditions additions).chain kind).resolve collection action
        = Registration.inOrder (registrations kind additions) collection action :=
    resolve_addAll additions kind collection action
  refine ⟨resolved additions, ?_⟩
  rw [resolved, resolved, Registration.inOrder, Registration.inOrder, filter_registrations]

end Filters

end RestService
