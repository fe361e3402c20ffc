import Mathlib.Data.Prod.Lex
import Mathlib.Order.OrderDual
import RestService.Negotiation.Selection
import RestService.Proofs.Dict
import RestService.Proofs.Result

set_option autoImplicit false

namespace RestService

section FirstBest

variable {α β κ : Type} [LinearOrder κ] {less : α → α → Bool} {key : α → κ}

/-- Going through a list for the best item so far ends with the first item or with one that exceeds
it and all that come before. -/
theorem foldl_best (exceeds : ∀ x y, less x y = true ↔ key x < key y) (xs : List α) (start : α) :
    let best := xs.foldl (fun best x => if less best x then x else best) start
    (best = start ∧ ∀ x ∈ xs, key x ≤ key start)
      ∨ ∃ before after, xs = before ++ best :: after ∧ key start < key best
        ∧ (∀ x ∈ before, key x < key best) ∧ ∀ x ∈ after, key x ≤ key best := by
  induction xs generalizing start with
  | nil => exact .inl ⟨rfl, List.forall_mem_nil _⟩
  | cons x xs ih =>
    simp only [List.foldl_cons]
    by_cases greater : key start < key x
    · rw [if_pos ((exceeds start x).2 greater)]
      rcases ih x with ⟨same, others⟩ | ⟨before, after, split, more, left, right⟩
      · refine .inr ⟨[], xs, ?_, ?_, List.forall_mem_nil _, ?_⟩
        · rw [same]
          rfl
        · rw [same]
          exact greater
        · rw [same]
          exact others
      · refine .inr ⟨x :: before, after, ?_, greater.trans more, ?_, right⟩
        · rw [List.cons_append, ← split]
        · exact List.forall_mem_cons.2 ⟨more, left⟩
    · rw [if_neg fun exceeded => greater ((exceeds start x).1 exceeded)]
      have below := not_lt.1 greater
      rcases ih start with ⟨same, others⟩ | ⟨before, after, split, more, left, right⟩
      · exact .inl ⟨same, List.forall_mem_cons.2 ⟨below, others⟩⟩
      · refine .inr ⟨x :: before, after, ?_, more, ?_, right⟩
        · rw [List.cons_append, ← split]
        · exact List.forall_mem_cons.2 ⟨below.trans_lt more, left⟩

/-- The first best item exceeds all before it and is not exceeded by any after it. -/
theorem exists_of_firstBest (exceeds : ∀ x y, less x y = true ↔ key x < key y) {xs : List α}
    {best : α} (found : firstBest less xs = some best) :
    ∃ before after, xs = before ++ best :: after ∧ (∀ x ∈ before, key x < key best)
      ∧ ∀ x ∈ after, key x ≤ key best := by
  cases xs with
  | nil => cases found
  | cons x xs =>
    cases found
    rcases foldl_best exceeds xs x with ⟨same, others⟩ | ⟨before, after, split, more, left, right⟩
    · refine ⟨[], xs, ?_, List.forall_mem_nil _, ?_⟩
      · rw [same]
        rfl
      · rw [same]
        exact others
    · refine ⟨x :: before, after, ?_, List.forall_mem_cons.2 ⟨more, left⟩, right⟩
      rw [List.cons_append, ← split]

/-- Where there is no first best, no item gives anything. -/
theorem bind_eq_none_of_firstBest {f : β → Option α} {xs : List β}
    (missing : firstBest less (xs.filterMap f) = none) (place : ℕ) : xs[place]?.bind f = none := by
  refine Option.bind_eq_none_iff.2 fun y here => ?_
  cases made : xs.filterMap f with
  | nil => exact List.filterMap_eq_nil_iff.1 made y (List.mem_of_getElem? here)
  | cons x rest =>
    rw [made] at missing
    cases missing

/-- Among what `f` makes of the items of a list, the first best one comes from an item before which
all give less and after which none gives more. -/
theorem exists_split_of_firstBest {f : β → Option α}
    (exceeds : ∀ x y, less x y = true ↔ key x < key y) {xs : List β} {best : α}
    (found : firstBest less (xs.filterMap f) = some best) :
    ∃ before item after, xs = before ++ item :: after ∧ f item = some best
      ∧ (∀ y ∈ before, ∀ x, f y = some x → key x < key best)
      ∧ ∀ y ∈ after, ∀ x, f y = some x → key x ≤ key best := by
  obtain ⟨before, after, split, left, right⟩ := exists_of_firstBest exceeds found
  obtain ⟨front, back, rfl, rfl, taken⟩ := List.filterMap_eq_append_iff.1 split
  obtain ⟨skipped, item, rest, rfl, none, here, rfl⟩ := List.filterMap_eq_cons_iff.1 taken
  refine ⟨front ++ skipped, item, rest, (List.append_assoc _ _ _).symm, here, ?_, ?_⟩
  · intro y mem x made
    rcases List.mem_append.1 mem with inFront | inSkipped
    · exact left x (List.mem_filterMap.2 ⟨y, inFront, made⟩)
    · rw [none y inSkipped] at made
      cases made
  · intro y mem x made
    exact right x (List.mem_filterMap.2 ⟨y, mem, made⟩)

/-- It has the greatest key, and of those with the same key the earliest place. -/
theorem exists_place_of_firstBest {f : β → Option α}
    (exceeds : ∀ x y, less x y = true ↔ key x < key y) {xs : List β} {best : α}
    (found : firstBest less (xs.filterMap f) = some best) :
    ∃ place : ℕ, xs[place]?.bind f = some best ∧ ∀ (other : ℕ) x, xs[other]?.bind f = some x →
      toLex (key x, OrderDual.toDual other) ≤ toLex (key best, OrderDual.toDual place) := by
  obtain ⟨before, item, after, rfl, here, left, right⟩ := exists_split_of_firstBest exceeds found
  have at_place : (before ++ item :: after)[before.length]?.bind f = some best := by
    rw [List.getElem?_append_right le_rfl, Nat.sub_self]
    exact here
  refine ⟨before.length, at_place, fun other x gives => Prod.Lex.toLex_le_toLex.2 ?_⟩
  -- What comes earlier gives less, and what comes later gives no more and has the lesser place.
  rcases Nat.lt_trichotomy other before.length with earlier | rfl | later
  · rw [List.getElem?_append_left earlier] at gives
    obtain ⟨y, inside, made⟩ := Option.bind_eq_some_iff.1 gives
    exact .inl (left y (List.mem_of_getElem? inside) x made)
  · obtain rfl : best = x := Option.some.inj (at_place.symm.trans gives)
    exact .inr ⟨rfl, le_rfl⟩
  · obtain ⟨n, shift⟩ : ∃ n, other - before.length = n + 1 := ⟨other - before.length - 1, by omega⟩
    rw [List.getElem?_append_right later.le, shift, List.getElem?_cons_succ] at gives
    obtain ⟨y, inside, made⟩ := Option.bind_eq_some_iff.1 gives
    rcases (right y (List.mem_of_getElem? inside) x made).lt_or_eq with less | equal
    · exact .inl less
    · exact .inr ⟨equal, OrderDual.toDual_le_toDual.2 later.le⟩

end FirstBest

namespace HeaderItem

/-- The type and the subtype that an item names; a lone star names any of both. -/
def names? (item : HeaderItem) : Option (String × String) :=
  MediaType.names? (if item.value = "*" then "*/*" else item.value)

def lastParam? (item : HeaderItem) (name : String) : Option String :=
  Dict.get? item.params.reverse name

/-- The names of the options: those of the parameters but the quality, each once. -/
def optionNames (item : HeaderItem) : List String :=
  (Dict.keys item.params).dedup.filter fun name => name != "q"

/-- The quality that the first parameter for it tells, or the full one. -/
def quality? (item : HeaderItem) : Option Quality :=
  match item.param? "q" with
  | none => some Quality.full
  | some text => Quality.ofText? text

/-- An entry of an `Accept` header matches a candidate with a precedence. -/
inductive Matches (entry candidate : HeaderItem) : Nat → Prop
  | anyType {subtype : String} (named : entry.names? = some ("*", subtype)) :
      Matches entry candidate 0
  | anySubtype {kind subtype : String} (named : entry.names? = some (kind, "*"))
      (kindNamed : kind ≠ "*") (given : candidate.names? = some (kind, subtype)) :
      Matches entry candidate 1
  | full {kind subtype : String} (named : entry.names? = some (kind, subtype))
      (kindNamed : kind ≠ "*") (subtypeNamed : subtype ≠ "*")
      (given : candidate.names? = some (kind, subtype))
      (options : ∀ name ∈ entry.optionNames,
        candidate.lastParam? name = entry.lastParam? name) :
      Matches entry candidate (2 + entry.optionNames.length)

end HeaderItem

section Ranking

variable (entries items : List HeaderItem)

/-- The entry at a place of the header matches a candidate as `m` tells. -/
def Matched (candidate : HeaderItem) (m : AcceptMatch) : Prop :=
  ∃ entry, entries[m.position]? = some entry ∧ entry.Matches candidate m.precedence
    ∧ entry.quality? = some m.quality

/-- Matches rank by precedence, then by quality, then the earlier place in the header first. -/
def AcceptMatch.rank (m : AcceptMatch) : (ℕ ×ₗ ℕ) ×ₗ ℕᵒᵈ :=
  toLex (toLex (m.precedence, m.quality), OrderDual.toDual m.position)

/-- The entry that speaks for a candidate, which is the matching one of the greatest rank. -/
def Wins (candidate : HeaderItem) (m : AcceptMatch) : Prop :=
  Matched entries candidate m ∧ ∀ other, Matched entries candidate other → other.rank ≤ m.rank

/-- The candidate at a place has an entry that speaks for it, and is acceptable by it. -/
def Offers (place : ℕ) (m : AcceptMatch) : Prop :=
  ∃ item, items[place]? = some item ∧ Wins entries item m ∧ 0 < m.quality

/-- Candidates rank by quality, then the earlier place of the entry that speaks for them, then their
own earlier place first. -/
def AcceptMatch.preference (m : AcceptMatch) (place : ℕ) : (ℕ ×ₗ ℕᵒᵈ) ×ₗ ℕᵒᵈ :=
  toLex (toLex (m.quality, OrderDual.toDual m.position), OrderDual.toDual place)

/-- The candidate at a place is the acceptable one of the greatest rank. -/
def Chosen (place : ℕ) : Prop :=
  ∃ m, Offers entries items place m
    ∧ ∀ other m', Offers entries items other m' → m'.preference other ≤ m.preference place

/-- A choice among candidates, of which `items` are the parsed forms, is the one that the ranking
determines. -/
structure Ranked (candidates : List String) (choice : Option String) : Prop where
  some_iff : ∀ name, choice = some name
    ↔ ∃ place, Chosen entries items place ∧ candidates[place]? = some name
  none_iff : choice = none ↔ ∀ place m, ¬Offers entries items place m

end Ranking

namespace MediaType

/-- A media type is read from an item, names and parameters. -/
structure IsOf (item : HeaderItem) (media : MediaType) : Prop where
  names : item.names? = some (media.kind, media.subtype)
  params : media.params = Dict.ofList item.params

theorem isOf_of_ofItem {header : String} {item : HeaderItem} {media : MediaType}
    (read : ofItem header item = .ok media) : IsOf item media := by
  rw [ofItem] at read
  cases named : item.names? with
  | none =>
    rw [HeaderItem.names?] at named
    simp only [named] at read
    cases read
  | some names =>
    have shown := named
    rw [HeaderItem.names?] at shown
    simp only [shown] at read
    cases read
    exact ⟨named, rfl⟩

theorem IsOf.get?_params {item : HeaderItem} {media : MediaType} (isOf : IsOf item media)
    (name : String) : Dict.get? media.params name = item.lastParam? name := by
  rw [isOf.params, Dict.get?_ofList]
  rfl

end MediaType

namespace AcceptEntry

variable {item candidate : HeaderItem} {entry : AcceptEntry} {media : MediaType}

theorem options_length (isOf : MediaType.IsOf item entry.media) :
    entry.options.length = item.optionNames.length := by
  have names : (Dict.keys entry.options).length = item.optionNames.length := by
    have same : Dict.keys entry.options
        = (Dict.keys (Dict.ofList item.params)).filter fun name => name != "q" := by
      rw [options, isOf.params, Dict.keys, Dict.keys, List.filter_map]
      rfl
    rw [same]
    exact ((Dict.perm_keys_ofList item.params).filter _).length_eq
  rwa [Dict.keys, List.length_map] at names

theorem mem_optionNames (isOf : MediaType.IsOf item entry.media) {name : String} :
    name ∈ item.optionNames ↔ ∃ value, (name, value) ∈ entry.options := by
  have keys : name ∈ (Dict.keys item.params).dedup ↔ name ∈ Dict.keys entry.media.params := by
    rw [isOf.params]
    exact (Dict.perm_keys_ofList item.params).mem_iff.symm
  rw [HeaderItem.optionNames, List.mem_filter, keys, options, Dict.keys, List.mem_map]
  constructor
  · rintro ⟨⟨⟨key, value⟩, mem, rfl⟩, other⟩
    exact ⟨value, List.mem_filter.2 ⟨mem, other⟩⟩
  · rintro ⟨value, mem⟩
    obtain ⟨inside, other⟩ := List.mem_filter.1 mem
    exact ⟨⟨_, inside, rfl⟩, other⟩

theorem get?_of_mem_options (isOf : MediaType.IsOf item entry.media) {name value : String}
    (mem : (name, value) ∈ entry.options) : item.lastParam? name = some value := by
  rw [← isOf.get?_params]
  refine Dict.get?_of_mem ?_ (List.mem_filter.1 mem).1
  rw [isOf.params]
  exact Dict.sorted_ofList _

theorem options_all_iff (isOf : MediaType.IsOf item entry.media)
    (given : MediaType.IsOf candidate media) :
    (entry.options.all fun option => media.params.get? option.1 == some option.2) = true
      ↔ ∀ name ∈ item.optionNames, candidate.lastParam? name = item.lastParam? name := by
  rw [List.all_eq_true]
  constructor
  · intro all name mem
    obtain ⟨value, inside⟩ := (mem_optionNames isOf).1 mem
    have here := all _ inside
    rw [beq_iff_eq] at here
    rw [get?_of_mem_options isOf inside, ← given.get?_params]
    exact here
  · rintro all ⟨name, value⟩ mem
    have here := all name ((mem_optionNames isOf).2 ⟨value, mem⟩)
    rw [get?_of_mem_options isOf mem, ← given.get?_params] at here
    rw [beq_iff_eq]
    exact here

/-- The precedence of an entry for a candidate is that of a match. -/
theorem precedence?_eq_some_iff (isOf : MediaType.IsOf item entry.media)
    (given : MediaType.IsOf candidate media) {precedence : Nat} :
    entry.precedence? media = some precedence ↔ item.Matches candidate precedence := by
  have options := options_all_iff isOf given
  have length := options_length isOf
  unfold precedence?
  constructor
  · intro found
    split at found
    · rename_i any
      cases found
      exact .anyType (by rw [isOf.names, any])
    · rename_i kindNamed
      split at found
      · cases found
      · rename_i kind
        rw [not_not] at kind
        split at found
        · rename_i any
          cases found
          exact .anySubtype (by rw [isOf.names, any]) kindNamed (by rw [given.names, kind])
        · rename_i subtypeNamed
          split at found
          · cases found
          · rename_i subtype
            rw [not_not] at subtype
            split at found
            · rename_i all
              cases found
              rw [length]
              exact .full isOf.names kindNamed subtypeNamed (by rw [given.names, kind, subtype])
                (options.1 all)
            · cases found
  · rintro (⟨named⟩ | ⟨named, kindNamed, there⟩ | ⟨named, kindNamed, subtypeNamed, there, all⟩)
    · obtain ⟨any, -⟩ := Prod.mk.inj (Option.some.inj (isOf.names.symm.trans named))
      rw [if_pos any]
    · obtain ⟨rfl, any⟩ := Prod.mk.inj (Option.some.inj (isOf.names.symm.trans named))
      obtain ⟨kind, -⟩ := Prod.mk.inj (Option.some.inj (given.names.symm.trans there))
      rw [if_neg kindNamed, if_neg (not_not.2 kind.symm), if_pos any]
    · obtain ⟨rfl, rfl⟩ := Prod.mk.inj (Option.some.inj (isOf.names.symm.trans named))
      obtain ⟨kind, subtype⟩ := Prod.mk.inj (Option.some.inj (given.names.symm.trans there))
      rw [if_neg kindNamed, if_neg (not_not.2 kind.symm), if_neg subtypeNamed,
        if_neg (not_not.2 subtype.symm), if_pos (options.2 all), length]

/-- An entry is read from an item. -/
structure IsOf (item : HeaderItem) (entry : AcceptEntry) : Prop where
  media : MediaType.IsOf item entry.media
  quality : item.quality? = some entry.quality

theorem quality?_of_ofItem {header : String} {item : HeaderItem} {quality : Quality}
    (read : Quality.ofItem header item = .ok quality) : item.quality? = some quality := by
  rw [HeaderItem.quality?]
  unfold Quality.ofItem at read
  cases told : item.param? "q" with
  | none =>
    simp only [told] at read
    exact congrArg some (Except.ok.inj read)
  | some text =>
    simp only [told] at read
    cases number : Quality.ofText? text with
    | none =>
      simp only [number] at read
      cases read
    | some q =>
      simp only [number] at read
      exact number.trans (congrArg some (Except.ok.inj read))

/-- The entries of an `Accept` header are read from its items. -/
theorem exists_items_of_parseAccept {accept : String} {accepted : List AcceptEntry}
    (read : parseAccept accept = .ok accepted) :
    ∃ entries, parseListHeaderLower accept = .ok entries
      ∧ List.Forall₂ IsOf entries accepted := by
  obtain ⟨entries, listed, each⟩ := Result.bind_eq_ok.1 read
  refine ⟨entries, listed, (Result.mapM_eq_ok.1 each).imp fun item entry made => ?_⟩
  obtain ⟨quality, qualityRead, more⟩ := Result.bind_eq_ok.1 made
  obtain ⟨media, mediaRead, whole⟩ := Result.bind_eq_ok.1 more
  cases whole
  exact ⟨MediaType.isOf_of_ofItem mediaRead, quality?_of_ofItem qualityRead⟩

end AcceptEntry

/-- The media type of a content type is read from its only item. -/
theorem exists_item_of_parseContentType {name : String} {media : MediaType}
    (read : parseContentType name = .ok media) :
    ∃ item, parseListHeaderLower name = .ok [item] ∧ MediaType.IsOf item media := by
  obtain ⟨items, listed, taken⟩ := Result.bind_eq_ok.1 read
  match items, taken with
  | [item], taken => exact ⟨item, listed, MediaType.isOf_of_ofItem taken⟩

namespace AcceptMatch

theorem yields_iff (m n : AcceptMatch) :
    m.yields n = true ↔ toLex (m.precedence, m.quality) < toLex (n.precedence, n.quality) := by
  rw [yields, Prod.Lex.toLex_lt_toLex]
  simp only [Bool.or_eq_true, Bool.and_eq_true, decide_eq_true_eq, beq_iff_eq]

theorem isWorse_iff (m n : AcceptMatch) :
    m.isWorse n = true ↔ toLex (m.quality, OrderDual.toDual m.position)
      < toLex (n.quality, OrderDual.toDual n.position) := by
  rw [isWorse, Prod.Lex.toLex_lt_toLex]
  simp only [Bool.or_eq_true, Bool.and_eq_true, decide_eq_true_eq, beq_iff_eq,
    OrderDual.toDual_lt_toDual]

/-- Different matches differ in rank. -/
theorem rank_injective : Function.Injective rank := by
  rintro ⟨precedence, quality, position⟩ ⟨precedence', quality', position'⟩ same
  cases same
  rfl

/-- Candidates at different places are never ranked the same. -/
theorem place_of_preference_eq {m n : AcceptMatch} {place other : ℕ}
    (same : m.preference place = n.preference other) : place = other :=
  OrderDual.toDual_inj.1 (congrArg Prod.snd (toLex_inj.1 same))

section

variable {entries : List HeaderItem} {accepted : List AcceptEntry} {candidate : HeaderItem}
  {media : MediaType}

/-- What the entry at a place gives is how it matches. -/
theorem bind_eq_some_iff_matched (each : List.Forall₂ AcceptEntry.IsOf entries accepted)
    (given : MediaType.IsOf candidate media) {place : ℕ} {m : AcceptMatch} :
    (accepted.zipIdx[place]?.bind fun (entry, position) =>
        (entry.precedence? media).map fun precedence =>
          (⟨precedence, entry.quality, position⟩ : AcceptMatch)) = some m
      ↔ m.position = place ∧ Matched entries candidate m := by
  rw [List.getElem?_zipIdx, Option.bind_map, Option.bind_eq_some_iff]
  constructor
  · rintro ⟨entry, here, given'⟩
    obtain ⟨precedence, matched, rfl⟩ := Option.map_eq_some_iff.1 given'
    obtain ⟨item, there, isOf⟩ := Result.exists_getElem?_right each.flip here
    refine ⟨Nat.zero_add place, item, ?_, ?_, isOf.quality⟩
    · simp only [Nat.zero_add]
      exact there
    · exact (AcceptEntry.precedence?_eq_some_iff isOf.media given).1 matched
  · rintro ⟨rfl, item, there, matched, quality⟩
    obtain ⟨entry, here, isOf⟩ := Result.exists_getElem?_right each there
    refine ⟨entry, here, Option.map_eq_some_iff.2
      ⟨m.precedence, (AcceptEntry.precedence?_eq_some_iff isOf.media given).2 matched, ?_⟩⟩
    rw [Nat.zero_add, Option.some.inj (isOf.quality.symm.trans quality)]

/-- The winning match is the one of the greatest rank. -/
theorem winning?_eq_some_iff (each : List.Forall₂ AcceptEntry.IsOf entries accepted)
    (given : MediaType.IsOf candidate media) {m : AcceptMatch} :
    winning? accepted media = some m ↔ Wins entries candidate m := by
  have wins {m : AcceptMatch} (won : winning? accepted media = some m) :
      Wins entries candidate m := by
    obtain ⟨place, here, greatest⟩ := exists_place_of_firstBest yields_iff won
    obtain ⟨rfl, matched⟩ := (bind_eq_some_iff_matched each given).1 here
    refine ⟨matched, fun other matchedToo => ?_⟩
    exact greatest other.position other ((bind_eq_some_iff_matched each given).2 ⟨rfl, matchedToo⟩)
  refine ⟨wins, fun ⟨matched, greatest⟩ => ?_⟩
  cases won : winning? accepted media with
  | none =>
    have gives := (bind_eq_some_iff_matched each given).2 ⟨rfl, matched⟩
    rw [bind_eq_none_of_firstBest won] at gives
    cases gives
  | some n =>
    obtain ⟨matchedToo, greatestToo⟩ := wins won
    exact congrArg some
      (rank_injective (le_antisymm (greatest n matchedToo) (greatestToo m matched)))

end

end AcceptMatch

section Choice

variable {entries items : List HeaderItem} {accepted : List AcceptEntry} {candidates : List String}
  {media : List MediaType}

/-- What the candidate at a place brings along is what it offers. -/
theorem bind_eq_some_iff_offers (each : List.Forall₂ AcceptEntry.IsOf entries accepted)
    (given : List.Forall₂ MediaType.IsOf items media) {place : ℕ} {name : String} {m : AcceptMatch} :
    ((candidates.zip media)[place]?.bind fun (name, media) =>
        ((AcceptMatch.winning? accepted media).filter fun m => m.quality.isAcceptable).map (name, ·))
        = some (name, m)
      ↔ candidates[place]? = some name ∧ Offers entries items place m := by
  rw [Option.bind_eq_some_iff]
  constructor
  · rintro ⟨⟨name', type⟩, here, gives⟩
    obtain ⟨atName, atType⟩ := List.getElem?_zip_eq_some.1 here
    obtain ⟨m', kept, same⟩ := Option.map_eq_some_iff.1 gives
    obtain ⟨rfl, rfl⟩ := Prod.mk.inj same
    obtain ⟨won, acceptable⟩ := Option.filter_eq_some_iff.1 kept
    obtain ⟨item, atItem, isOf⟩ := Result.exists_getElem?_right given.flip atType
    exact ⟨atName, item, atItem, (AcceptMatch.winning?_eq_some_iff each isOf).1 won,
      of_decide_eq_true acceptable⟩
  · rintro ⟨atName, item, atItem, wins, acceptable⟩
    obtain ⟨type, atType, isOf⟩ := Result.exists_getElem?_right given atItem
    refine ⟨(name, type), List.getElem?_zip_eq_some.2 ⟨atName, atType⟩,
      Option.map_eq_some_iff.2 ⟨m, Option.filter_eq_some_iff.2 ⟨?_, ?_⟩, rfl⟩⟩
    · exact (AcceptMatch.winning?_eq_some_iff each isOf).2 wins
    · exact decide_eq_true acceptable

theorem exists_name_of_offers (length : candidates.length = items.length) {place : ℕ}
    {m : AcceptMatch} (offers : Offers entries items place m) :
    ∃ name, candidates[place]? = some name := by
  obtain ⟨item, atItem, -⟩ := offers
  have inside := (List.getElem?_eq_some_iff.1 atItem).1
  rw [← length] at inside
  exact ⟨candidates[place], List.getElem?_eq_getElem inside⟩

theorem Chosen.place_eq {place other : ℕ} (chosen : Chosen entries items place)
    (chosenToo : Chosen entries items other) : place = other := by
  obtain ⟨m, offers, greatest⟩ := chosen
  obtain ⟨n, offersToo, greatestToo⟩ := chosenToo
  exact AcceptMatch.place_of_preference_eq
    (le_antisymm (greatestToo place m offers) (greatest other n offersToo))

theorem chosen_of_preferredType (each : List.Forall₂ AcceptEntry.IsOf entries accepted)
    (given : List.Forall₂ MediaType.IsOf items media) (length : candidates.length = items.length)
    {name : String} (preferred : preferredType accepted (candidates.zip media) = some name) :
    ∃ place, Chosen entries items place ∧ candidates[place]? = some name := by
  obtain ⟨⟨_, m⟩, best, rfl⟩ := Option.map_eq_some_iff.1 preferred
  obtain ⟨place, here, greatest⟩ :=
    exists_place_of_firstBest (fun first second => AcceptMatch.isWorse_iff first.2 second.2) best
  obtain ⟨atName, offers⟩ := (bind_eq_some_iff_offers each given).1 here
  refine ⟨place, ⟨m, offers, fun other n offersToo => ?_⟩, atName⟩
  obtain ⟨otherName, atOther⟩ := exists_name_of_offers length offersToo
  exact greatest other (otherName, n) ((bind_eq_some_iff_offers each given).2 ⟨atOther, offersToo⟩)

theorem not_offers_of_preferredType (each : List.Forall₂ AcceptEntry.IsOf entries accepted)
    (given : List.Forall₂ MediaType.IsOf items media) (length : candidates.length = items.length)
    (missing : preferredType accepted (candidates.zip media) = none) (place : ℕ) (m : AcceptMatch) :
    ¬Offers entries items place m := by
  intro offers
  obtain ⟨name, atName⟩ := exists_name_of_offers length offers
  have gives := (bind_eq_some_iff_offers each given).2 ⟨atName, offers⟩
  rw [bind_eq_none_of_firstBest (Option.map_eq_none_iff.1 missing)] at gives
  cases gives

/-- The candidate that the entries prefer is the one that the ranking determines. -/
theorem preferredType_ranked (each : List.Forall₂ AcceptEntry.IsOf entries accepted)
    (given : List.Forall₂ MediaType.IsOf items media)
    (length : candidates.length = items.length) :
    Ranked entries items candidates (preferredType accepted (candidates.zip media)) where
  some_iff name := by
    refine ⟨chosen_of_preferredType each given length, fun ⟨place, chosen, atName⟩ => ?_⟩
    cases preferred : preferredType accepted (candidates.zip media) with
    | none =>
      obtain ⟨m, offers, -⟩ := chosen
      exact absurd offers (not_offers_of_preferredType each given length preferred place m)
    | some other =>
      obtain ⟨there, chosenToo, atOther⟩ := chosen_of_preferredType each given length preferred
      obtain rfl := chosen.place_eq chosenToo
      exact atOther.symm.trans atName
  none_iff := by
    refine ⟨not_offers_of_preferredType each given length, fun noOffer => ?_⟩
    cases preferred : preferredType accepted (candidates.zip media) with
    | none => rfl
    | some name =>
      obtain ⟨place, ⟨m, offers, -⟩, -⟩ := chosen_of_preferredType each given length preferred
      exact absurd offers (noOffer place m)

end Choice

/-- Of candidates that are media types, an `Accept` header that can be read selects the one that the
ranking of its entries determines. -/
theorem selectContentType_ranked (candidates : List String) (accept : String)
    (candidatesRead : ∀ name ∈ candidates, ∃ media, parseContentType name = .ok media)
    (acceptRead : ∃ accepted, parseAccept accept = .ok accepted) :
    ∃ entries items choice, parseListHeaderLower accept = .ok entries
      ∧ List.Forall₂ (fun name item => parseListHeaderLower name = .ok [item]) candidates items
      ∧ selectContentType candidates accept = .ok choice
      ∧ Ranked entries items candidates choice := by
  obtain ⟨accepted, acceptRead⟩ := acceptRead
  obtain ⟨entries, listed, each⟩ := AcceptEntry.exists_items_of_parseAccept acceptRead
  cases mediaRead : candidates.mapM parseContentType with
  | error problem =>
    obtain ⟨name, mem, failed⟩ := Result.exists_of_mapM_eq_error mediaRead
    obtain ⟨media, read⟩ := candidatesRead name mem
    cases failed.symm.trans read
  | ok media =>
    obtain ⟨items, named, given⟩ := Result.exists_between
      (fun _ _ read => exists_item_of_parseContentType read) (Result.mapM_eq_ok.1 mediaRead)
    refine ⟨entries, items, preferredType accepted (candidates.zip media), listed, named, ?_,
      preferredType_ranked each given named.length_eq⟩
    rw [selectContentType, acceptRead]
    exact congrArg (fun read => read >>= fun media =>
      .ok (preferredType accepted (candidates.zip media))) mediaRead

/-- YAML comes later than XML among the candidates and in the header, but its quality is higher. -/
theorem selectContentType_ranked_yaml :
    ∃ entries items, parseListHeaderLower "text/xml;q=0.5, text/yaml;q=0.9" = .ok entries
      ∧ List.Forall₂ (fun name item => parseListHeaderLower name = .ok [item])
        ["text/xml", "text/yaml"] items
      ∧ selectContentType ["text/xml", "text/yaml"] "text/xml;q=0.5, text/yaml;q=0.9"
        = .ok (some "text/yaml")
      ∧ Ranked entries items ["text/xml", "text/yaml"] (some "text/yaml") := by
  have xml : parseContentType "text/xml" = .ok ⟨"text", "xml", []⟩ :=
    Result.toOption_eq_some.1 (by decide +kernel)
  have yaml : parseContentType "text/yaml" = .ok ⟨"text", "yaml", []⟩ :=
    Result.toOption_eq_some.1 (by decide +kernel)
  have acceptRead : (parseAccept "text/xml;q=0.5, text/yaml;q=0.9").toOption.isSome = true := by
    decide +kernel
  have chosen :
      selectContentType ["text/xml", "text/yaml"] "text/xml;q=0.5, text/yaml;q=0.9"
        = .ok (some "text/yaml") :=
    Result.toOption_eq_some.1 (by decide +kernel)
  obtain ⟨accepted, read⟩ := Option.isSome_iff_exists.1 acceptRead
  obtain ⟨entries, items, choice, listed, named, selected, ranked⟩ :=
    selectContentType_ranked ["text/xml", "text/yaml"] "text/xml;q=0.5, text/yaml;q=0.9"
      (List.forall_mem_cons.2 ⟨⟨_, xml⟩, List.forall_mem_singleton.2 ⟨_, yaml⟩⟩)
      ⟨accepted, Result.toOption_eq_some.1 read⟩
  cases selected.symm.trans chosen
  exact ⟨entries, items, listed, named, chosen, ranked⟩

end RestService
