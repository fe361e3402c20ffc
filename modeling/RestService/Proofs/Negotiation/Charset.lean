import RestService.Proofs.Negotiation.Selection

set_option autoImplicit false

namespace RestService

/-- A charset, whose name is in lower case, has a quality by the items of a header. -/
inductive CharsetQuality (items : List HeaderItem) (charset : String) : Quality → Prop
  | named {item : HeaderItem} {q : Quality}
      (first : items.find? (fun item => item.value == charset) = some item)
      (told : item.quality? = some q) : CharsetQuality items charset q
  | latin1 (unnamed : ∀ item ∈ items, item.value ≠ charset) (same : charset = "iso-8859-1") :
      CharsetQuality items charset Quality.full
  | star {item : HeaderItem} {q : Quality} (unnamed : ∀ item ∈ items, item.value ≠ charset)
      (other : charset ≠ "iso-8859-1")
      (first : items.find? (fun item => item.value == "*") = some item)
      (told : item.quality? = some q) : CharsetQuality items charset q

section Ranking

variable (items : List HeaderItem) (candidates : List String)

/-- The candidate at a place is acceptable, with a quality. -/
def CharsetOffered (place : ℕ) (q : Quality) : Prop :=
  ∃ name, candidates[place]? = some name ∧ CharsetQuality items (Text.lower name) q ∧ 0 < q

/-- The candidate at a place is acceptable, and all others are wanted less, or as much and later. -/
def CharsetChosen (place : ℕ) : Prop :=
  ∃ q, CharsetOffered items candidates place q
    ∧ ∀ other q', CharsetOffered items candidates other q' → q' < q ∨ q' = q ∧ place ≤ other

/-- A choice among candidates is the one that the qualities determine. -/
structure CharsetRanked (choice : Option String) : Prop where
  some_iff : ∀ name, choice = some name
    ↔ ∃ place, CharsetChosen items candidates place ∧ candidates[place]? = some name
  none_iff : choice = none ↔ ∀ place q, ¬CharsetOffered items candidates place q

end Ranking

section Reading

/-- An entry of an `Accept-Charset` header has the name and the quality of an item. -/
def IsCharsetEntry (item : HeaderItem) (entry : String × Quality) : Prop :=
  entry.1 = item.value ∧ item.quality? = some entry.2

/-- The header that the entries make, its stars set apart from the names. -/
def AcceptedCharsets.ofEntries (entries : List (String × Quality)) : AcceptedCharsets :=
  ⟨Dict.erase entries "*", Dict.get? entries "*"⟩

theorem Quality.ofItem_eq_ok_iff {header : String} {item : HeaderItem} {q : Quality} :
    Quality.ofItem header item = .ok q ↔ item.quality? = some q := by
  refine ⟨AcceptEntry.quality?_of_ofItem, fun told => ?_⟩
  rw [HeaderItem.quality?] at told
  rw [Quality.ofItem]
  cases param : item.param? "q" with
  | none =>
    simp only [param] at told
    rw [Option.some.inj told]
  | some text =>
    simp only [param] at told
    simp only [told]

/-- The entries are read item by item, and the stars set apart. -/
theorem parseAcceptCharset_eq_ok_iff {accept : String} {accepted : AcceptedCharsets} :
    parseAcceptCharset accept = .ok accepted
      ↔ ∃ items entries, parseListHeaderLower accept = .ok items
        ∧ List.Forall₂ IsCharsetEntry items entries
        ∧ accepted = AcceptedCharsets.ofEntries entries := by
  have entry_iff (item : HeaderItem) (entry : String × Quality) :
      (do return (item.value, ← Quality.ofItem accept item) : Except SourceError _) = .ok entry
        ↔ IsCharsetEntry item entry := by
    rw [Result.bind_eq_ok]
    constructor
    · rintro ⟨q, read, made⟩
      cases made
      exact ⟨rfl, Quality.ofItem_eq_ok_iff.1 read⟩
    · intro ⟨name, told⟩
      refine ⟨entry.2, Quality.ofItem_eq_ok_iff.2 told, ?_⟩
      rw [← name]
      rfl
  rw [parseAcceptCharset, Result.bind_eq_ok]
  refine exists_congr fun items => ?_
  rw [Result.bind_eq_ok]
  constructor
  · rintro ⟨listed, entries, read, made⟩
    refine ⟨entries, listed, ?_, (Except.ok.inj made).symm⟩
    exact (Result.mapM_eq_ok.1 read).imp fun item entry => (entry_iff item entry).1
  · rintro ⟨entries, listed, each, rfl⟩
    refine ⟨listed, entries, Result.mapM_eq_ok.2 ?_, rfl⟩
    exact each.imp fun item entry => (entry_iff item entry).2

/-- A header that lists items can be read if each of these has a quality. -/
theorem exists_parseAcceptCharset {accept : String} {items : List HeaderItem}
    (listed : parseListHeaderLower accept = .ok items)
    (told : ∀ item ∈ items, ∃ q, item.quality? = some q) :
    ∃ accepted, parseAcceptCharset accept = .ok accepted := by
  have each : ∀ item ∈ items, ∃ entry, IsCharsetEntry item entry := by
    intro item mem
    obtain ⟨q, told⟩ := told item mem
    exact ⟨(item.value, q), rfl, told⟩
  obtain ⟨entries, all⟩ := Result.exists_forall₂ each
  exact ⟨_, parseAcceptCharset_eq_ok_iff.2 ⟨items, entries, listed, all, rfl⟩⟩

variable {items : List HeaderItem} {entries : List (String × Quality)}

/-- The quality under a name is that of the first item with the name. -/
theorem get?_eq_some_iff_find? (each : List.Forall₂ IsCharsetEntry items entries) {value : String}
    {q : Quality} : Dict.get? entries value = some q
      ↔ ∃ item, items.find? (fun item => item.value == value) = some item
        ∧ item.quality? = some q := by
  induction each with
  | nil => simp
  | @cons item entry _ _ here _ ih =>
    obtain ⟨name, q'⟩ := entry
    obtain ⟨rfl, told⟩ := here
    by_cases same : value = item.value
    · simp [Dict.get?_cons, same, told]
    · have other : (item.value == value) = false := beq_false_of_ne (Ne.symm same)
      rw [Dict.get?_cons, if_neg same, List.find?_cons_of_neg (by simp [other]), ih]

theorem get?_eq_none_iff_forall_ne (each : List.Forall₂ IsCharsetEntry items entries)
    {value : String} : Dict.get? entries value = none ↔ ∀ item ∈ items, item.value ≠ value := by
  have keys : Dict.keys entries = items.map HeaderItem.value := by
    induction each with
    | nil => rfl
    | cons here _ ih => rw [Dict.keys, List.map_cons, List.map_cons, here.1, ← ih, Dict.keys]
  rw [Dict.get?_eq_none_iff, keys]
  simp

/-- A star among the candidates finds the stars, although they are set apart. -/
theorem quality?_ofEntries (entries : List (String × Quality)) (charset : String) :
    (AcceptedCharsets.ofEntries entries).quality? charset = (Dict.get? entries charset).or
      (if charset = "iso-8859-1" then some Quality.full else Dict.get? entries "*") := by
  have named : (AcceptedCharsets.ofEntries entries).named.lookup charset
      = if charset = "*" then none else Dict.get? entries charset :=
    Dict.get?_erase entries "*" charset
  unfold AcceptedCharsets.quality?
  simp only [named]
  by_cases star : charset = "*"
  · simp [star, AcceptedCharsets.ofEntries]
  · simp only [if_neg star]
    cases Dict.get? entries charset <;> rfl

/-- What the entries say of a charset is what the items say. -/
theorem quality?_ofEntries_eq_some_iff (each : List.Forall₂ IsCharsetEntry items entries)
    {charset : String} {q : Quality} :
    (AcceptedCharsets.ofEntries entries).quality? charset = some q
      ↔ CharsetQuality items charset q := by
  rw [quality?_ofEntries]
  cases found : Dict.get? entries charset with
  | some q' =>
    obtain ⟨item, first, told⟩ := (get?_eq_some_iff_find? each).1 found
    have named : ¬∀ item ∈ items, item.value ≠ charset := fun unnamed =>
      unnamed item (List.mem_of_find?_eq_some first) (by simpa using List.find?_some first)
    rw [Option.some_or]
    constructor
    · rintro ⟨⟩
      exact .named first told
    · rintro (⟨firstToo, toldToo⟩ | ⟨unnamed, -⟩ | ⟨unnamed, -, -, -⟩)
      · cases first.symm.trans firstToo
        exact told.symm.trans toldToo
      · exact absurd unnamed named
      · exact absurd unnamed named
  | none =>
    have unnamed := (get?_eq_none_iff_forall_ne each).1 found
    have absent : items.find? (fun item => item.value == charset) = none := by
      simpa using unnamed
    rw [Option.none_or]
    by_cases latin1 : charset = "iso-8859-1"
    · rw [if_pos latin1]
      constructor
      · rintro ⟨⟩
        exact .latin1 unnamed latin1
      · rintro (⟨first, -⟩ | ⟨-, -⟩ | ⟨-, other, -, -⟩)
        · cases absent.symm.trans first
        · rfl
        · exact absurd latin1 other
    · rw [if_neg latin1, get?_eq_some_iff_find? each]
      constructor
      · rintro ⟨item, first, told⟩
        exact .star unnamed latin1 first told
      · rintro (⟨first, -⟩ | ⟨-, same⟩ | ⟨-, -, first, told⟩)
        · cases absent.symm.trans first
        · exact absurd same latin1
        · exact ⟨_, first, told⟩

end Reading

section Choice

variable {items : List HeaderItem} {candidates : List String}

/-- No two places are both chosen. -/
theorem CharsetChosen.place_eq {place other : ℕ} (chosen : CharsetChosen items candidates place)
    (chosenToo : CharsetChosen items candidates other) : place = other := by
  obtain ⟨q, offered, greatest⟩ := chosen
  obtain ⟨q', offeredToo, greatestToo⟩ := chosenToo
  rcases greatest other q' offeredToo with less | ⟨rfl, notLater⟩
  · rcases greatestToo place q offered with lessToo | ⟨rfl, -⟩
    · exact absurd less (Nat.lt_asymm lessToo)
    · exact absurd less (Nat.lt_irrefl q)
  · rcases greatestToo place q' offered with lessToo | ⟨-, notEarlier⟩
    · exact absurd lessToo (Nat.lt_irrefl q')
    · exact Nat.le_antisymm notLater notEarlier

/-- The qualities determine one choice. -/
theorem CharsetRanked.unique {choice other : Option String}
    (ranked : CharsetRanked items candidates choice)
    (rankedToo : CharsetRanked items candidates other) : choice = other := by
  apply Option.ext
  intro name
  rw [ranked.some_iff, rankedToo.some_iff]

/-- What a candidate brings along: its name and its quality, if that is acceptable. -/
def AcceptedCharsets.offer? (accepted : AcceptedCharsets) (name : String) :
    Option (String × Quality) :=
  ((accepted.quality? (Text.lower name)).filter Quality.isAcceptable).map (name, ·)

variable {accepted : AcceptedCharsets}

/-- What the candidate at a place brings along is what it offers. -/
theorem bind_eq_some_iff_charsetOffered (quality_iff : ∀ charset q,
      accepted.quality? charset = some q ↔ CharsetQuality items charset q)
    {place : ℕ} {name : String} {q : Quality} :
    candidates[place]?.bind accepted.offer? = some (name, q)
      ↔ candidates[place]? = some name ∧ CharsetOffered items candidates place q := by
  simp only [AcceptedCharsets.offer?, Option.bind_eq_some_iff, Option.map_eq_some_iff,
    Option.filter_eq_some_iff, quality_iff, Quality.isAcceptable, decide_eq_true_eq,
    Prod.mk.injEq]
  constructor
  · rintro ⟨_, here, _, acceptable, rfl, rfl⟩
    exact ⟨here, _, here, acceptable⟩
  · rintro ⟨here, name', there, acceptable⟩
    cases here.symm.trans there
    exact ⟨name, here, q, acceptable, rfl, rfl⟩

/-- The first best of the acceptable candidates is the one that the qualities determine. -/
theorem charsetRanked_firstBest (quality_iff : ∀ charset q,
      accepted.quality? charset = some q ↔ CharsetQuality items charset q) :
    CharsetRanked items candidates ((firstBest (fun first second => first.2 < second.2)
      (candidates.filterMap accepted.offer?)).map Prod.fst) := by
  have brings {place : ℕ} {q : Quality} (offered : CharsetOffered items candidates place q) :
      ∃ name, candidates[place]?.bind accepted.offer? = some (name, q) := by
    obtain ⟨name, here, -⟩ := id offered
    exact ⟨name, (bind_eq_some_iff_charsetOffered quality_iff).2 ⟨here, offered⟩⟩
  generalize won : firstBest (fun first second : String × Quality => decide (first.2 < second.2)) _
    = best?
  cases best? with
  | none =>
    have nothing (place : ℕ) (q : Quality) : ¬CharsetOffered items candidates place q := by
      intro offered
      obtain ⟨name, gives⟩ := brings offered
      rw [bind_eq_none_of_firstBest won place] at gives
      cases gives
    refine ⟨fun name => ?_, ?_⟩
    · simp only [Option.map_none, reduceCtorEq, false_iff, not_exists, not_and]
      rintro place ⟨q, offered, -⟩
      exact absurd offered (nothing place q)
    · simp only [Option.map_none, true_iff]
      exact nothing
  | some best =>
    obtain ⟨name, q⟩ := best
    have exceeds : ∀ first second : String × Quality,
        decide (first.2 < second.2) = true ↔ Prod.snd first < Prod.snd second :=
      fun _ _ => decide_eq_true_iff
    obtain ⟨place, here, greatest⟩ := exists_place_of_firstBest exceeds won
    obtain ⟨atName, offered⟩ := (bind_eq_some_iff_charsetOffered quality_iff).1 here
    have chosen : CharsetChosen items candidates place := by
      refine ⟨q, offered, fun other q' offeredToo => ?_⟩
      obtain ⟨name', gives⟩ := brings offeredToo
      simpa [Prod.Lex.toLex_le_toLex] using greatest other (name', q') gives
    refine ⟨fun name' => ?_, ?_⟩
    · simp only [Option.map_some, Option.some.injEq]
      constructor
      · rintro rfl
        exact ⟨place, chosen, atName⟩
      · rintro ⟨other, chosenToo, atOther⟩
        obtain rfl := chosen.place_eq chosenToo
        exact Option.some.inj (atName.symm.trans atOther)
    · simp only [Option.map_some, reduceCtorEq, false_iff]
      intro nothing
      exact nothing place q offered

end Choice

section Reordering

variable {items others : List HeaderItem}

/-- Where no name comes twice, the first item with a name is any item with it. -/
theorem find?_eq_some_iff_mem (nodup : (items.map HeaderItem.value).Nodup) {value : String}
    {item : HeaderItem} : items.find? (fun item => item.value == value) = some item
      ↔ item ∈ items ∧ item.value = value := by
  constructor
  · intro first
    exact ⟨List.mem_of_find?_eq_some first, by simpa using List.find?_some first⟩
  · rintro ⟨mem, rfl⟩
    obtain ⟨before, after, rfl⟩ := List.append_of_mem mem
    rw [List.find?_eq_some_iff_append]
    refine ⟨by simp, before, after, rfl, fun other earlier => ?_⟩
    rw [List.map_append, List.nodup_append] at nodup
    have apart := nodup.2.2 other.value (List.mem_map_of_mem earlier) item.value (by simp)
    simpa using apart

theorem CharsetQuality.of_perm (perm : items.Perm others)
    (nodup : (items.map HeaderItem.value).Nodup) {charset : String} {q : Quality}
    (quality : CharsetQuality items charset q) : CharsetQuality others charset q := by
  have nodup' : (others.map HeaderItem.value).Nodup := (perm.map HeaderItem.value).nodup_iff.1 nodup
  have same {value : String} {item : HeaderItem}
      (first : items.find? (fun item => item.value == value) = some item) :
      others.find? (fun item => item.value == value) = some item := by
    rw [find?_eq_some_iff_mem nodup] at first
    rw [find?_eq_some_iff_mem nodup', ← perm.mem_iff]
    exact first
  have still (unnamed : ∀ item ∈ items, item.value ≠ charset) :
      ∀ item ∈ others, item.value ≠ charset := by
    intro item mem
    exact unnamed item (perm.mem_iff.2 mem)
  cases quality with
  | named first told => exact .named (same first) told
  | latin1 unnamed isLatin1 => exact .latin1 (still unnamed) isLatin1
  | star unnamed other first told => exact .star (still unnamed) other (same first) told

/-- Where no name comes twice, the order of the items does not matter to any charset. -/
theorem CharsetRanked.of_perm (perm : items.Perm others)
    (nodup : (items.map HeaderItem.value).Nodup) {candidates : List String} {choice : Option String}
    (ranked : CharsetRanked others candidates choice) : CharsetRanked items candidates choice := by
  have nodup' : (others.map HeaderItem.value).Nodup := (perm.map HeaderItem.value).nodup_iff.1 nodup
  have same : CharsetQuality items = CharsetQuality others := by
    funext charset q
    exact propext ⟨.of_perm perm nodup, .of_perm perm.symm nodup'⟩
  have offered : CharsetOffered items candidates = CharsetOffered others candidates := by
    funext place q
    rw [CharsetOffered, CharsetOffered, same]
  have chosen : CharsetChosen items candidates = CharsetChosen others candidates := by
    funext place
    rw [CharsetChosen, CharsetChosen, offered]
  refine ⟨fun name => ?_, ?_⟩
  · rw [chosen]
    exact ranked.some_iff name
  · rw [offered]
    exact ranked.none_iff

end Reordering

/-- A header that can be read selects a charset by its items. -/
theorem exists_selectCharset {accept : String} (candidates : List String)
    (acceptRead : ∃ accepted, parseAcceptCharset accept = .ok accepted) :
    ∃ items choice, parseListHeaderLower accept = .ok items
      ∧ (∀ item ∈ items, ∃ q, item.quality? = some q)
      ∧ selectCharset candidates accept = .ok choice ∧ CharsetRanked items candidates choice := by
  obtain ⟨accepted, read⟩ := acceptRead
  obtain ⟨items, entries, listed, each, rfl⟩ := parseAcceptCharset_eq_ok_iff.1 read
  refine ⟨items, _, listed, fun item mem => ?_, ?_, charsetRanked_firstBest fun _ _ =>
    quality?_ofEntries_eq_some_iff each⟩
  · obtain ⟨entry, -, -, told⟩ := Result.exists_of_mem_left each mem
    exact ⟨entry.2, told⟩
  · rw [selectCharset, read]
    rfl

/-- An `Accept-Charset` header that can be read selects the candidate that the qualities of its
items determine. Another order of the items selects the same one if no name, in lower case, comes
twice. -/
theorem selectCharset_ranked (candidates : List String) (accept : String)
    (acceptRead : ∃ accepted, parseAcceptCharset accept = .ok accepted) :
    ∃ items choice, parseListHeaderLower accept = .ok items
      ∧ selectCharset candidates accept = .ok choice ∧ CharsetRanked items candidates choice
      ∧ ∀ other reordered, parseListHeaderLower other = .ok reordered → items.Perm reordered →
        (items.map HeaderItem.value).Nodup → selectCharset candidates other = .ok choice := by
  obtain ⟨items, choice, listed, told, selected, ranked⟩ :=
    exists_selectCharset candidates acceptRead
  refine ⟨items, choice, listed, selected, ranked, ?_⟩
  intro other reordered otherListed perm nodup
  have otherRead := exists_parseAcceptCharset otherListed
    fun item mem => told item (perm.mem_iff.2 mem)
  obtain ⟨items', choice', listed', -, selected', ranked'⟩ :=
    exists_selectCharset candidates otherRead
  cases otherListed.symm.trans listed'
  rw [selected', ranked.unique (ranked'.of_perm perm nodup)]

/-- The star speaks for KOI8-R, in whatever place; UTF-8 is refused, and UTF-16 comes later. -/
theorem selectCharset_ranked_koi8 :
    ∃ items, parseListHeaderLower "*;q=0.8, UTF-8;q=0" = .ok items
      ∧ selectCharset ["utf-8", "KOI8-R", "utf-16"] "*;q=0.8, UTF-8;q=0" = .ok (some "KOI8-R")
      ∧ CharsetRanked items ["utf-8", "KOI8-R", "utf-16"] (some "KOI8-R")
      ∧ selectCharset ["utf-8", "KOI8-R", "utf-16"] "utf-8;q=0,*;q=0.8" = .ok (some "KOI8-R") := by
  have read : (parseAcceptCharset "*;q=0.8, UTF-8;q=0").toOption.isSome = true := by decide +kernel
  have listed : parseListHeaderLower "*;q=0.8, UTF-8;q=0"
      = .ok [⟨"*", [("q", "0.8")]⟩, ⟨"utf-8", [("q", "0")]⟩] :=
    Result.toOption_eq_some.1 (by decide +kernel)
  have reordered : parseListHeaderLower "utf-8;q=0,*;q=0.8"
      = .ok [⟨"utf-8", [("q", "0")]⟩, ⟨"*", [("q", "0.8")]⟩] :=
    Result.toOption_eq_some.1 (by decide +kernel)
  have chosen :
      selectCharset ["utf-8", "KOI8-R", "utf-16"] "*;q=0.8, UTF-8;q=0" = .ok (some "KOI8-R") :=
    Result.toOption_eq_some.1 (by decide +kernel)
  obtain ⟨accepted, acceptRead⟩ := Option.isSome_iff_exists.1 read
  obtain ⟨items, choice, listed', selected, ranked, order⟩ :=
    selectCharset_ranked ["utf-8", "KOI8-R", "utf-16"] "*;q=0.8, UTF-8;q=0"
      ⟨accepted, Result.toOption_eq_some.1 acceptRead⟩
  cases listed.symm.trans listed'
  cases selected.symm.trans chosen
  exact ⟨_, listed, chosen, ranked, order _ _ reordered (.swap _ _ []) (by decide)⟩

end RestService
