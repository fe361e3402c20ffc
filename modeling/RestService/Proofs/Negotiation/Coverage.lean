import RestService.Proofs.Negotiation.Selection

set_option autoImplicit false

namespace RestService

namespace HeaderItem

/-- A candidate has all that an entry asks for: its type and its subtype, unless these are stars,
and each of its options with the same value. -/
structure Covers (entry candidate : HeaderItem) : Prop where
  names : ∃ kind subtype given givenSubtype, entry.names? = some (kind, subtype)
    ∧ candidate.names? = some (given, givenSubtype) ∧ (kind = "*" ∨ kind = given)
    ∧ (subtype = "*" ∨ subtype = givenSubtype)
  options : ∀ name value, name ≠ "q" → entry.lastParam? name = some value →
    candidate.lastParam? name = some value

/-- Nothing is asked for beside a star: the subtype of any type is any subtype, and there are no
options. -/
structure IsPlain (entry : HeaderItem) : Prop where
  subtype : ∀ subtype, entry.names? = some ("*", subtype) → subtype = "*"
  options : ∀ kind, entry.names? = some (kind, "*") → entry.optionNames = []

theorem mem_optionNames_of_lastParam? {entry : HeaderItem} {name value : String}
    (other : name ≠ "q") (told : entry.lastParam? name = some value) : name ∈ entry.optionNames := by
  have mem : (name, value) ∈ entry.params := List.mem_reverse.1 (Dict.mem_of_get? told)
  refine List.mem_filter.2 ⟨List.mem_dedup.2 (List.mem_map.2 ⟨_, mem, rfl⟩), ?_⟩
  exact bne_iff_ne.2 other

/-- An entry that asks for nothing beside a star covers what it matches. -/
theorem IsPlain.covers {entry candidate : HeaderItem} {kind subtype : String} {precedence : Nat}
    (plain : entry.IsPlain) (given : candidate.names? = some (kind, subtype))
    (matched : entry.Matches candidate precedence) : entry.Covers candidate := by
  have bare {any : String} (named : entry.names? = some (any, "*")) (name value : String)
      (other : name ≠ "q") (told : entry.lastParam? name = some value) :
      candidate.lastParam? name = some value := by
    have mem := mem_optionNames_of_lastParam? other told
    rw [plain.options any named] at mem
    exact absurd mem List.not_mem_nil
  cases matched with
  | @anyType any named =>
    obtain rfl := plain.subtype any named
    exact ⟨⟨_, _, kind, subtype, named, given, .inl rfl, .inl rfl⟩, bare named⟩
  | anySubtype named _ same =>
    exact ⟨⟨_, _, _, _, named, same, .inr rfl, .inl rfl⟩, bare named⟩
  | full named _ _ same options =>
    refine ⟨⟨_, _, _, _, named, same, .inr rfl, .inr rfl⟩, fun name value other told => ?_⟩
    rw [options name (mem_optionNames_of_lastParam? other told), told]

end HeaderItem

/-- Some entry of an `Accept` header is acceptable and stands in a relation to a media type. -/
def Accepts (related : HeaderItem → HeaderItem → Prop) (accept name : String) : Prop :=
  ∃ entries item entry quality, parseListHeaderLower accept = .ok entries
    ∧ parseListHeaderLower name = .ok [item] ∧ entry ∈ entries
    ∧ entry.quality? = some quality ∧ 0 < quality ∧ related entry item

theorem names?_of_parseContentType {name : String} {media : MediaType} {item : HeaderItem}
    (read : parseContentType name = .ok media) (listed : parseListHeaderLower name = .ok [item]) :
    item.names? = some (media.kind, media.subtype) := by
  obtain ⟨_, listed', isOf⟩ := exists_item_of_parseContentType read
  cases listed.symm.trans listed'
  exact isOf.names

/-- A media type is only selected if an acceptable entry of the header matches it; and the entry
asks for nothing that it does not have, or what it asks for stands beside a star. -/
theorem selectContentType_covers (candidates : List String) (accept name : String)
    (selected : selectContentType candidates accept = .ok (some name)) :
    name ∈ candidates ∧ Accepts (fun entry item => (∃ precedence, entry.Matches item precedence)
      ∧ (entry.IsPlain → entry.Covers item)) accept name := by
  obtain ⟨accepted, acceptRead, more⟩ := Result.bind_eq_ok.1 selected
  obtain ⟨media, mediaRead, chosen⟩ := Result.bind_eq_ok.1 more
  obtain ⟨entries, listed, each⟩ := AcceptEntry.exists_items_of_parseAccept acceptRead
  have each' := Result.mapM_eq_ok.1 mediaRead
  obtain ⟨items, named, given⟩ :=
    Result.exists_between (fun _ _ read => exists_item_of_parseContentType read) each'
  obtain ⟨place, ⟨m, ⟨item, atItem, wins, acceptable⟩, -⟩, atName⟩ :=
    chosen_of_preferredType each given named.length_eq (Except.ok.inj chosen)
  obtain ⟨entry, atEntry, matched, quality⟩ := wins.1
  obtain ⟨item', atItem', read⟩ := Result.exists_getElem?_right named atName
  cases atItem.symm.trans atItem'
  obtain ⟨type, -, typeRead⟩ := Result.exists_getElem?_right each' atName
  refine ⟨List.mem_of_getElem? atName, entries, item, entry, m.quality, listed, read,
    List.mem_of_getElem? atEntry, quality, acceptable, ⟨_, matched⟩, fun plain => ?_⟩
  exact plain.covers (names?_of_parseContentType typeRead read) matched

/-- The entry for any text is the one that speaks for XML, and it asks for nothing else. -/
theorem selectContentType_covers_xml :
    selectContentType ["text/xml", "application/json"] "application/json;q=0.5, text/*"
        = .ok (some "text/xml")
      ∧ "text/xml" ∈ ["text/xml", "application/json"]
      ∧ Accepts (fun entry item => (∃ precedence, entry.Matches item precedence)
        ∧ (entry.IsPlain → entry.Covers item)) "application/json;q=0.5, text/*" "text/xml" := by
  have selected : selectContentType ["text/xml", "application/json"]
      "application/json;q=0.5, text/*" = .ok (some "text/xml") :=
    Result.toOption_eq_some.1 (by decide +kernel)
  exact ⟨selected, selectContentType_covers _ _ _ selected⟩

/-- An option beside a star is not looked at: a header that asks for texts of level 1 gets a text
without a level. -/
theorem exists_selected_not_covered :
    selectContentType ["text/xml"] "text/*;level=1" = .ok (some "text/xml")
      ∧ ¬Accepts HeaderItem.Covers "text/*;level=1" "text/xml" := by
  refine ⟨Result.toOption_eq_some.1 (by decide +kernel), ?_⟩
  rintro ⟨entries, item, entry, quality, listed, read, mem, -, -, covers⟩
  have listed' : parseListHeaderLower "text/*;level=1" = .ok [⟨"text/*", [("level", "1")]⟩] :=
    Result.toOption_eq_some.1 (by decide +kernel)
  have read' : parseListHeaderLower "text/xml" = .ok [⟨"text/xml", []⟩] :=
    Result.toOption_eq_some.1 (by decide +kernel)
  cases listed.symm.trans listed'
  cases read.symm.trans read'
  cases List.mem_singleton.1 mem
  have level := covers.options "level" "1" (by decide) rfl
  cases level

end RestService
