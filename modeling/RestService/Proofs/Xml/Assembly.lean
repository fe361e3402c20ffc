import RestService.Proofs.Xml.Scan
import RestService.Xml.Reader

set_option autoImplicit false

namespace RestService.XmlElement

open XmlEvent (Tight trimSpaces textEvents)

mutual

/-- An element as its document tells it: a text without the spaces at its ends, and no text beside
elements. -/
def trimmed : XmlElement → XmlElement
  | node name text [] => node name (String.ofList (trimSpaces text.toList)) []
  | node name _ (child :: children) => node name "" (trimmed child :: trimmedAll children)

def trimmedAll : List XmlElement → List XmlElement
  | [] => []
  | child :: children => trimmed child :: trimmedAll children

end

theorem trimmed_parent {children : List XmlElement} (some : children ≠ []) (name text : String) :
    trimmed (node name text children) = node name "" (trimmedAll children) := by
  cases children with
  | nil => exact absurd rfl some
  | cons child children => rw [trimmed, trimmedAll]

theorem foldlM_eventsAll {children : List XmlElement}
    (each : ∀ child ∈ children, ∀ a : Assembly,
      (events child).foldlM Assembly.step a = a.attach (trimmed child))
    (a : Assembly) (name text : String) (before : List XmlElement) (outer : List XmlElement) :
    (eventsAll children).foldlM Assembly.step { a with opened := node name text before :: outer } =
      .ok { a with opened := node name text (before ++ trimmedAll children) :: outer } := by
  induction children generalizing before with
  | nil =>
    rw [eventsAll, trimmedAll, List.append_nil]
    rfl
  | cons child children ih =>
    obtain ⟨here, later⟩ := List.forall_mem_cons.1 each
    have step : Assembly.attach { a with opened := node name text before :: outer } (trimmed child)
        = .ok { a with opened := node name text (before ++ [trimmed child]) :: outer } := rfl
    rw [eventsAll, trimmedAll, List.foldlM_append, here, step]
    have rest := ih later (before ++ [trimmed child])
    rw [List.append_assoc, List.singleton_append] at rest
    exact rest

/-- A text that has been read is put into its element. -/
theorem foldlM_textEvents (a : Assembly) (name : String) (chars : List Char) :
    (textEvents chars).foldlM Assembly.step { a with opened := node name "" [] :: a.opened }
      = .ok { a with
          opened := node name (String.ofList (trimSpaces chars)) [] :: a.opened } := by
  unfold textEvents
  by_cases none : trimSpaces chars = []
  · rw [if_pos none, none]
    rfl
  · have filled : (Assembly.mk (node name "" [] :: a.opened) a.root?).step
        (.text (String.ofList (trimSpaces chars)))
        = .ok { a with opened := node name (String.ofList (trimSpaces chars)) [] :: a.opened } := by
      rw [← String.empty_append (s := String.ofList (trimSpaces chars))]
      rfl
    rw [if_neg none]
    exact (bind_pure _).trans filled

/-- What an element says puts it together. -/
theorem foldlM_events {element : XmlElement} (legible : Legible element) (a : Assembly) :
    (events element).foldlM Assembly.step a = a.attach (trimmed element) := by
  induction legible generalizing a with
  | @empty name fits some =>
    rw [events, if_pos rfl, trimmed]
    exact bind_pure (a.attach (node name "" []))
  | @leaf name text opens some =>
    have closing : (Assembly.mk (node name (String.ofList (trimSpaces text.toList)) [] :: a.opened)
        a.root?).step (.close name) = a.attach (trimmed (node name text [])) := by
      rw [trimmed]
      exact if_pos rfl
    rw [events, if_neg some, List.foldlM_cons]
    change (textEvents text.toList ++ [XmlEvent.close name]).foldlM Assembly.step _ = _
    rw [List.foldlM_append, foldlM_textEvents]
    exact (bind_pure _).trans closing
  | @parent name text children opens some each ih =>
    have inner := foldlM_eventsAll ih a name "" [] a.opened
    have closing : (Assembly.mk (node name "" (trimmedAll children) :: a.opened) a.root?).step
        (.close name) = a.attach (trimmed (node name text children)) := by
      rw [trimmed_parent some]
      exact if_pos rfl
    rw [events_parent some, List.foldlM_cons]
    change (eventsAll children ++ [XmlEvent.close name]).foldlM Assembly.step _ = _
    rw [List.foldlM_append, inner]
    exact (bind_pure _).trans closing

/-- A document that has been written is read as its root. -/
theorem read_write {root : XmlElement} (legible : Legible root) {charset : String}
    (inside : '>' ∉ charset.toList) : read (write charset root) = .ok (trimmed root) := by
  have put : (events root).foldlM Assembly.step {} = .ok { root? := some (trimmed root) } :=
    foldlM_events legible {}
  rw [read, scanDocument_write legible inside]
  simp only [put]
  rfl

/-- Elements with plain names, each of which is a text with no space at its ends or holds nothing
but elements. -/
inductive Clean : XmlElement → Prop
  | leaf {name text : String} (plain : isPlainName name = true) (tight : Tight text.toList) :
    Clean (node name text [])
  | parent {name : String} {children : List XmlElement} (plain : isPlainName name = true)
    (some : children ≠ []) (each : ∀ child ∈ children, Clean child) :
    Clean (node name "" children)

theorem Clean.legible {element : XmlElement} (clean : Clean element) : Legible element := by
  induction clean with
  | @leaf name text plain tight =>
    have opens := opens_of_isPlainName plain
    by_cases empty : text = ""
    · rw [empty]
      exact .empty opens.toFits (ne_empty_of_isPlainName plain)
    · exact .leaf opens empty
  | parent plain some each ih => exact .parent (opens_of_isPlainName plain) some ih

theorem Clean.trimmed_eq {element : XmlElement} (clean : Clean element) :
    trimmed element = element := by
  induction clean with
  | leaf plain tight => rw [trimmed, tight.trimSpaces_eq, String.ofList_toList]
  | @parent name children plain some each ih =>
    have all : trimmedAll children = children := by
      clear some each
      induction children with
      | nil => rfl
      | cons child children rest =>
        obtain ⟨here, later⟩ := List.forall_mem_cons.1 ih
        rw [trimmedAll, here, rest later]
    rw [trimmed_parent some, all]

end RestService.XmlElement
