import RestService.Negotiation.MediaType
import RestService.Negotiation.Quality

set_option autoImplicit false

namespace RestService

/-- The first item that no other exceeds; `less a b` says that `b` exceeds `a`. -/
def firstBest {α : Type} (less : α → α → Bool) : List α → Option α
  | [] => none
  | x :: xs => some (xs.foldl (fun best y => if less best y then y else best) x)

@[simp] theorem firstBest_nil {α : Type} (less : α → α → Bool) : firstBest less [] = none := rfl

/-- One entry of an `Accept` header. -/
structure AcceptEntry where
  media : MediaType
  quality : Quality

namespace AcceptEntry

/-- The parameters that a candidate must have, which are all but the quality. -/
def options (e : AcceptEntry) : Dict String := e.media.params.filter fun option => option.1 != "q"

/-- How specific the entry is for a candidate, if it covers it: 0 for any type, 1 for any subtype,
and 2 and the number of its options for a full match. -/
def precedence? (e : AcceptEntry) (candidate : MediaType) : Option Nat :=
  if e.media.kind = "*" then some 0
  else if e.media.kind ≠ candidate.kind then none
  else if e.media.subtype = "*" then some 1
  else if e.media.subtype ≠ candidate.subtype then none
  else if e.options.all fun option => candidate.params.get? option.1 == some option.2 then
    some (2 + e.options.length)
  else none

end AcceptEntry

def parseAccept (header : String) : Except SourceError (List AcceptEntry) := do
  let items ← parseListHeaderLower header
  items.mapM fun item => do
    let quality ← Quality.ofItem header item
    let media ← MediaType.ofItem header item
    return ⟨media, quality⟩

/-- What an entry says for a candidate. -/
structure AcceptMatch where
  precedence : Nat
  quality : Quality
  /-- The place of the entry in its header. -/
  position : Nat
  deriving DecidableEq, Repr

namespace AcceptMatch

def yields (first second : AcceptMatch) : Bool :=
  first.precedence < second.precedence
    || (first.precedence == second.precedence && first.quality < second.quality)

/-- The match that speaks for a candidate. -/
def winning? (accepted : List AcceptEntry) (candidate : MediaType) : Option AcceptMatch :=
  firstBest yields <| accepted.zipIdx.filterMap fun (entry, position) =>
    (entry.precedence? candidate).map fun precedence => ⟨precedence, entry.quality, position⟩

/-- Between candidates, quality decides, then the earlier entry. -/
def isWorse (first second : AcceptMatch) : Bool :=
  first.quality < second.quality
    || (first.quality == second.quality && second.position < first.position)

end AcceptMatch

/-- The candidate that the entries prefer. -/
def preferredType (accepted : List AcceptEntry) (candidates : List (String × MediaType)) :
    Option String :=
  let matched := candidates.filterMap fun (name, media) =>
    ((AcceptMatch.winning? accepted media).filter fun m => m.quality.isAcceptable).map (name, ·)
  (firstBest (fun first second => first.2.isWorse second.2) matched).map Prod.fst

/-- The candidate that an `Accept` header prefers, if one is acceptable. -/
def selectContentType (candidates : List String) (accept : String) :
    Except SourceError (Option String) := do
  let accepted ← parseAccept accept
  let media ← candidates.mapM parseContentType
  return preferredType accepted (candidates.zip media)

/-- An `Accept-Charset` header. -/
structure AcceptedCharsets where
  /-- The charsets that are named, in the order of the header. -/
  named : List (String × Quality)
  /-- The quality of those that are not named. -/
  others? : Option Quality

namespace AcceptedCharsets

/-- The quality of a charset. ISO 8859-1 is acceptable unless the header names it. -/
def quality? (a : AcceptedCharsets) (charset : String) : Option Quality :=
  match a.named.lookup charset with
  | some q => some q
  | none => if charset = "iso-8859-1" then some Quality.full else a.others?

end AcceptedCharsets

def parseAcceptCharset (header : String) : Except SourceError AcceptedCharsets := do
  let items ← parseListHeaderLower header
  let entries ← items.mapM fun item => do return (item.value, ← Quality.ofItem header item)
  return ⟨entries.filter fun entry => entry.1 != "*", entries.lookup "*"⟩

/-- The candidate charset that an `Accept-Charset` header prefers, if one is acceptable; of equally
acceptable ones the earliest. -/
def selectCharset (candidates : List String) (accept : String) :
    Except SourceError (Option String) := do
  let accepted ← parseAcceptCharset accept
  let ranked := candidates.filterMap fun name =>
    ((accepted.quality? (Text.lower name)).filter Quality.isAcceptable).map (name, ·)
  return (firstBest (fun first second => first.2 < second.2) ranked).map Prod.fst

end RestService
