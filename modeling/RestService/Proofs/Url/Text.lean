import RestService.Proofs.Url.Path
import RestService.Url.Parser

set_option autoImplicit false

namespace RestService

open Text (AllPrintable IsPrintable)
open UrlPath (PrintableNames)

/-- An authority whose parts are printable. -/
structure UrlAuthority.Printable (a : UrlAuthority) : Prop where
  username : AllPrintable a.username.toList
  password : AllPrintable a.password.toList
  host : AllPrintable a.host.toList

/-- A path whose parts are printable. -/
def UrlPath.Printable : UrlPath → Prop
  | opaquePath text => AllPrintable text.toList
  | segments names => PrintableNames names

/-- A URL whose parts are printable. -/
structure Url.Printable (url : Url) : Prop where
  scheme : AllPrintable url.scheme.toList
  authority : ∀ a, url.authority? = some a → a.Printable
  path : url.path.Printable
  query : ∀ query, url.query? = some query → AllPrintable query.toList
  fragment : ∀ fragment, url.fragment? = some fragment → AllPrintable fragment.toList

theorem UrlAuthority.Printable.text {a : UrlAuthority} (printable : a.Printable) :
    AllPrintable a.text.toList := by
  have colon : AllPrintable ":".toList := AllPrintable.cons (by decide) .nil
  have sign : AllPrintable "@".toList := AllPrintable.cons (by decide) .nil
  unfold UrlAuthority.text
  extract_lets password userinfo port
  have secret : AllPrintable password.toList := by
    unfold password
    split
    · exact AllPrintable.nil
    · exact colon.concat printable.password
  have user : AllPrintable userinfo.toList := by
    unfold userinfo
    split
    · exact AllPrintable.nil
    · exact (printable.username.concat secret).concat sign
  have number : AllPrintable port.toList := by
    unfold port
    split
    · exact colon.concat (Text.allPrintable_toString _)
    · exact AllPrintable.nil
  exact (user.concat printable.host).concat number

theorem UrlPath.Printable.names {path : UrlPath} (printable : path.Printable) :
    PrintableNames path.names := by
  cases path with
  | opaquePath text => exact PrintableNames.nil
  | segments names => exact printable

theorem UrlPath.Printable.text {path : UrlPath} (printable : path.Printable) :
    AllPrintable path.text.toList := by
  cases path with
  | opaquePath text => exact printable
  | segments names =>
    refine AllPrintable.join fun s mem => ?_
    obtain ⟨name, inside, same⟩ := List.mem_map.1 mem
    have slash : AllPrintable "/".toList := AllPrintable.cons (by decide) .nil
    rw [← same]
    exact slash.concat (printable name inside)

namespace Url

/-- The text of a URL of printable parts is printable. -/
theorem Printable.text {url : Url} (printable : url.Printable) : AllPrintable url.text.toList := by
  have colon : AllPrintable ":".toList := AllPrintable.cons (by decide) .nil
  unfold Url.text
  extract_lets front query fragment
  have ahead : AllPrintable front.toList := by
    unfold front
    split
    · rename_i a found
      have slashes : AllPrintable "//".toList := by decide
      exact slashes.concat (printable.authority a found).text
    · decide
    · exact AllPrintable.nil
  have asked : AllPrintable query.toList := by
    unfold query
    split
    · rename_i text found
      have mark : AllPrintable "?".toList := AllPrintable.cons (by decide) .nil
      exact mark.concat (printable.query text found)
    · exact AllPrintable.nil
  have pointed : AllPrintable fragment.toList := by
    unfold fragment
    split
    · rename_i text found
      have mark : AllPrintable "#".toList := AllPrintable.cons (by decide) .nil
      exact mark.concat (printable.fragment text found)
    · exact AllPrintable.nil
  exact ((((printable.scheme.concat colon).concat ahead).concat printable.path.text).concat
    asked).concat pointed

/-- A URL of a scheme with a path and perhaps an authority, and nothing after the path. -/
theorem Printable.ofPath {scheme : String} {authority? : Option UrlAuthority} {names : List String}
    (plain : AllPrintable scheme.toList) (authority : ∀ a, authority? = some a → a.Printable)
    (path : PrintableNames names) :
    Printable { scheme, authority?, path := .segments names } where
  scheme := plain
  authority := authority
  path := path
  query := fun _ absent => absurd absent (by simp)
  fragment := fun _ absent => absurd absent (by simp)

theorem Printable.withoutFragment {url : Url} (printable : url.Printable) :
    Printable { url with fragment? := none } :=
  ⟨printable.scheme, printable.authority, printable.path, printable.query,
    fun _ absent => absurd absent (by simp)⟩

theorem printable_localAuthority : localAuthority.Printable :=
  ⟨AllPrintable.nil, AllPrintable.nil, AllPrintable.nil⟩

theorem printable_file {a : UrlAuthority} {names : List String} (authority : a.Printable)
    (path : PrintableNames names) : (file a names).Printable := by
  have scheme : AllPrintable "file".toList := by decide
  refine Printable.ofPath scheme (fun b same => ?_) path
  rwa [← Option.some.inj same]

theorem printable_localFile {names : List String} (path : PrintableNames names) :
    (file localAuthority names).Printable := printable_file printable_localAuthority path

theorem allPrintable_lowerAscii {s : String} (printable : AllPrintable s.toList) :
    AllPrintable (Text.lowerAscii s).toList := by
  rw [Text.lowerAscii, String.toList_ofList]
  intro c mem
  obtain ⟨d, inside, same⟩ := List.mem_map.1 mem
  exact same ▸ Text.isPrintable_toLower (printable d inside)

theorem allPrintable_scheme {r rest : Reference} {scheme : String}
    (cut : r.cutScheme? = some (scheme, rest)) : AllPrintable scheme.toList := by
  unfold Reference.cutScheme? at cut
  split at cut
  · rename_i c others after found
    split at cut
    · rename_i form
      rw [Bool.and_eq_true, List.all_eq_true] at form
      have plain : AllPrintable (c :: others) := by
        refine AllPrintable.cons (Text.isPrintable_of_isAlpha form.1) fun d mem => ?_
        rcases Bool.or_eq_true _ _ |>.mp (form.2 d mem) with alphanum | mark
        · exact Text.isPrintable_of_isAlphanum alphanum
        · exact (by decide : AllPrintable "+-.".toList) d (List.contains_iff_mem.1 mark)
      have same : Text.lowerAscii (String.ofList (c :: others)) = scheme :=
        congrArg Prod.fst (Option.some.inj cut)
      rw [← same]
      exact allPrintable_lowerAscii plain.ofList
    · exact absurd cut (by simp)
  · exact absurd cut (by simp)

/-- Whichever way the host of an authority is read, it is printable. -/
theorem allPrintable_hosted {α : Type} {network : Prop} [Decidable network] {name : List Char}
    {more : UrlHost → Except UrlError α} {a : α}
    (read : (if network then UrlHost.parse name >>= more
      else UrlHost.parseOpaque name >>= more) = .ok a) :
    ∃ host : UrlHost, AllPrintable host.toList ∧ more host = .ok a := by
  split at read
  · obtain ⟨host, hosted, read⟩ := Result.bind_eq_ok.1 read
    exact ⟨host, UrlHost.allPrintable_parse hosted, read⟩
  · obtain ⟨host, hosted, read⟩ := Result.bind_eq_ok.1 read
    exact ⟨host, UrlHost.allPrintable_parseOpaque hosted, read⟩

theorem printable_withAuthority {scheme : String} {r : Reference} {url : Url}
    (plain : AllPrintable scheme.toList) (read : withAuthority scheme r = .ok url) :
    url.Printable := by
  unfold withAuthority at read
  extract_lets kind ends tail at read
  split at read
  rename_i userinfo? rest cut
  obtain ⟨-, read⟩ := Result.check_eq_ok.1 read
  split at read
  rename_i name ported cutHost
  obtain ⟨-, read⟩ := Result.check_eq_ok.1 read
  obtain ⟨host, printed, read⟩ := allPrintable_hosted read
  obtain ⟨-, read⟩ := Result.check_eq_ok.1 read
  obtain ⟨port?, -, read⟩ := Result.bind_eq_ok.1 read
  split at read
  rename_i username password? parts
  obtain ⟨-, read⟩ := Result.check_eq_ok.1 read
  have part (cs : List Char) :
      AllPrintable (String.ofList (Percent.encode Percent.isReservedInUserinfo cs)).toList :=
    (Percent.allPrintable_encode Percent.isReservedInUserinfo_of_isControl cs).ofList
  rw [← Except.ok.inj read]
  refine Printable.ofPath plain (fun a same => ?_) (UrlPath.printableNames_afterAuthority _ _)
  rw [← Option.some.inj same]
  exact ⟨part _, part _, printed⟩

theorem printable_fileWithHost {cs : List Char} {url : Url} (read : fileWithHost cs = .ok url) :
    url.Printable := by
  have onRoot (rest : List Char) : (file localAuthority
      (UrlPath.readFrom .file [""] rest).names).Printable :=
    printable_localFile (PrintableNames.empty.readFrom .file rest)
  unfold fileWithHost at read
  extract_lets name rest here at read
  split at read
  · rw [← Except.ok.inj read]
    exact onRoot cs
  split at read
  · rw [← Except.ok.inj read]
    exact onRoot rest
  obtain ⟨host, hosted, read⟩ := Result.bind_eq_ok.1 read
  split at read
  · rw [← Except.ok.inj read]
    exact onRoot rest
  rw [← Except.ok.inj read]
  refine printable_file ⟨AllPrintable.nil, AllPrintable.nil, ?_⟩
    (UrlPath.printableNames_afterAuthority _ _)
  split
  · exact AllPrintable.nil
  · exact UrlHost.allPrintable_parse hosted

theorem Printable.host {base : Url} (printable : base.Printable) :
    (base.authority?.getD localAuthority).Printable := by
  cases found : base.authority? with
  | none => exact printable_localAuthority
  | some a => exact printable.authority a found

theorem printable_fileFromRoot {base? : Option Url}
    (printable : ∀ base, base? = some base → base.Printable) (cs : List Char) :
    (fileFromRoot base? cs).Printable := by
  have read {names : List String} (all : PrintableNames names) :
      PrintableNames (UrlPath.readFrom .file names cs).names := all.readFrom .file cs
  unfold fileFromRoot
  extract_lets names
  split
  · exact printable_localFile (read .empty)
  · rename_i base
    have host := (printable base rfl).host
    split
    · exact printable_localFile (read .empty)
    · split
      · rename_i name _ found
        have names := (printable base rfl).path.names
        rw [found] at names
        split
        · exact printable_localFile (read (.cons (names name List.mem_cons_self) .empty))
        · exact printable_file host (read .empty)
      · exact printable_file host (read .empty)

theorem printable_fileFrom {base? : Option Url} {cs : List Char} {url : Url}
    (printable : ∀ base, base? = some base → base.Printable) (read : fileFrom base? cs = .ok url) :
    url.Printable := by
  unfold fileFrom at read
  split at read
  · rename_i base
    rw [← Except.ok.inj read]
    exact (printable base rfl).withoutFragment
  · rw [← Except.ok.inj read]
    exact printable_localFile .empty
  · split at read
    · split at read
      · split at read
        · exact printable_fileWithHost read
        · rw [← Except.ok.inj read]
          exact printable_fileFromRoot printable _
      · rw [← Except.ok.inj read]
        exact printable_fileFromRoot printable _
    · split at read
      · rw [← Except.ok.inj read]
        exact printable_localFile (PrintableNames.empty.readFrom .file _)
      · rename_i base
        have directory : PrintableNames (UrlPath.withoutLast true base.path.names) :=
          (printable base rfl).path.names.withoutLast true
        split at read
        · rw [← Except.ok.inj read]
          exact printable_localFile (PrintableNames.empty.readFrom .file _)
        · rw [← Except.ok.inj read]
          exact printable_file (printable base rfl).host (directory.readFrom .file _)

theorem printable_relativeTo {base url : Url} {r : Reference} (printable : base.Printable)
    (read : relativeTo base r = .ok url) : url.Printable := by
  have onPath {names : List String} (all : PrintableNames names) (cs : List Char) :
      Printable { base with
        path := .segments (UrlPath.readFrom (SchemeKind.of base.scheme) names cs).names,
        query? := none, fragment? := none } :=
    Printable.ofPath printable.scheme printable.authority (all.readFrom _ cs)
  unfold relativeTo at read
  extract_lets relative at read
  split at read
  · rw [← Except.ok.inj read]
    exact printable.withoutFragment
  · exact printable_withAuthority printable.scheme read
  · split at read
    · rw [← Except.ok.inj read]
      exact onPath printable.path.names.directory _
    · split at read
      · exact printable_withAuthority printable.scheme read
      · rw [← Except.ok.inj read]
        exact onPath .empty _

theorem printable_withScheme {base? : Option Url} {scheme : String} {r : Reference} {url : Url}
    (printable : ∀ base, base? = some base → base.Printable) (plain : AllPrintable scheme.toList)
    (read : withScheme base? scheme r = .ok url) : url.Printable := by
  unfold withScheme at read
  extract_lets same at read
  have kept : ∀ base, same = some base → base.Printable := fun base found =>
    printable base (Option.filter_eq_some_iff.1 found).1
  split at read
  · exact printable_fileFrom kept read
  · split at read
    · rename_i base found
      exact printable_relativeTo (kept base (Option.filter_eq_some_iff.1 found).1) read
    · exact printable_withAuthority plain read
  · split at read
    · exact printable_withAuthority plain read
    · rw [← Except.ok.inj read]
      exact Printable.ofPath plain (fun _ absent => absurd absent (by simp))
        (PrintableNames.empty.readFrom .other _)
    · rw [← Except.ok.inj read]
      exact ⟨plain, fun _ absent => absurd absent (by simp),
        (Percent.allPrintable_encode_control _).ofList, fun _ absent => absurd absent (by simp),
        fun _ absent => absurd absent (by simp)⟩

theorem Printable.withTail {url : Url} (printable : url.Printable) (r : Reference) :
    (url.withTail r).Printable where
  scheme := printable.scheme
  authority := printable.authority
  path := printable.path
  query := by
    intro query found
    simp only [Url.withTail] at found
    split at found
    · rw [← Option.some.inj found]
      refine (Percent.allPrintable_encode (fun c control => ?_) _).ofList
      rw [Percent.isReservedInQuery_of_isControl c control, Bool.true_or]
    · exact printable.query query found
  fragment := by
    intro fragment found
    obtain ⟨cs, -, same⟩ := Option.map_eq_some_iff.1 found
    rw [← same]
    exact (Percent.allPrintable_encode Percent.isReservedInFragment_of_isControl cs).ofList

/-- Every URL that is read is printable, if the one that it is read relative to is. -/
theorem printable_parseWith {base? : Option Url} {s : String} {url : Url}
    (printable : ∀ base, base? = some base → base.Printable)
    (read : parseWith base? s = .ok url) : url.Printable := by
  unfold parseWith at read
  extract_lets r at read
  split at read
  · rename_i scheme rest cut
    obtain ⟨whole, inside, same⟩ := Result.bind_eq_ok.1 read
    rw [← Except.ok.inj same]
    exact (printable_withScheme printable (allPrintable_scheme cut) inside).withTail r
  · exact absurd read Result.throw_ne_ok
  · rename_i base _
    have own := printable base rfl
    split at read
    · split at read
      · rw [← Except.ok.inj read]
        exact own.withTail r
      · exact absurd read Result.throw_ne_ok
    · split at read
      · obtain ⟨whole, inside, same⟩ := Result.bind_eq_ok.1 read
        rw [← Except.ok.inj same]
        exact (printable_fileFrom printable inside).withTail r
      · obtain ⟨whole, inside, same⟩ := Result.bind_eq_ok.1 read
        rw [← Except.ok.inj same]
        exact (printable_relativeTo own inside).withTail r

/-- A reference is printable text once it has been made absolute, whatever it was. -/
theorem join_text_allPrintable {text reference : String} {base url : Url}
    (parsed : parse text = .ok base) (joined : base.join reference = .ok url) :
    AllPrintable url.text.toList := by
  have own : base.Printable := printable_parseWith (fun _ absent => absurd absent (by simp)) parsed
  refine (printable_parseWith (fun other same => ?_) joined).text
  rwa [← Option.some.inj same]

end Url

end RestService
