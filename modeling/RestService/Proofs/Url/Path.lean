import RestService.Proofs.Url.Host
import RestService.Url.Path

set_option autoImplicit false

namespace RestService.UrlPath

open Text (AllPrintable IsPrintable)

/-- Names of printable characters only. -/
def PrintableNames (names : List String) : Prop := ∀ name ∈ names, AllPrintable name.toList

theorem PrintableNames.nil : PrintableNames [] := List.forall_mem_nil _

theorem PrintableNames.cons {name : String} {names : List String}
    (printable : AllPrintable name.toList) (more : PrintableNames names) :
    PrintableNames (name :: names) := List.forall_mem_cons.2 ⟨printable, more⟩

theorem PrintableNames.append {first second : List String} (printable : PrintableNames first)
    (more : PrintableNames second) : PrintableNames (first ++ second) := fun name mem =>
  (List.mem_append.1 mem).elim (printable name) (more name)

theorem PrintableNames.dropLast {names : List String} (printable : PrintableNames names) :
    PrintableNames names.dropLast := fun name mem => printable name (List.dropLast_subset _ mem)

theorem PrintableNames.empty : PrintableNames [""] := PrintableNames.cons AllPrintable.nil .nil

theorem allPrintable_writtenSegment (segment : List Char) :
    AllPrintable (writtenSegment segment).toList :=
  (Percent.allPrintable_encode Percent.isReservedInPath_of_isControl segment).ofList

theorem allPrintable_drive {segment : List Char} (drive : isDriveLetter segment = true) :
    AllPrintable (segment.take 1) := by
  unfold isDriveLetter at drive
  split at drive
  · rename_i c mark
    simp only [Bool.and_eq_true] at drive
    exact AllPrintable.cons (Text.isPrintable_of_isAlpha drive.1) .nil
  · exact absurd drive (by simp)

theorem allPrintable_of_isDrive {cs : List Char} (drive : isDrive (String.ofList cs) = true) :
    AllPrintable (String.ofList cs).toList := by
  rw [String.toList_ofList]
  simp only [isDrive, isDriveLetter, Bool.and_eq_true, String.toList_ofList] at drive
  obtain ⟨letter, colon⟩ := drive
  split at letter
  · rename_i c mark
    simp only [Bool.and_eq_true] at letter
    have same : mark = ':' := by simpa using colon
    rw [same]
    exact AllPrintable.cons (Text.isPrintable_of_isAlpha letter.1) (AllPrintable.cons (by decide) .nil)
  · exact absurd letter (by simp)

variable {names : List String}

theorem PrintableNames.extend (printable : PrintableNames names) {text : String}
    (more : AllPrintable text.toList) : PrintableNames (UrlPath.extend names text) := by
  unfold UrlPath.extend
  split
  · rename_i last found
    have whole := (printable last (List.mem_of_getLast? found)).concat more
    exact printable.dropLast.append (PrintableNames.cons whole .nil)
  · split
    · exact PrintableNames.nil
    · exact PrintableNames.cons more .nil

theorem PrintableNames.slashed (printable : PrintableNames names) :
    PrintableNames (UrlPath.slashed names) := by
  unfold UrlPath.slashed
  split
  · exact printable
  · exact printable.append .empty

theorem PrintableNames.directory (printable : PrintableNames names) :
    PrintableNames (UrlPath.directory names) := printable.dropLast.append .empty

theorem PrintableNames.withoutLast (printable : PrintableNames names) (isFile : Bool) :
    PrintableNames (UrlPath.withoutLast isFile names) := by
  unfold UrlPath.withoutLast
  split
  · exact PrintableNames.nil
  · split
    · exact printable
    · exact printable.directory

theorem PrintableNames.above (printable : PrintableNames names) (isFile : Bool) :
    PrintableNames (UrlPath.above isFile names) := by
  unfold UrlPath.above
  split
  · split
    · exact printable.withoutLast isFile
    · exact printable.dropLast.withoutLast isFile
  · exact printable.withoutLast isFile

/-- A segment more leaves the names printable, whatever it is. -/
theorem PrintableNames.read {d : Draft} (printable : PrintableNames d.names) (isFile : Bool)
    (segment : List Char) (more : Bool) : PrintableNames (d.read isFile segment more).names := by
  have followed {names : List String} (all : PrintableNames names) :
      PrintableNames (if more then names ++ [""] else names) := by
    split
    · exact all.append .empty
    · exact all
  have written := allPrintable_writtenSegment
  unfold Draft.read
  extract_lets front follow text lowered
  have ahead : PrintableNames front := by
    unfold front
    split
    · rename_i name same
      rw [same] at printable
      split
      · exact PrintableNames.cons (printable name List.mem_cons_self) .empty
      · exact printable
    · exact printable
  split
  · cases more
    · exact ahead.above isFile
    · exact (ahead.above isFile).slashed
  · split
    · exact ahead.slashed
    · split
      · rename_i drive
        simp only [Bool.and_eq_true] at drive
        have colon : AllPrintable [':'] := AllPrintable.cons (by decide) .nil
        have letter := (allPrintable_drive drive.2).append colon
        exact followed (PrintableNames.cons letter.ofList .nil)
      · split
        · rename_i drive
          simp only [Bool.and_eq_true] at drive
          exact followed (PrintableNames.cons (allPrintable_of_isDrive drive.2)
            (PrintableNames.cons (written _) .nil))
        · exact followed (ahead.extend (written segment))

theorem PrintableNames.readAll {d : Draft} (printable : PrintableNames d.names) (isFile : Bool)
    (segments : List (List Char)) : PrintableNames (d.readAll isFile segments).names := by
  induction segments generalizing d with
  | nil => exact printable
  | cons segment rest ih =>
    cases rest with
    | nil => exact printable.read isFile segment false
    | cons next rest => exact ih (printable.read isFile segment true)

theorem PrintableNames.readFrom (printable : PrintableNames names) (kind : SchemeKind)
    (cs : List Char) : PrintableNames (UrlPath.readFrom kind names cs).names := by
  unfold UrlPath.readFrom
  extract_lets plain d
  have all : PrintableNames d.names :=
    PrintableNames.readAll (d := ⟨names, false⟩) printable _ _
  split
  · split
    · exact .empty
    · rename_i solid same
      exact fun name mem => all name (List.dropWhile_subset _ mem)
  · exact all

theorem printableNames_afterAuthority (kind : SchemeKind) (cs : List Char) :
    PrintableNames (afterAuthority kind cs).names := by
  unfold afterAuthority
  split
  · split
    · exact .empty
    · exact .nil
  · exact PrintableNames.empty.readFrom kind _

end RestService.UrlPath
