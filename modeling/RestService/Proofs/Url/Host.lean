import RestService.Proofs.Result
import RestService.Proofs.Text.Bytes
import RestService.Proofs.Text.Pieces
import RestService.Url.Host

set_option autoImplicit false

namespace RestService

open Text (AllPrintable IsPrintable)

namespace Percent

theorem allPrintable_encodedByte (b : UInt8) : AllPrintable (encodedByte b) := by
  have digit (n : Nat) : IsPrintable (Nat.digitChar n).toUpper :=
    Text.isPrintable_toUpper (Text.isPrintable_digitChar n)
  exact AllPrintable.cons (by decide)
    (AllPrintable.cons (digit _) (AllPrintable.cons (digit _) AllPrintable.nil))

theorem isPrintable_of_not_isControl {c : Char} (ascii : c.toNat < 0x80)
    (visible : isControl c = false) : IsPrintable c := by
  simp only [isControl, Bool.or_eq_false_iff, decide_eq_false_iff_not] at visible
  exact ⟨by omega, by omega⟩

/-- A text is printable once its control characters are encoded. -/
theorem allPrintable_encode {reserved : Char → Bool}
    (covers : ∀ c, isControl c = true → reserved c = true) (cs : List Char) :
    AllPrintable (encode reserved cs) := by
  intro d mem
  obtain ⟨c, -, written⟩ := List.mem_flatMap.1 mem
  rw [encodeChar] at written
  split at written
  · rename_i kept
    simp only [Bool.and_eq_true, decide_eq_true_eq, Bool.not_eq_true'] at kept
    have visible : isControl c = false := by
      cases control : isControl c with
      | false => rfl
      | true => exact absurd (covers c control) (by simp [kept.2])
    rw [List.mem_singleton.1 written]
    exact isPrintable_of_not_isControl kept.1 visible
  · obtain ⟨b, -, inside⟩ := List.mem_flatMap.1 written
    exact allPrintable_encodedByte b d inside

theorem allPrintable_encode_control (cs : List Char) : AllPrintable (encode isControl cs) :=
  allPrintable_encode (fun _ control => control) cs

theorem isReservedInFragment_of_isControl (c : Char) (control : isControl c = true) :
    isReservedInFragment c = true := by
  simp [isReservedInFragment, control]

theorem isReservedInPath_of_isControl (c : Char) (control : isControl c = true) :
    isReservedInPath c = true := by
  simp [isReservedInPath, isReservedInFragment, control]

theorem isReservedInUserinfo_of_isControl (c : Char) (control : isControl c = true) :
    isReservedInUserinfo c = true := by
  simp [isReservedInUserinfo, isReservedInPath, isReservedInFragment, control]

theorem isReservedInQuery_of_isControl (c : Char) (control : isControl c = true) :
    isReservedInQuery c = true := by
  simp [isReservedInQuery, control]

end Percent

namespace Punycode

theorem isPrintable_digitChar {d : Nat} (digit : d < 36) : IsPrintable (digitChar d) :=
  (by decide : ∀ d < 36, IsPrintable (digitChar d)) d digit

theorem allPrintable_digits (bias k q : Nat) : AllPrintable (digits bias k q) := by
  fun_induction digits bias k q with
  | case1 k q t last =>
    have bounds := threshold_bounds bias k
    exact AllPrintable.cons (isPrintable_digitChar (by omega)) AllPrintable.nil
  | case2 k q t more ih =>
    have bounds := threshold_bounds bias k
    have digit : t + (q - t) % (36 - t) < 36 := by
      have := Nat.mod_lt (q - t) (show 0 < 36 - t by omega)
      omega
    exact AllPrintable.cons (isPrintable_digitChar digit) ih

theorem allPrintable_pass {basic n : Nat} {e : Encoder} (printable : AllPrintable e.out)
    (c : Char) : AllPrintable (e.pass basic n c).out := by
  unfold Encoder.pass
  split
  · exact printable
  · split
    · exact printable.append (allPrintable_digits _ _ _)
    · exact printable

theorem allPrintable_foldl_pass {basic n : Nat} (label : List Char) {e : Encoder}
    (printable : AllPrintable e.out) :
    AllPrintable (label.foldl (Encoder.pass basic n) e).out := by
  induction label generalizing e with
  | nil => exact printable
  | cons c label ih => exact ih (allPrintable_pass printable c)

theorem allPrintable_scan (label : List Char) (basic before : Nat) (numbers : List Nat)
    {e : Encoder} (printable : AllPrintable e.out) :
    AllPrintable (Encoder.scan label basic before e numbers).out := by
  induction numbers generalizing before e with
  | nil => exact printable
  | cons n numbers ih => exact ih (n + 1) (allPrintable_foldl_pass label printable)

/-- A label without control characters is printable once it is written in Punycode. -/
theorem allPrintable_encode {label : List Char}
    (visible : ∀ c ∈ label, Percent.isControl c = false) : AllPrintable (encode label) := by
  have basic : AllPrintable (label.filter fun c => c.toNat < 0x80) := by
    intro c mem
    obtain ⟨inside, ascii⟩ := List.mem_filter.1 mem
    exact Percent.isPrintable_of_not_isControl (of_decide_eq_true ascii) (visible c inside)
  have hyphen (empty : Bool) : AllPrintable (if empty then [] else ['-']) := by
    cases empty
    · exact AllPrintable.cons (by decide) AllPrintable.nil
    · exact AllPrintable.nil
  exact (basic.append (hyphen _)).append (allPrintable_scan _ _ _ _ AllPrintable.nil)

end Punycode

namespace Domain

theorem isControl_of_isForbidden {c : Char} (kept : isForbidden c = false) :
    Percent.isControl c = false := by
  simp only [isForbidden, Bool.or_eq_false_iff] at kept
  exact kept.1

theorem visible_of_uniform {cs plain : List Char} (uniform : uniform? cs = some plain) :
    ∀ c ∈ plain, Percent.isControl c = false := by
  obtain ⟨meanings, -, kept⟩ := Option.bind_eq_some_iff.1 uniform
  simp only at kept
  split at kept
  · exact absurd kept (by simp)
  · rename_i allowed
    have same := Option.some.inj kept
    intro c mem
    rw [← same] at mem
    refine isControl_of_isForbidden (Bool.eq_false_iff.2 fun forbidden => allowed ?_)
    exact List.any_eq_true.2 ⟨c, mem, forbidden⟩

theorem allPrintable_of_isAscii {cs : List Char} (ascii : isAscii cs = true)
    (visible : ∀ c ∈ cs, Percent.isControl c = false) : AllPrintable cs := fun c mem =>
  Percent.isPrintable_of_not_isControl (of_decide_eq_true (List.all_eq_true.1 ascii c mem))
    (visible c mem)

theorem allPrintable_punycodeMark : AllPrintable punycodeMark := by
  decide

theorem written_of_labelOfDigits {digits : List Char} {label : Label}
    (found : labelOfDigits? digits = some label) : label.written = punycodeMark ++ digits := by
  unfold labelOfDigits? at found
  split at found
  · exact absurd found (by simp)
  · obtain ⟨shown, -, kept⟩ := Option.bind_eq_some_iff.1 found
    split at kept
    · rw [← Option.some.inj kept]
    · exact absurd kept (by simp)

theorem allPrintable_label {cs : List Char} {label : Label} (found : label? cs = some label)
    (visible : ∀ c ∈ cs, Percent.isControl c = false) : AllPrintable label.written := by
  unfold label? at found
  split at found
  · split at found
    · rename_i ascii
      rw [written_of_labelOfDigits found]
      exact allPrintable_punycodeMark.append
        ((allPrintable_of_isAscii ascii visible).subset fun c => List.mem_of_mem_drop)
    · simp at found
  · split at found
    · rename_i ascii
      rw [← Option.some.inj found]
      exact allPrintable_of_isAscii ascii visible
    · split at found
      · rw [← Option.some.inj found]
        exact allPrintable_punycodeMark.append (Punycode.allPrintable_encode visible)
      · simp at found

theorem allPrintable_unite {sep : Char} (printable : IsPrintable sep) {texts : List (List Char)}
    (all : ∀ cs ∈ texts, AllPrintable cs) : AllPrintable (Text.unite sep texts) := by
  fun_induction Text.unite sep texts with
  | case1 => exact AllPrintable.nil
  | case2 only => exact all only List.mem_cons_self
  | case3 first rest more ih =>
    exact (all first List.mem_cons_self).append
      (AllPrintable.cons printable (ih fun cs mem => all cs (List.mem_cons_of_mem first mem)))

/-- A domain is printable as it is written. -/
theorem allPrintable_written {cs name : List Char} (written : written? cs = some name) :
    AllPrintable name := by
  obtain ⟨plain, uniform, rest⟩ := Option.bind_eq_some_iff.1 written
  obtain ⟨labels, read, kept⟩ := Option.bind_eq_some_iff.1 rest
  simp only at kept
  split at kept
  · exact absurd kept (by simp)
  · rw [← Option.some.inj kept]
    refine allPrintable_unite (by decide) fun cs mem => ?_
    obtain ⟨label, inside, same⟩ := List.mem_map.1 mem
    obtain ⟨piece, cut, found⟩ := Result.exists_of_mem_mapM read label inside
    rw [← same]
    exact allPrintable_label found fun c within =>
      visible_of_uniform uniform c (Text.mem_of_mem_pieces cut within)

end Domain

namespace UrlHost

theorem allPrintable_domain {bytes : List UInt8} {name : List Char}
    (found : domain bytes = .ok name) : AllPrintable name := by
  unfold domain at found
  split at found
  · rename_i written
    obtain ⟨text, -, written⟩ := Option.bind_eq_some_iff.1 written
    rw [← Except.ok.inj found]
    exact Domain.allPrintable_written written
  · exact absurd found (by simp)

theorem allPrintable_ipv4 {cs : List Char} {text : String} (found : ipv4 cs = .ok text) :
    AllPrintable text.toList := by
  unfold ipv4 at found
  split at found
  · simp only at found
    split at found
    · exact absurd found Result.throw_ne_ok
    · split at found
      · exact absurd found (by simp [bind, Except.bind])
      · rw [← Except.ok.inj found]
        refine AllPrintable.intercalate (AllPrintable.cons (by decide) AllPrintable.nil) ?_
        intro s mem
        obtain ⟨n, -, same⟩ := List.mem_map.1 mem
        rw [← same]
        exact Text.allPrintable_toString n
  · exact absurd found Result.throw_ne_ok

theorem allPrintable_hexPieces (pieces : List Nat) : AllPrintable (hexPieces pieces).toList := by
  refine AllPrintable.intercalate (AllPrintable.cons (by decide) AllPrintable.nil) ?_
  intro s mem
  obtain ⟨n, -, same⟩ := List.mem_map.1 mem
  rw [← same]
  exact (Text.allPrintable_toDigits (by decide) n).ofList

theorem allPrintable_ipv6Text (pieces : List Nat) : AllPrintable (ipv6Text pieces).toList := by
  have opening : AllPrintable "[".toList := by decide
  have closing : AllPrintable "]".toList := by decide
  have gap : AllPrintable "::".toList := by decide
  unfold ipv6Text
  simp only
  split
  · exact (opening.concat (allPrintable_hexPieces _)).concat closing
  · exact (((opening.concat (allPrintable_hexPieces _)).concat gap).concat
      (allPrintable_hexPieces _)).concat closing

theorem allPrintable_bracketed {cs : List Char} {host : UrlHost} (found : bracketed cs = .ok host) :
    AllPrintable host.toList := by
  unfold bracketed at found
  split at found
  · rw [← Except.ok.inj found]
    exact allPrintable_ipv6Text _
  · exact absurd found (by simp)

/-- The host of a URL is printable, whatever it was read from. -/
theorem allPrintable_parse {cs : List Char} {host : UrlHost} (found : parse cs = .ok host) :
    AllPrintable host.toList := by
  unfold parse at found
  split at found
  · exact allPrintable_bracketed found
  · obtain ⟨name, read, more⟩ := Result.bind_eq_ok.1 found
    simp only at more
    split at more
    · exact absurd more (by simp [bind, Except.bind])
    · split at more
      · exact allPrintable_ipv4 more
      · rw [← Except.ok.inj more]
        exact (allPrintable_domain read).ofList

theorem allPrintable_parseOpaque {cs : List Char} {host : UrlHost}
    (found : parseOpaque cs = .ok host) : AllPrintable host.toList := by
  unfold parseOpaque at found
  split at found
  · exact allPrintable_bracketed found
  · split at found
    · exact absurd found (by simp)
    · rw [← Except.ok.inj found]
      exact (Percent.allPrintable_encode_control cs).ofList

end UrlHost

end RestService
