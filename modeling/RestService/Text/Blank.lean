set_option autoImplicit false

namespace RestService.Text

/-- The characters with the Unicode property White_Space. -/
def isBlank (c : Char) : Bool :=
  let n := c.toNat
  (0x09 ≤ n && n ≤ 0x0D) || n == 0x20 || n == 0x85 || n == 0xA0 || n == 0x1680
    || (0x2000 ≤ n && n ≤ 0x200A) || n == 0x2028 || n == 0x2029 || n == 0x202F
    || n == 0x205F || n == 0x3000

def trimLeft (cs : List Char) : List Char := cs.dropWhile isBlank

def trimRight (cs : List Char) : List Char := (cs.reverse.dropWhile isBlank).reverse

def trimChars (cs : List Char) : List Char := trimRight (trimLeft cs)

/-- The text `s` without the blanks at either end. -/
def trim (s : String) : String := String.ofList (trimChars s.toList)

/-- A text that holds nothing but blanks. -/
def isAllBlank (s : String) : Bool := s.toList.all isBlank

@[simp] theorem trimLeft_nil : trimLeft [] = [] := rfl

theorem trimLeft_cons_blank (c : Char) (cs : List Char) (blank : isBlank c = true) :
    trimLeft (c :: cs) = trimLeft cs := by
  simp only [trimLeft, List.dropWhile_cons, blank, ↓reduceIte]

theorem trimLeft_cons_solid (c : Char) (cs : List Char) (solid : isBlank c = false) :
    trimLeft (c :: cs) = c :: cs := by
  simp only [trimLeft, List.dropWhile_cons, solid, Bool.false_eq_true, ↓reduceIte]

@[simp] theorem trimChars_nil : trimChars [] = [] := rfl

end RestService.Text
