import RestService.Decimal.Reading
import RestService.Toml.Tree

set_option autoImplicit false

namespace RestService.TomlTree

/-- Further digits of a radix, and what follows them. Whatever follows an underscore has to be a
digit. -/
def moreDigits (radix : Nat) : List Char → Option (List Char × List Char)
  | '_' :: c :: cs =>
    if (Decimal.digit? radix c).isSome then
      (moreDigits radix cs).map fun (digits, rest) => (c :: digits, rest)
    else none
  | ['_'] => none
  | c :: cs =>
    if (Decimal.digit? radix c).isSome then
      (moreDigits radix cs).map fun (digits, rest) => (c :: digits, rest)
    else some ([], c :: cs)
  | [] => some ([], [])

def digits? (radix : Nat) : List Char → Option (List Char × List Char)
  | '_' :: _ => none
  | cs => (moreDigits radix cs).filter fun found => !found.1.isEmpty

/-- The digits before a point, of which only a single one may be zero at the front. -/
def wholeDigits? : List Char → Option (List Char × List Char)
  | '0' :: cs => some (['0'], cs)
  | cs => digits? 10 cs

/-- A sign at the front, and what follows it. -/
def cutSign : List Char → Bool × List Char
  | '-' :: cs => (true, cs)
  | '+' :: cs => (false, cs)
  | cs => (false, cs)

/-- An exponent, if one is at the front. -/
def exponent? : List Char → Option (Int × List Char)
  | c :: cs =>
    if c = 'e' ∨ c = 'E' then
      let (negative, cs) := cutSign cs
      match digits? 10 cs with
      | some (digits, rest) =>
        (Decimal.nat? 10 digits).map fun n => (if negative then -(n : Int) else n, rest)
      | none => none
    else some (0, c :: cs)
  | [] => some (0, [])

/-- The digits after a point, if one is at the front. -/
def fraction? : List Char → Option (List Char × List Char)
  | '.' :: cs => digits? 10 cs
  | cs => some ([], cs)

/-- A number in decimal digits. Numbers with a point or an exponent are floating-point ones and must
not be too large; others have to fit 64 bits. -/
def decimal? (cs : List Char) : Option (TomlTree × List Char) := do
  let (negative, unsigned) := cutSign cs
  let (whole, afterWhole) ← wholeDigits? unsigned
  let (fraction, afterFraction) ← fraction? afterWhole
  let (exponent, rest) ← exponent? afterFraction
  let n ← Decimal.nat? 10 (whole ++ fraction)
  if rest.length = afterWhole.length then
    let signed : Int := if negative then -n else n
    let bound : Int := Decimal.twoTo 63
    if -bound ≤ signed ∧ signed < bound then return (.integer signed, rest) else none
  else
    let x := Decimal.nearest n (exponent - fraction.length)
    if negative then return (.float (-x), rest)
    else if x.isInf then none
    else return (.float x, rest)

/-- A number with the radix named before its digits. -/
def radixNumber? (radix : Nat) (cs : List Char) : Option (TomlTree × List Char) := do
  let (digits, rest) ← digits? radix cs
  let n ← Decimal.nat? radix digits
  if n < Decimal.twoTo 63 then return (.integer n, rest) else none

/-- Infinity or no number, with a sign. -/
def special? (cs : List Char) : Option (TomlTree × List Char) :=
  match cutSign cs with
  | (negative, 'i' :: 'n' :: 'f' :: rest) =>
    some (.float (Decimal.Literal.infinite negative).toFloat, rest)
  | (_, 'n' :: 'a' :: 'n' :: rest) => some (.float Decimal.Literal.notANumber.toFloat, rest)
  | _ => none

def number? : List Char → Option (TomlTree × List Char)
  | '0' :: 'x' :: cs => radixNumber? 16 cs
  | '0' :: 'o' :: cs => radixNumber? 8 cs
  | '0' :: 'b' :: cs => radixNumber? 2 cs
  | cs => (special? cs).orElse fun _ => decimal? cs

/-- A number of two digits from `low` to `high`, and what follows it. -/
def twoDigits? (low high : Nat) : List Char → Option (Nat × List Char)
  | a :: b :: cs =>
    ((Decimal.nat? 10 [a, b]).filter fun n => low ≤ n && n ≤ high).map fun n => (n, cs)
  | _ => none

/-- How many days a month has. -/
def daysOf (year month : Nat) : Nat :=
  if month = 2 then
    if year % 4 = 0 ∧ (year % 100 ≠ 0 ∨ year % 400 = 0) then 29 else 28
  else if month = 4 ∨ month = 6 ∨ month = 9 ∨ month = 11 then 30
  else 31

/-- What follows the character `c`, if it comes next. -/
def after? (c : Char) : List Char → Option (List Char)
  | first :: cs => if first = c then some cs else none
  | [] => none

def afterDate? : List Char → Option (List Char)
  | a :: b :: c :: d :: cs => do
    let year ← Decimal.nat? 10 [a, b, c, d]
    let (month, cs) ← twoDigits? 1 12 (← after? '-' cs)
    let (_, cs) ← twoDigits? 1 (daysOf year month) (← after? '-' cs)
    return cs
  | _ => none

/-- What follows a fraction of a second, if there is one. -/
def skipSecondFraction : List Char → List Char
  | '.' :: c :: cs => if c.isDigit then cs.dropWhile Char.isDigit else '.' :: c :: cs
  | cs => cs

def afterTime? (cs : List Char) : Option (List Char) := do
  let (_, cs) ← twoDigits? 0 23 cs
  let (_, cs) ← twoDigits? 0 59 (← after? ':' cs)
  let (_, cs) ← twoDigits? 0 60 (← after? ':' cs)
  return skipSecondFraction cs

def afterOffset? : List Char → Option (List Char)
  | c :: cs =>
    if c = 'Z' ∨ c = 'z' then some cs
    else if c = '+' ∨ c = '-' then do
      let (_, cs) ← twoDigits? 0 23 cs
      let (_, cs) ← twoDigits? 0 59 (← after? ':' cs)
      return cs
    else none
  | [] => none

def skipTime : List Char → List Char
  | c :: cs =>
    if c = 'T' ∨ c = 't' ∨ c = ' ' then
      match afterTime? cs with
      | some rest => (afterOffset? rest).getD rest
      | none => c :: cs
    else c :: cs
  | [] => []

def afterMoment? (cs : List Char) : Option (List Char) :=
  match afterDate? cs with
  | some rest => some (skipTime rest)
  | none => afterTime? cs

/-- The number, date or time at the front. -/
def readScalar (cs : List Char) : Except Problem (TomlTree × List Char) :=
  match afterMoment? cs with
  | some rest => .ok (.moment (String.ofList (cs.take (cs.length - rest.length))), rest)
  | none =>
    match number? cs with
    | some found => .ok found
    | none => .error .illegalNumber

end RestService.TomlTree
