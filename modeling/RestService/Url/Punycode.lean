set_option autoImplicit false

namespace RestService.Punycode

def digitChar (d : Nat) : Char :=
  if d < 26 then Char.ofNat (0x61 + d) else Char.ofNat (0x30 + (d - 26))

def digitValue? (c : Char) : Option Nat :=
  if 'a' ≤ c ∧ c ≤ 'z' then some (c.toNat - 0x61)
  else if '0' ≤ c ∧ c ≤ '9' then some (c.toNat - 0x30 + 26)
  else none

/-- The threshold of the digit at place `k`, which is a multiple of 36. -/
def threshold (bias k : Nat) : Nat :=
  if k ≤ bias then 1 else if bias + 26 ≤ k then 26 else k - bias

theorem threshold_bounds (bias k : Nat) : 1 ≤ threshold bias k ∧ threshold bias k ≤ 26 := by
  unfold threshold
  split
  · omega
  · split <;> omega

/-- A distance cut down, and how far that shifts the bias. -/
def cutDown (delta shift : Nat) : Nat × Nat :=
  if 455 < delta then cutDown (delta / 35) (shift + 36) else (delta, shift)
termination_by delta
decreasing_by omega

/-- The bias after a distance, when `count` characters have been placed. -/
def adapted (delta count : Nat) (first : Bool) : Nat :=
  let scaled := if first then delta / 700 else delta / 2
  let (rest, shift) := cutDown (scaled + scaled / count) 0
  shift + 36 * rest / (rest + 38)

/-- The digits of a distance from place `k` on. -/
def digits (bias k q : Nat) : List Char :=
  let t := threshold bias k
  if q < t then [digitChar q]
  else digitChar (t + (q - t) % (36 - t)) :: digits bias (k + 36) ((q - t) / (36 - t))
termination_by q
decreasing_by
  have bounds := threshold_bounds bias k
  exact Nat.lt_of_le_of_lt (Nat.div_le_self _ _) (by omega)

/-- A label while it is written. -/
structure Encoder where
  out : List Char
  delta : Nat
  bias : Nat
  /-- How many characters have been placed. -/
  placed : Nat

/-- The scan for the character of number `n` goes over a character. -/
def Encoder.pass (basic n : Nat) (e : Encoder) (c : Char) : Encoder :=
  if c.toNat < n then { e with delta := e.delta + 1 }
  else if c.toNat = n then
    { out := e.out ++ digits e.bias 36 e.delta, delta := 0,
      bias := adapted e.delta (e.placed + 1) (e.placed = basic), placed := e.placed + 1 }
  else e

/-- The scans for the characters of ascending numbers, the last scan having been for `before - 1`.
-/
def Encoder.scan (label : List Char) (basic : Nat) : Nat → Encoder → List Nat → Encoder
  | _, e, [] => e
  | before, e, n :: numbers =>
    let started := { e with delta := e.delta + (n - before) * (e.placed + 1) }
    let passed := label.foldl (Encoder.pass basic n) started
    Encoder.scan label basic (n + 1) { passed with delta := passed.delta + 1 } numbers

/-- The numbers above ASCII in a label, ascending and without repetition. -/
def numbersBeyond (label : List Char) : List Nat :=
  ((label.map Char.toNat).filter (0x80 ≤ ·)).mergeSort.eraseDups

def encode (label : List Char) : List Char :=
  let basic := label.filter fun c => c.toNat < 0x80
  let start : Encoder := ⟨[], 0, 72, basic.length⟩
  basic ++ (if basic.isEmpty then [] else ['-'])
    ++ (Encoder.scan label basic.length 0x80 start (numbersBeyond label)).out

/-- The distance at the front, added to `start`, and what follows it. -/
def readDistance (bias : Nat) : List Char → Nat → Nat → Nat → Option (Nat × List Char)
  | [], _, _, _ => none
  | c :: cs, k, weight, start => do
    let d ← digitValue? c
    let t := threshold bias k
    if d < t then return (start + d * weight, cs)
    else readDistance bias cs (k + 36) (weight * (36 - t)) (start + d * weight)

/-- The label that the digits complete. Each step reads at least one digit, and `bound` counts
steps. -/
def place : Nat → Nat → Nat → Nat → List Char → List Char → Option (List Char)
  | _, _, _, _, label, [] => some label
  | 0, _, _, _, _, _ => none
  | bound + 1, bias, n, start, label, cs => do
    let (position, rest) ← readDistance bias cs 36 1 start
    let count := label.length + 1
    let number := n + position / count
    if !number.isValidChar then none
    else
      let index := position % count
      place bound (adapted (position - start) count (start = 0)) number (index + 1)
        (label.insertIdx index (Char.ofNat number)) rest

/-- The label of a written form in lower case. -/
def decode (cs : List Char) : Option (List Char) :=
  let tail := (cs.reverse.takeWhile (· != '-')).reverse
  let basic := (cs.take (cs.length - tail.length)).dropLast
  place cs.length 72 0x80 0 basic tail

end RestService.Punycode
