set_option autoImplicit false

namespace RestService

/-- The signals that have been given, and how far each listener, told by a number, has heard them.
-/
structure Shutdown where
  given : Nat := 0
  heard : List (Nat × Nat) := []
  deriving DecidableEq, Repr

/-- What a listener hears. -/
inductive ShutdownNotice
  | nothing
  | signal
  /-- This many signals have not been kept. -/
  | missed (count : Nat)
  deriving DecidableEq, Repr

namespace Shutdown

def listeners (s : Shutdown) : Nat := s.heard.length

def leave (s : Shutdown) (who : Nat) : Shutdown :=
  { s with heard := s.heard.filter fun entry => entry.1 != who }

/-- A listener begins to listen, in place of an earlier one of the same number. -/
def listen (s : Shutdown) (who : Nat) : Shutdown :=
  { s with heard := (who, s.given) :: (s.leave who).heard }

/-- A signal is given, which is lost if nobody listens. -/
def trigger (s : Shutdown) : Shutdown :=
  if s.heard.isEmpty then s else { s with given := s.given + 1 }

/-- A listener has heard the first `count` signals. -/
def advance (s : Shutdown) (who count : Nat) : Shutdown :=
  { s with heard := s.heard.map fun entry => if entry.1 = who then (who, count) else entry }

/-- What a listener hears next, if it is one. After it has been told that it missed some signals it
goes on with the one that was kept. -/
def poll (s : Shutdown) (who : Nat) : Option (ShutdownNotice × Shutdown) :=
  (s.heard.lookup who).map fun count =>
    if s.given ≤ count then (.nothing, s)
    else if s.given = count + 1 then (.signal, s.advance who s.given)
    else (.missed (s.given - 1 - count), s.advance who (s.given - 1))

/-- Who has just begun to listen hears nothing yet. -/
theorem poll_listen (s : Shutdown) (who : Nat) :
    (s.listen who).poll who = some (.nothing, s.listen who) := by
  simp [poll, listen]

/-- Who has just begun to listen hears the next signal. -/
theorem poll_trigger_listen (s : Shutdown) (who : Nat) :
    ((s.listen who).trigger.poll who).map Prod.fst = some .signal := by
  have kept : ¬s.given + 1 ≤ s.given := Nat.not_succ_le_self _
  simp only [poll, listen, trigger, List.isEmpty_cons, Bool.false_eq_true, if_false,
    List.lookup_cons_self, Option.map_some, if_neg kept, if_true]

end Shutdown

end RestService
