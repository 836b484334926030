namespace Lockstep

/-- Leading records to leave out, and the most records to take. -/
structure Window where
  skip : Nat := 0
  limit : Option Nat := none
  deriving DecidableEq, Repr

namespace Window

def count (window : Window) (lines : Nat) : Nat :=
  match window.limit with
  | some limit => min limit (lines - window.skip)
  | none => lines - window.skip

def isFull (window : Window) (emitted : Nat) : Bool :=
  window.limit.any (· ≤ emitted)

end Window

end Lockstep
