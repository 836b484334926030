import Lockstep.Text.Decimal

namespace Lockstep

structure Elapsed where
  nanos : Nat
  deriving DecidableEq, Repr

namespace Elapsed

def ofParts (seconds nanos : Nat) : Elapsed := ⟨seconds * 1000000000 + nanos⟩

def ofMillis (millis : Nat) : Elapsed := ⟨millis * 1000000⟩

def millis (span : Elapsed) : Nat := span.nanos / 1000000

def fractionText (places fraction : Nat) : List Char :=
  match ((Decimal.padded places fraction).reverse.dropWhile (· == '0')).reverse with
  | [] => []
  | significant => '.' :: significant

def inUnit (span : Elapsed) (places : Nat) (unit : String) : String :=
  toString (span.nanos / Nat.pow 10 places) ++
    String.ofList (fractionText places (span.nanos % Nat.pow 10 places)) ++ unit

/-- The span in the largest unit that leaves a whole part, with all of its fraction. -/
def text (span : Elapsed) : String :=
  if span.nanos ≥ 1000000000 then span.inUnit 9 "s"
  else if span.nanos ≥ 1000000 then span.inUnit 6 "ms"
  else if span.nanos ≥ 1000 then span.inUnit 3 "µs"
  else span.inUnit 0 "ns"

end Elapsed

end Lockstep
