namespace Lockstep.Decimal

def value (digits : List Char) : Nat :=
  digits.foldl (fun sum c ↦ sum * 10 + (c.toNat - '0'.toNat)) 0

def dropSign : List Char → List Char
  | '+' :: digits => digits
  | digits => digits

/-- Reads ASCII digits that may follow one plus sign, if their number is within a limit. -/
def parse? (limit : Nat) (text : List Char) : Option Nat :=
  let digits := dropSign text
  if digits.isEmpty || !digits.all Char.isDigit then none
  else if value digits ≤ limit then some (value digits) else none

def padded (width number : Nat) : List Char :=
  let digits := (toString number).toList
  List.replicate (width - digits.length) '0' ++ digits

end Lockstep.Decimal
