namespace Lockstep.Hex

def digitValue? (c : Char) : Option Nat :=
  if '0' ≤ c ∧ c ≤ '9' then some (c.toNat - '0'.toNat)
  else if 'a' ≤ c ∧ c ≤ 'f' then some (c.toNat - 'a'.toNat + 10)
  else if 'A' ≤ c ∧ c ≤ 'F' then some (c.toNat - 'A'.toNat + 10)
  else none

def isDigit (c : Char) : Bool :=
  (digitValue? c).isSome

def digit (value : Nat) : Char :=
  if value < 10 then Char.ofNat (value + '0'.toNat)
  else Char.ofNat (value - 10 + 'a'.toNat)

/-- The number that digits write in base sixteen; a character that is no digit counts as zero. -/
def value (digits : List Char) : Nat :=
  digits.foldl (fun sum c ↦ sum * 16 + (digitValue? c).getD 0) 0

def byteText (byte : UInt8) : List Char :=
  [digit (byte.toNat / 16), digit (byte.toNat % 16)]

def signedValue? : List Char → Option Nat
  | '+' :: digits => if !digits.isEmpty && digits.all isDigit then some (value digits) else none
  | digits => if !digits.isEmpty && digits.all isDigit then some (value digits) else none

end Lockstep.Hex
