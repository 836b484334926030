import Lockstep.Register.State
import Lockstep.Session.Failure
import Lockstep.Text.Blank

namespace Lockstep.RegisterBlock

def digitsPerRegister : Nat := 4

/-- The registers in a block of a known architecture, in order. -/
def layout? (architecture : String) : Option (List Register) :=
  if architecture = "gbz80" ∨ architecture = "sm83" then some Register.all else none

def tooShort (reply : String) (needed : Nat) : SessionError :=
  .protocol s!"register reply too short or not hex: {reply.utf8ByteSize} of {needed} digits"

def badValue (register : Register) (digits : List Char) : SessionError :=
  .protocol (s!"register {register.name} has invalid value '" ++ String.ofList digits ++ "'")

/-- The value of one register's digits. A plus sign may take the place of the first one. -/
def decodeOne (register : Register) (digits : List Char) :
    Except SessionError (Register × Word) :=
  match Hex.signedValue? digits with
  | some value => .ok (register, Word.swapBytes (UInt16.ofNat value))
  | none => .error (badValue register digits)

def decodeEach : List Register → List Char → Except SessionError (List (Register × Word))
  | [], _ => .ok []
  | register :: registers, digits => do
    let value ← decodeOne register (digits.take digitsPerRegister)
    let values ← decodeEach registers (digits.drop digitsPerRegister)
    return value :: values

/-- Reads the registers of a layout from the start of a reply. What follows is not looked at. -/
def decode (reply : String) (layout : List Register) :
    Except SessionError (List (Register × Word)) :=
  let needed := layout.length * digitsPerRegister
  let digits := reply.toList.take needed
  if digits.length = needed ∧ digits.all (·.toNat < 128) then decodeEach layout digits
  else .error (tooShort reply needed)

def tableLine (entry : Register × Word) : List Char :=
  Text.padRight 15 entry.1.name.toList ++
    Text.padRight 19 ('0' :: 'x' :: entry.2.shortText) ++
      (toString entry.2.toNat).toList ++ ['\n']

def table (entries : List (Register × Word)) : String :=
  String.ofList (entries.flatMap tableLine)

end Lockstep.RegisterBlock
