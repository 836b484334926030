import Lockstep.Text.Hexadecimal

namespace Lockstep

inductive FieldError where
  | unknownRegister (name : String)
  /-- The field is not a name and a value on the two sides of one colon. -/
  | malformed (field : String)
  | invalidHex (text : String)
  | outOfRange (text : String)
  deriving DecidableEq, Repr

def FieldError.message : FieldError → String
  | .unknownRegister name => s!"unknown register '{name}'"
  | .malformed field => s!"malformed field '{field}' (expected name:hexvalue)"
  | .invalidHex text => s!"invalid hex value '{text}'"
  | .outOfRange text => s!"value '{text}' does not fit in 16 bits"

abbrev Word := UInt16

namespace Word

def dropMark : List Char → List Char
  | '0' :: 'x' :: digits => digits
  | '0' :: 'X' :: digits => digits
  | digits => digits

/-- The number that digits write, if it fits. They may follow one plus sign. -/
def ofDigits? (digits : List Char) : Option Word :=
  (Hex.signedValue? digits).bind fun n ↦ if n < UInt16.size then some (UInt16.ofNat n) else none

/-- Reads a hexadecimal value. Leading zeros are free, and a value that needs more than four other
digits is refused instead of cut. -/
def parse (text : List Char) : Except FieldError Word :=
  let digits := dropMark text
  if digits.isEmpty || !digits.all Hex.isDigit then .error (.invalidHex (String.ofList text))
  else
    let significant := digits.dropWhile (· == '0')
    if significant.length > 4 then .error (.outOfRange (String.ofList text))
    else if significant.isEmpty then .ok 0
    else match ofDigits? significant with
      | some word => .ok word
      | none => .error (.invalidHex (String.ofList text))

def fullText (word : Word) : List Char :=
  [Hex.digit (word.toNat / 4096), Hex.digit (word.toNat / 256 % 16),
    Hex.digit (word.toNat / 16 % 16), Hex.digit (word.toNat % 16)]

def shortText (word : Word) : List Char :=
  match word.fullText.dropWhile (· == '0') with
  | [] => ['0']
  | digits => digits

def swapBytes (word : Word) : Word :=
  word >>> 8 ||| word <<< 8

end Word

end Lockstep
