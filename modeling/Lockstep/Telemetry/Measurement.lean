import Lockstep.Text.Decimal

namespace Lockstep

/-- A double by its bits, so that the sign and the payload of a value that is no number are kept. -/
structure Measurement where
  bits : UInt64
  deriving DecidableEq, Repr

namespace Measurement

def ofFloat (value : Float) : Measurement := ⟨value.toBits⟩

def toFloat (value : Measurement) : Float := Float.ofBits value.bits

def zero : Measurement := ⟨0⟩

def undefined : Measurement := ⟨0xfff8000000000000⟩

def isNegative (value : Measurement) : Bool := 0x8000000000000000 ≤ value.bits.toNat

def exponentField (value : Measurement) : Nat := value.bits.toNat / 0x10000000000000 % 0x800

def fractionField (value : Measurement) : Nat := value.bits.toNat % 0x10000000000000

def isNaN (value : Measurement) : Bool :=
  value.exponentField = 2047 && value.fractionField != 0

def isInfinite (value : Measurement) : Bool :=
  value.exponentField = 2047 && value.fractionField = 0

/-- The result of an operation. An operand that is no number is passed on, and `a` wins over `b`. -/
def combine (operation : Float → Float → Float) (a b : Measurement) : Measurement :=
  if a.isNaN then a
  else if b.isNaN then b
  else
    let result := ofFloat (operation a.toFloat b.toFloat)
    if result.isNaN then undefined else result

def add (a b : Measurement) : Measurement := combine (· + ·) b a

def sub (a b : Measurement) : Measurement := combine (· - ·) a b

def roundQuotient (num den : Nat) : Nat :=
  let whole := num / den
  let twice := 2 * (num % den)
  if twice > den ∨ (twice = den ∧ whole % 2 = 1) then whole + 1 else whole

/-- The size of a finite measurement in millionths, rounded from its exact value. -/
def millionths (value : Measurement) : Nat :=
  let exponent := value.exponentField
  let significand :=
    if exponent = 0 then value.fractionField else value.fractionField + 0x10000000000000
  let shift := max exponent 1
  roundQuotient ((significand * 1000000) <<< (shift - 1075)) (1 <<< (1075 - shift))

def text (value : Measurement) : String :=
  let sign := if value.isNegative then "-" else ""
  if value.isNaN then "NaN"
  else if value.isInfinite then sign ++ "inf"
  else
    let size := value.millionths
    sign ++ toString (size / 1000000) ++ "." ++
      String.ofList (Decimal.padded 6 (size % 1000000))

/-- The sum in order. It starts from negative zero, which no summand feels. -/
def total (samples : List Measurement) : Measurement :=
  samples.foldl add (ofFloat (-0.0))

def mean (samples : List Measurement) : Measurement :=
  ofFloat ((total samples).toFloat / (UInt64.ofNat samples.length).toFloat)

/-- The largest measurement, but at least zero. Of equal ones the last counts, which shows in the
sign of a zero, and what is no number is passed over. -/
def peak (samples : List Measurement) : Measurement :=
  samples.foldl (fun best sample ↦ if best.toFloat ≤ sample.toFloat then sample else best) zero

end Measurement

end Lockstep
