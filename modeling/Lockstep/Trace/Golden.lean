import Lockstep.Fault
import Lockstep.Register.Field

namespace Lockstep

inductive Defect where
  | blank
  | field (error : FieldError)
  | missingPc
  deriving DecidableEq, Repr

def Defect.message : Defect → String
  | .blank => "empty record"
  | .field error => error.message
  | .missingPc => "record does not set pc"

/-- Failures of a golden trace. Lines count from one. -/
inductive TraceError where
  | unavailable (path : String) (fault : Fault)
  | malformed (line : Nat) (defect : Defect)
  | unreadable (line : Nat) (fault : Fault)
  deriving DecidableEq, Repr

def TraceError.message : TraceError → String
  | .unavailable path fault => s!"golden trace {path} is unavailable: " ++ fault.message
  | .malformed line defect => s!"malformed golden record at line {line}: " ++ defect.message
  | .unreadable line fault => s!"failed to read golden trace at line {line}: " ++ fault.message

/-- The registers set by one line. A record always sets the program counter, which is where the
target is stopped. -/
structure Record where
  line : Nat
  update : Update
  pc : Word
  sets_pc : update.pc = some pc
  deriving DecidableEq, Repr

namespace Record

def parse (line : Nat) (text : String) : Except TraceError Record :=
  if (Text.trim text.toList).isEmpty then .error (.malformed line .blank)
  else match Update.ofFields (Text.pieces (· == ',') text.toList) with
    | .error error => .error (.malformed line (.field error))
    | .ok update =>
      match h : update.pc with
      | none => .error (.malformed line .missingPc)
      | some pc => .ok ⟨line, update, pc, h⟩

end Record

end Lockstep
