import Lockstep.Register.Dump
import Lockstep.Session.Failure
import Lockstep.Trace.Golden

namespace Lockstep

/-- Why a check could not be finished. A mismatch is no such error. -/
inductive CheckError where
  | trace (error : TraceError)
  | session (error : SessionError)
  | registers (error : FieldError)
  deriving DecidableEq, Repr

def CheckError.message : CheckError → String
  | .trace error => "golden trace error: " ++ error.message
  | .session error => "debug session error: " ++ error.message
  | .registers error => "register dump error: " ++ error.message

/-- The first comparison at which the live registers left the golden ones. Steps count from one. -/
structure Mismatch where
  step : Nat
  line : Nat
  live : Registers
  golden : Registers
  deriving DecidableEq, Repr

namespace Mismatch

def registers (mismatch : Mismatch) : List Register :=
  mismatch.live.diff mismatch.golden

def text (mismatch : Mismatch) : String :=
  "live:   " ++ mismatch.live.render ++ "\ngolden: " ++ mismatch.golden.render

end Mismatch

inductive Outcome where
  | passed (compared : Nat)
  | failed (mismatch : Mismatch)
  deriving DecidableEq, Repr

namespace Outcome

def isPassed : Outcome → Bool
  | passed _ => true
  | failed _ => false

def exitCode : Outcome → Nat
  | passed _ => 0
  | failed _ => 1

end Outcome

end Lockstep
