import Lockstep.Checker.Outcome

namespace Lockstep

inductive Notice where
  | resumed
  | compared
  | stepped (step : Nat) (pc : Word)
  | concluded (outcome : Outcome)
  deriving DecidableEq, Repr

namespace Notice

def isResume : Notice → Bool
  | resumed => true
  | _ => false

def isComparison : Notice → Bool
  | compared => true
  | _ => false

def isConclusion : Notice → Bool
  | concluded _ => true
  | _ => false

def isMismatch : Notice → Bool
  | concluded outcome => !outcome.isPassed
  | _ => false

def step? : Notice → Option (Nat × Word)
  | stepped step pc => some (step, pc)
  | _ => none

end Notice

structure Tally where
  steps : Nat
  mismatches : Nat
  resumes : Nat
  runs : Nat
  deriving DecidableEq, Repr

def Tally.ofNotices (notices : List Notice) : Tally where
  steps := notices.countP Notice.isComparison
  mismatches := notices.countP Notice.isMismatch
  resumes := notices.countP Notice.isResume
  runs := notices.countP Notice.isConclusion

end Lockstep
