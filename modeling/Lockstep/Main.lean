import Lockstep.Command.Report
import Lockstep.Command.Usage
import Lockstep.Trace.Archive

namespace Lockstep

/-- The fault behind an error number of the operating system, which may arrive negated. -/
def Fault.ofErrorNumber (code : UInt32) (details : String) : Fault :=
  let number := if code.toNat < 0x80000000 then code.toNat else 0x100000000 - code.toNat
  match number with
  | 2 => .notFound
  | 20 => .notADirectory
  | 21 => .isDirectory
  | 36 => .nameTooLong
  | 22 => .nulInPath
  | number => .other s!"{details} (os error {number})"

def Fault.ofError : IO.Error → Fault
  | .noFileOrDirectory _ code details => .ofErrorNumber code details
  | .inappropriateType _ code details => .ofErrorNumber code details
  | .invalidArgument _ code details => .ofErrorNumber code details
  | .permissionDenied _ code details => .ofErrorNumber code details
  | .otherError code details => .ofErrorNumber code details
  | error => .other error.toString

def readFile (path : String) : IO (Except Fault (List UInt8)) := do
  try
    let bytes ← IO.FS.readBinFile path
    return .ok bytes.data.toList
  catch error => return .error (.ofError error)

def Action.trace : Action → Selection
  | check trace _ _ _ => trace
  | validate trace => trace

def storageFor (action : Action) : IO Storage := do
  let decompress (archive : List UInt8) : Except Fault Source := .ok (Archive.decode archive)
  match action.trace.resolve with
  | none => return ⟨fun _ ↦ .error .notFound, decompress⟩
  | some (path, _) =>
    let content ← readFile path
    return ⟨fun other ↦ if other = path then content else .error .notFound, decompress⟩

def runCommandLine (arguments : List String) : IO Nat := do
  match Invocation.parse arguments with
  | .error error =>
    let (out, messages) := error.output
    IO.print out
    IO.eprint messages
    return error.exitCode
  | .ok invocation =>
    let report := Report.ofInvocation (← storageFor invocation.action) {} invocation
    IO.eprint report.messages
    IO.print report.out
    return report.exitCode

end Lockstep

def main (arguments : List String) : IO UInt32 := do
  return UInt32.ofNat (← Lockstep.runCommandLine arguments)
