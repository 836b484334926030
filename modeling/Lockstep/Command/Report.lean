import Lockstep.Checker.Basic
import Lockstep.Command.Invocation
import Lockstep.Remote.Session
import Lockstep.Telemetry.Recorder

namespace Lockstep

structure Report where
  exitCode : Nat
  /-- Text for the standard output. Only the comparison itself goes there. -/
  out : String := ""
  messages : String := ""
  wire : Wire
  notices : List Notice := []

namespace Report

def info (text : String) : String := "→ " ++ text ++ "\n"

def success (text : String) : String := "✓ " ++ text ++ "\n"

def failure (text : String) : String := "✗ " ++ text ++ "\n"

def detail (text : String) : String := "  " ++ text ++ "\n"

def noTrace (wire : Wire) : Report :=
  { exitCode := 1, wire, messages := failure "no trace file given (use --trace or --preset)" }

def heading (path : String) (window : Window) : String :=
  let amount := match window.limit with
    | some limit => s!"at most {limit} records"
    | none => "all records"
  info s!"Checking {path} (skip {window.skip}, {amount})"

def mismatchText (mismatch : Mismatch) : String :=
  failure (s!"mismatch at step {mismatch.step} (trace line {mismatch.line}): " ++
    ", ".intercalate (mismatch.registers.map Register.name))

def conclusion : Except CheckError Outcome → String × String × Nat
  | .ok (.passed compared) =>
    ("", success s!"{compared} records match the golden trace", (Outcome.passed compared).exitCode)
  | .ok (.failed mismatch) =>
    (mismatch.text ++ "\n", mismatchText mismatch, (Outcome.failed mismatch).exitCode)
  | .error error => ("", failure ("check failed: " ++ error.message), 1)

def ofCheck (storage : Storage) (wire : Wire) (trace : Selection) (endpoint arch : String)
    (timeoutSecs : Option Nat) : Report :=
  match trace.resolve with
  | none => noTrace wire
  | some (path, window) =>
    let settings : Settings :=
      { architecture := arch, resumeLimit := timeoutSecs.map fun secs ↦ .ofParts secs 0 }
    let checker : Checker RemoteSession := { session := { wire } }
    let (result, after) := Checker.checkFile storage path window endpoint settings checker
    let (out, message, exitCode) := conclusion result
    { exitCode, out, wire := after.session.wire, notices := after.notices
      messages := heading path window ++ message }

def accumulate : List (Except TraceError Record) → Nat → Registers →
    Except TraceError (Nat × Registers)
  | [], count, registers => .ok (count, registers)
  | .error error :: _, _, _ => .error error
  | .ok record :: items, count, registers =>
    accumulate items (count + 1) (registers.apply record.update)

def validation : Except TraceError (Nat × Registers) → Nat × String
  | .error error => (1, failure error.message)
  | .ok (count, registers) =>
    (0, success s!"{count} records valid" ++
      if count > 0 then detail ("final state: " ++ registers.render) else "")

def ofValidate (storage : Storage) (wire : Wire) (trace : Selection) : Report :=
  match trace.resolve with
  | none => noTrace wire
  | some (path, window) =>
    let (exitCode, messages) :=
      validation ((storage.openCursor path window).bind fun cursor ↦
        accumulate cursor.items 0 .zero)
    { exitCode, messages, wire }

def ofAction (storage : Storage) (wire : Wire) : Action → Report
  | .check trace endpoint arch timeoutSecs =>
    ofCheck storage wire trace endpoint arch timeoutSecs
  | .validate trace => ofValidate storage wire trace

def recorder (report : Report) : Recorder :=
  report.notices.foldl (fun recorder notice ↦ recorder.note ⟨0⟩ notice) {}

/-- A whole run of the program: the metrics come last, if they are wanted. -/
def ofInvocation (storage : Storage) (wire : Wire) (invocation : Invocation) : Report :=
  let report := ofAction storage wire invocation.action
  if invocation.metrics then { report with out := report.out ++ report.recorder.summary }
  else report

end Report

end Lockstep
