import Lockstep.Checker.Notice
import Lockstep.Session.Debugger
import Lockstep.Trace.Storage

namespace Lockstep

inductive Phase where
  | init
  | running
  | passed
  | failed
  deriving DecidableEq, Repr

/-- What is carried from one comparison to the next. Both files grow by merging, so a register that
a dump leaves out keeps its value. -/
structure Progress where
  golden : Registers := .zero
  live : Registers := .zero
  compared : Nat := 0
  phase : Phase := .init
  deriving DecidableEq, Repr

structure Checker (σ : Type) where
  session : σ
  progress : Progress := {}
  notices : List Notice := []

namespace Checker

variable {σ : Type}

def ask {α : Type} (action : Attempt SessionError σ α) : Attempt CheckError (Checker σ) α :=
  fun checker ↦
    let (result, session) := action checker.session
    (result.mapError .session, { checker with session })

def update (change : Progress → Progress) : Attempt CheckError (Checker σ) Unit :=
  modify fun checker ↦ { checker with progress := change checker.progress }

def setPhase (phase : Phase) : Attempt CheckError (Checker σ) Unit :=
  update fun progress ↦ { progress with phase }

def announce (notice : Notice) : Attempt CheckError (Checker σ) Unit :=
  modify fun checker ↦ { checker with notices := checker.notices ++ [notice] }

def sample (dump : String) : Attempt CheckError (Checker σ) Unit := fun checker ↦
  let (result, live) := Registers.mergeDump dump checker.progress.live
  (result.mapError .registers, { checker with progress := { checker.progress with live } })

def compare (step line : Nat) : Attempt CheckError (Checker σ) (Option Mismatch) := do
  let progress := (← get).progress
  if progress.live = progress.golden then pure none
  else do
    setPhase .failed
    pure (some ⟨step, line, progress.live, progress.golden⟩)

def conclude (stage : Attempt CheckError (Checker σ) Outcome) :
    Attempt CheckError (Checker σ) Outcome := fun checker ↦
  match stage checker with
  | (.ok outcome, after) =>
    (.ok outcome, { after with notices := after.notices ++ [.concluded outcome] })
  | (.error error, after) =>
    (.error error, { after with progress := { after.progress with phase := .failed } })

variable [Debugger σ]

def sampleAt (pc : Word) : Attempt CheckError (Checker σ) Unit := do
  ask (Debugger.breakAt pc)
  ask Debugger.resume
  announce .resumed
  let dump ← ask Debugger.dump
  sample dump

/-- Checks a single record. An error leaves the merged golden registers behind, but counts no
comparison. -/
def checkRecord (record : Record) : Attempt CheckError (Checker σ) (Option Mismatch) := do
  let step := (← get).progress.compared + 1
  update fun progress ↦ { progress with golden := progress.golden.apply record.update }
  let pc := (← get).progress.golden.pc
  sampleAt pc
  update fun progress ↦ { progress with compared := step }
  announce .compared
  announce (.stepped step pc)
  compare step record.line

def checkRecords :
    List (Except TraceError Record) → Attempt CheckError (Checker σ) (Option Mismatch)
  | [] => pure none
  | .error error :: _ => throw (.trace error)
  | .ok record :: items => do
    match ← checkRecord record with
    | some mismatch => pure (some mismatch)
    | none => checkRecords items

/-- Checks records from attaching to letting go of the target. A target that does not match is left
as it is. -/
def attachAndCheck (items : List (Except TraceError Record)) (endpoint : String)
    (settings : Settings) : Attempt CheckError (Checker σ) Outcome := do
  ask (Debugger.configure settings)
  ask (Debugger.attach endpoint)
  setPhase .running
  match ← checkRecords items with
  | some mismatch => pure (.failed mismatch)
  | none => do
    ask Debugger.disconnect
    setPhase .passed
    return .passed (← get).progress.compared

/-- Looks at the head of a trace before the target is touched. -/
def checkItems (items : List (Except TraceError Record)) (endpoint : String)
    (settings : Settings) : Attempt CheckError (Checker σ) Outcome :=
  match items with
  | .error error :: _ => throw (.trace error)
  | items => attachAndCheck items endpoint settings

def checkTrace (cursor : Cursor) (endpoint : String) (settings : Settings) :
    Attempt CheckError (Checker σ) Outcome :=
  conclude do
    update fun _ ↦ {}
    checkItems cursor.items endpoint settings

/-- Opens a trace and checks it. What went before is kept if the trace cannot be opened. -/
def checkFile (storage : Storage) (path : String) (window : Window) (endpoint : String)
    (settings : Settings) : Attempt CheckError (Checker σ) Outcome :=
  match storage.openCursor path window with
  | .error error => do
    setPhase .failed
    throw (.trace error)
  | .ok cursor => checkTrace cursor endpoint settings

end Checker

end Lockstep
