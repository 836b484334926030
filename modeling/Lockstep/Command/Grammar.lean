import Lockstep.Text.Decimal
import Lockstep.Trace.Selection

namespace Lockstep

inductive UsageError where
  | missingRequired
  | missingSubcommand
  | nothingGiven
  | invalidSubcommand
  | unknownArgument
  | invalidValue
  | valueValidation
  | conflict
  | tooManyValues
  | help
  | version
  deriving DecidableEq, Repr

inductive Level where
  | root
  | check
  | validate
  deriving DecidableEq, Repr

inductive Flag where
  | metrics
  | verbose
  | silent
  | help
  | version
  deriving DecidableEq, Repr

inductive Setting where
  | trace
  | preset
  | skip
  | maxRecords
  | endpoint
  | arch
  | timeoutSecs
  deriving DecidableEq, Repr

inductive Argument where
  | flag (flag : Flag)
  | setting (setting : Setting)
  deriving DecidableEq, Repr

namespace Argument

def long? (name : String) : Option Argument :=
  match name with
  | "metrics" => some (.flag .metrics)
  | "verbose" => some (.flag .verbose)
  | "silent" => some (.flag .silent)
  | "help" => some (.flag .help)
  | "version" => some (.flag .version)
  | "trace" => some (.setting .trace)
  | "preset" => some (.setting .preset)
  | "skip" => some (.setting .skip)
  | "max-records" => some (.setting .maxRecords)
  | "endpoint" => some (.setting .endpoint)
  | "arch" => some (.setting .arch)
  | "timeout-secs" => some (.setting .timeoutSecs)
  | _ => none

def short? (letter : Char) : Option Argument :=
  match letter with
  | 'v' => some (.flag .verbose)
  | 's' => some (.flag .silent)
  | 'h' => some (.flag .help)
  | 'V' => some (.flag .version)
  | 't' => some (.setting .trace)
  | 'p' => some (.setting .preset)
  | 'e' => some (.setting .endpoint)
  | _ => none

/-- Only the root knows its version, only the commands take settings, and only a check has a
target. -/
def isAllowed (argument : Argument) (level : Level) : Bool :=
  match argument, level with
  | .flag .version, level => level = .root
  | .flag _, _ => true
  | .setting _, .root => false
  | .setting .endpoint, level | .setting .arch, level | .setting .timeoutSecs, level =>
    level = .check
  | .setting _, _ => true

end Argument

def subcommands : List String := ["check", "validate", "help"]

def maxCount : Nat := 0xffffffffffffffff

def parsePreset? (text : String) : Option Preset :=
  match text with
  | "boot-regs" => some .bootRegs
  | "boot-states" => some .bootStates
  | _ => none

structure Given where
  metrics : Bool := false
  verbose : Bool := false
  silent : Bool := false
  selection : Selection := {}
  endpoint : Option String := none
  arch : Option String := none
  timeoutSecs : Option Nat := none
  deriving DecidableEq, Repr

namespace Given

def raise (given : Given) : Flag → Except UsageError Given
  | .metrics => if given.metrics then .error .conflict else .ok { given with metrics := true }
  | .verbose => if given.verbose then .error .conflict else .ok { given with verbose := true }
  | .silent => if given.silent then .error .conflict else .ok { given with silent := true }
  | .help => .error .help
  | .version => .error .version

def fill {α : Type} (old : Option α) (value : Except UsageError α) :
    Except UsageError (Option α) :=
  match old with
  | some _ => .error .conflict
  | none => value.map some

def orError {α : Type} (error : UsageError) : Option α → Except UsageError α
  | some value => .ok value
  | none => .error error

def traceValue (text : String) : Except UsageError String :=
  if text.isEmpty then .error .invalidValue else .ok text

def countValue (text : String) : Except UsageError Nat :=
  orError .valueValidation (Decimal.parse? maxCount text.toList)

def secondsValue (text : String) : Except UsageError Nat :=
  orError .valueValidation ((Decimal.parse? maxCount text.toList).filter (1 ≤ ·))

def withSelection (given : Given) (selection : Selection) : Given := { given with selection }

def assign (given : Given) (setting : Setting) (text : String) : Except UsageError Given :=
  let selection := given.selection
  match setting with
  | .trace => (fill selection.path (traceValue text)).map fun path ↦
      given.withSelection { selection with path }
  | .preset =>
    (fill selection.preset (orError .invalidValue (parsePreset? text))).map fun preset ↦
      given.withSelection { selection with preset }
  | .skip => (fill selection.skip (countValue text)).map fun skip ↦
      given.withSelection { selection with skip }
  | .maxRecords => (fill selection.limit (countValue text)).map fun limit ↦
      given.withSelection { selection with limit }
  | .endpoint => (fill given.endpoint (.ok text)).map fun endpoint ↦ { given with endpoint }
  | .arch => (fill given.arch (.ok text)).map fun arch ↦ { given with arch }
  | .timeoutSecs => (fill given.timeoutSecs (secondsValue text)).map fun timeoutSecs ↦
      { given with timeoutSecs }

def isNothing (given : Given) : Bool := given = {}

end Given

end Lockstep
