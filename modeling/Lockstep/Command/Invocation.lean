import Lockstep.Command.Grammar
import Lockstep.Session.Debugger
import Lockstep.Text.Blank

namespace Lockstep

/-- A level that is being read: what was given, and a setting whose value is still to come or to
be looked at. -/
structure Scan where
  given : Given := {}
  pending : Option (Setting × Option String) := none
  trailing : Bool := false
  deriving DecidableEq, Repr

namespace Scan

def settle (scan : Scan) : Except UsageError Given :=
  match scan.pending with
  | none => .ok scan.given
  | some (_, none) => .error .invalidValue
  | some (setting, some text) => scan.given.assign setting text

def isAwaiting (scan : Scan) : Bool :=
  match scan.pending with
  | some (_, none) => true
  | _ => false

def raise (scan : Scan) (flag : Flag) : Except UsageError Scan := do
  let given ← (← scan.settle).raise flag
  return { scan with given, pending := none }

def start (scan : Scan) (setting : Setting) : Option String → Except UsageError Scan
  | some text => do
    let given ← (← scan.settle).assign setting text
    return { scan with given, pending := none }
  | none => do
    let given ← scan.settle
    return { scan with given, pending := some (setting, none) }

def longWord (scan : Scan) (level : Level) (word : List Char) : Except UsageError Scan :=
  let value := match word.dropWhile (· != '=') with
    | _ :: value => some (String.ofList value)
    | [] => none
  match (Argument.long? (String.ofList (word.takeWhile (· != '=')))).filter (·.isAllowed level) with
  | none => .error .unknownArgument
  | some (.setting setting) => scan.start setting value
  | some (.flag flag) => if value.isSome then .error .tooManyValues else scan.raise flag

def attached : List Char → Option String
  | [] => none
  | '=' :: value => some (String.ofList value)
  | value => some (String.ofList value)

/-- The letters of a word such as `-vt`, without the dash. A setting takes all that follows it. -/
def letters (level : Level) : List Char → Scan → Except UsageError Scan
  | [], scan => .ok scan
  | letter :: rest, scan =>
    match (Argument.short? letter).filter (·.isAllowed level) with
    | none => .error .unknownArgument
    | some (.setting setting) => scan.start setting (attached rest)
    | some (.flag flag) => do letters level rest (← scan.raise flag)

def plainWord (scan : Scan) (level : Level) (word : String) : Except UsageError Scan :=
  match scan.pending with
  | some (setting, none) =>
    if scan.trailing then .error .unknownArgument
    else .ok { scan with pending := some (setting, some word) }
  | _ =>
    if level = .root && !(scan.trailing && subcommands.contains word) then .error .invalidSubcommand
    else .error .unknownArgument

def word (scan : Scan) (level : Level) (text : String) : Except UsageError Scan :=
  if scan.trailing then scan.plainWord level text
  else match text.toList with
    | ['-', '-'] => .ok { scan with trailing := true }
    | '-' :: '-' :: name => scan.longWord level name
    | '-' :: letter :: rest => letters level (letter :: rest) scan
    | _ => scan.plainWord level text

def words (level : Level) : List String → Scan → Except UsageError Given
  | [], scan => scan.settle
  | text :: rest, scan => do words level rest (← scan.word level text)

end Scan

inductive Action where
  | check (trace : Selection) (endpoint arch : String) (timeoutSecs : Option Nat)
  | validate (trace : Selection)
  deriving DecidableEq, Repr

structure Invocation where
  metrics : Bool
  verbose : Bool
  silent : Bool
  action : Action
  deriving DecidableEq, Repr

namespace Invocation

def logFilter (invocation : Invocation) : String :=
  if invocation.verbose then "bootcheck=debug"
  else if invocation.silent then "bootcheck=error"
  else "bootcheck=info"

def checkVerbosity (given : Given) : Except UsageError Unit :=
  if given.verbose && given.silent then .error .conflict else .ok ()

def checkTrace (given : Given) : Except UsageError Unit :=
  if given.selection.path.isNone && given.selection.preset.isNone then .error .missingRequired
  else .ok ()

def subcommand (level : Level) (texts : List String) : Except UsageError Given := do
  let given ← Scan.words level texts {}
  checkVerbosity given
  checkTrace given
  return given

def helpOn : List String → UsageError
  | [] => .help
  | [name] => if subcommands.contains name then .help else .invalidSubcommand
  | _ => .invalidSubcommand

/-- Puts together what the two levels were given. A flag counts on either. -/
def combine (outer inner : Given) (action : Action) : Except UsageError Invocation := do
  checkVerbosity outer
  return {
    metrics := outer.metrics || inner.metrics
    verbose := outer.verbose || inner.verbose
    silent := outer.silent || inner.silent
    action }

def checkAction (given : Given) : Action :=
  .check given.selection (given.endpoint.getD defaultEndpoint) (given.arch.getD "gbz80")
    given.timeoutSecs

def root : List String → Scan → Except UsageError Invocation
  | [], scan => do
    let given ← scan.settle
    throw (if given.isNothing then .nothingGiven else .missingSubcommand)
  | text :: rest, scan =>
    if scan.trailing || !subcommands.contains text then do root rest (← scan.word .root text)
    else if text = "help" then .error (helpOn rest)
    else if text = "check" then do
      let inner ← subcommand .check rest
      combine scan.given inner (checkAction inner)
    else do
      let inner ← subcommand .validate rest
      combine scan.given inner (.validate inner.selection)

def parse (arguments : List String) : Except UsageError Invocation :=
  root arguments {}

end Invocation

end Lockstep
