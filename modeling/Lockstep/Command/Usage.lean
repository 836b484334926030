import Lockstep.Command.Grammar

namespace Lockstep

namespace UsageError

def exitCode : UsageError → Nat
  | help | version => 0
  | _ => 2

def versionText : String := "bootcheck 0.1.0\n"

def helpText : String :=
  "Check an emulator's boot sequence against a golden register trace\n\n" ++
  "Usage: bootcheck [OPTIONS] <COMMAND>\n\n" ++
  "Commands:\n" ++
  "  check     Attach to the emulator's stub and compare registers step by step\n" ++
  "  validate  Parse a golden trace without attaching to a target\n" ++
  "  help      Print this text\n\n" ++
  "Options of both commands:\n" ++
  "  -t, --trace <FILE>         Golden trace file (.zst is decompressed)\n" ++
  "  -p, --preset <PRESET>      Stock boot check: boot-regs or boot-states\n" ++
  "      --skip <N>             Leading records to discard\n" ++
  "      --max-records <N>      Stop after this many records\n\n" ++
  "Options of check:\n" ++
  "  -e, --endpoint <ADDRESS>   Remote stub address, localhost:1337 if none is given\n" ++
  "      --arch <ARCH>          Target architecture, gbz80 if none is given\n" ++
  "      --timeout-secs <SECS>  Longest wait for a breakpoint\n\n" ++
  "Options:\n" ++
  "      --metrics              Show a metrics summary at the end\n" ++
  "  -v, --verbose              Log more\n" ++
  "  -s, --silent               Log errors only\n" ++
  "  -h, --help                 Print this text\n" ++
  "  -V, --version              Print the version\n"

def reason : UsageError → String
  | missingRequired => "a trace file or a preset is required"
  | missingSubcommand => "a command is required"
  | nothingGiven => "nothing to do"
  | invalidSubcommand => "unrecognized command"
  | unknownArgument => "unexpected argument"
  | invalidValue => "a value is missing or not among the possible ones"
  | valueValidation => "a number is malformed or out of range"
  | conflict => "an argument cannot be used a second time or beside another one"
  | tooManyValues => "a flag takes no value"
  | help => "help was asked for"
  | version => "the version was asked for"

def output : UsageError → String × String
  | help => (helpText, "")
  | version => (versionText, "")
  | nothingGiven => ("", helpText)
  | error => ("", "error: " ++ error.reason ++ "\n\nFor more information, try '--help'.\n")

end UsageError

end Lockstep
