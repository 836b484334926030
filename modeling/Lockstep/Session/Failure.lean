import Lockstep.Fault
import Lockstep.Session.Elapsed

namespace Lockstep

inductive SessionError where
  | connect (endpoint : String) (fault : Fault)
  | notAttached
  | unsupportedArchitecture (architecture : String)
  | io (fault : Fault)
  | protocol (text : String)
  | rejected (command reply : String)
  | exited (status : UInt8)
  | terminated (signal : UInt8)
  | timeout (limit : Elapsed)
  deriving DecidableEq, Repr

def SessionError.message : SessionError → String
  | .connect endpoint fault => s!"failed to connect to {endpoint}: " ++ fault.message
  | .notAttached => "not attached to a target"
  | .unsupportedArchitecture architecture => s!"unsupported target architecture '{architecture}'"
  | .io fault => "IO error: " ++ fault.message
  | .protocol text => s!"protocol error: {text}"
  | .rejected command reply => s!"target rejected '{command}' with '{reply}'"
  | .exited status => s!"target exited with status {status}"
  | .terminated signal => s!"target terminated by signal {signal}"
  | .timeout limit => "breakpoint not reached within " ++ limit.text

end Lockstep
