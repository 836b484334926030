import Lockstep.Attempt
import Lockstep.Register.Word
import Lockstep.Session.Failure

namespace Lockstep

structure Settings where
  pagination : Bool := false
  architecture : String := "gbz80"
  resumeLimit : Option Elapsed := none
  deriving DecidableEq, Repr

def defaultEndpoint : String := "localhost:1337"

class Debugger (σ : Type) where
  configure : Settings → Attempt SessionError σ Unit
  attach : (endpoint : String) → Attempt SessionError σ Unit
  /-- Places a breakpoint that goes away once it triggers. -/
  breakAt : (address : Word) → Attempt SessionError σ Unit
  resume : Attempt SessionError σ Unit
  dump : Attempt SessionError σ String
  disconnect : Attempt SessionError σ Unit

end Lockstep
