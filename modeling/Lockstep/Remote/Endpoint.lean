import Lockstep.Fault
import Lockstep.Text.Decimal

namespace Lockstep

structure Endpoint where
  host : String
  service : UInt16
  deriving DecidableEq, Repr

namespace Endpoint

def maxService : Nat := 65535

def parse (text : String) : Except Fault Endpoint :=
  let reversed := text.toList.reverse
  match reversed.dropWhile (· != ':') with
  | [] => .error .invalidAddress
  | _ :: host =>
    match Decimal.parse? maxService (reversed.takeWhile (· != ':')).reverse with
    | none => .error .invalidService
    | some number => .ok ⟨String.ofList host.reverse, UInt16.ofNat number⟩

end Endpoint

end Lockstep
