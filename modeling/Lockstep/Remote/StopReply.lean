import Lockstep.Text.Hexadecimal

namespace Lockstep

inductive StopReply where
  | signal (number : UInt8)
  | exited (status : UInt8)
  | terminated (signal : UInt8)
  deriving DecidableEq, Repr

namespace StopReply

def ofLetter? (letter : Char) (code : UInt8) : Option StopReply :=
  match letter with
  | 'S' | 'T' => some (.signal code)
  | 'W' => some (.exited code)
  | 'X' => some (.terminated code)
  | _ => none

/-- Reads a letter and two hexadecimal digits; anything may follow. -/
def parse? (reply : String) : Option StopReply :=
  match reply.toList with
  | letter :: high :: low :: _ =>
    match Hex.digitValue? high, Hex.digitValue? low with
    | some h, some l => ofLetter? letter (UInt8.ofNat (16 * h + l))
    | _, _ => none
  | _ => none

end StopReply

end Lockstep
