import Lockstep.Proofs.Remote.Calls
import Lockstep.Proofs.Remote.Flaws

namespace Lockstep

namespace StopReply

variable {reply : String} {letter : Char} {code : UInt8} {stop : StopReply}

end StopReply

namespace Link

variable {link finish : Link} {command : Command}

end Link

namespace RemoteSession

variable {session : RemoteSession} {connection : Connection}

def settle (session : RemoteSession) :
    Except SessionError StopReply → Except SessionError Unit × RemoteSession
  | .ok (.signal _) => clearPending session
  | .ok (.exited status) => (.error (.exited status), session)
  | .ok (.terminated signal) => (.error (.terminated signal), session)
  | .error error => (.error error, session)

end RemoteSession

end Lockstep
