import Lockstep.Remote.StopReply
import Lockstep.Remote.Wire

namespace Lockstep

structure Link where
  wire : Wire
  connection : Connection

namespace Link

/-- Writes on the connection. If that fails nothing goes out. -/
def transmit (transmission : Transmission) : Attempt SessionError Link Unit := fun link ↦
  match link.connection.write with
  | .error fault => (.error (.io fault), link)
  | .ok connection => (.ok (), ⟨link.wire.receive link.connection.number transmission, connection⟩)

def react (link : Link) : Link where
  wire := { link.wire with reactions := link.wire.reactions.tail }
  connection := link.connection.hear (link.wire.reactions.headD .hangUp)

def send (command : Command) : Attempt SessionError Link Unit := do
  transmit (.command command)
  modify react

def read : Attempt SessionError Link String := fun link ↦
  let (result, inbox) := Frame.read link.connection.inbox
  (result, { link with connection := { link.connection with inbox } })

/-- Reads a packet and acknowledges it. A packet that is refused is not acknowledged. -/
def receive : Attempt SessionError Link String := do
  let reply ← read
  transmit .acknowledgement
  pure reply

def request (command : Command) : Attempt SessionError Link String := do
  send command
  receive

def requestOk (command : Command) : Attempt SessionError Link Unit := do
  let reply ← request command
  if reply = "OK" then pure () else throw (.rejected command.text reply)

/-- Greets a stub. The target is halted before the stub learns that a debugger is attached, since
that would start it. -/
def handshake : Attempt SessionError Link Unit := do
  let _ ← request .features
  let halt ← request .haltReason
  match StopReply.parse? halt with
  | none => throw (.protocol s!"unexpected halt reason '{halt}'")
  | some _ =>
    let _ ← request .isAttached
    pure ()

/-- Reads the reply of a running target. A limit of zero is none that can be set, and only with a
limit is silence a timeout. -/
def awaitReply (limit : Option Elapsed) : Attempt SessionError Link String :=
  match limit with
  | none => receive
  | some span =>
    if span.nanos = 0 then throw (.io .zeroTimeout)
    else tryCatch receive fun error ↦
      throw (if error = .io .wouldBlock then .timeout span else error)

def go (limit : Option Elapsed) : Attempt SessionError Link StopReply := do
  send .go
  let reply ← awaitReply limit
  match StopReply.parse? reply with
  | some stop => pure stop
  | none => throw (.protocol s!"unexpected stop reply '{reply}'")

end Link

end Lockstep
