import Lockstep.Remote.Link
import Lockstep.Remote.RegisterBlock

namespace Lockstep

/-- A session with a stub. It remembers one breakpoint to remove at the next stop. -/
structure RemoteSession where
  wire : Wire
  connection : Option Connection := none
  settings : Settings := {}
  layout : List Register := Register.all
  pending : Option Word := none

namespace RemoteSession

def isAttached (session : RemoteSession) : Bool := session.connection.isSome

def onConnection {α : Type} (action : Attempt SessionError Link α) :
    Attempt SessionError RemoteSession α := fun session ↦
  match session.connection with
  | none => (.error .notAttached, session)
  | some connection =>
    let (result, link) := action ⟨session.wire, connection⟩
    (result, { session with wire := link.wire, connection := some link.connection })

def configure (settings : Settings) : Attempt SessionError RemoteSession Unit := do
  match RegisterBlock.layout? settings.architecture with
  | none => throw (.unsupportedArchitecture settings.architecture)
  | some layout => modify fun session ↦ { session with settings, layout }

/-- Opens a new connection. It takes the place of an older one only once the stub has answered. -/
def attach (address : String) : Attempt SessionError RemoteSession Unit := fun session ↦
  match session.wire.connect address with
  | .error fault => (.error (.connect address fault), session)
  | .ok (wire, connection) =>
    match Link.handshake ⟨wire, connection⟩ with
    | (.error error, link) => (.error error, { session with wire := link.wire })
    | (.ok (), link) =>
      (.ok (), { session with wire := link.wire, connection := some link.connection })

def breakAt (address : Word) : Attempt SessionError RemoteSession Unit := do
  onConnection (Link.requestOk (.placeBreakpoint address))
  modify fun session ↦ { session with pending := some address }

/-- Removes the remembered breakpoint, which is forgotten even if the stub refuses. -/
def clearPending : Attempt SessionError RemoteSession Unit := do
  match (← get).pending with
  | none => pure ()
  | some address =>
    modify fun session ↦ { session with pending := none }
    onConnection (Link.requestOk (.removeBreakpoint address))

def resume : Attempt SessionError RemoteSession Unit := do
  let stop ← onConnection (Link.go (← get).settings.resumeLimit)
  match stop with
  | .signal _ => clearPending
  | .exited status => throw (.exited status)
  | .terminated signal => throw (.terminated signal)

def readRegisters (layout : List Register) (reply : String) : Except SessionError String :=
  if reply.toList.head? = some 'E' then .error (.rejected Command.registers.text reply)
  else (RegisterBlock.decode reply layout).map RegisterBlock.table

def dump : Attempt SessionError RemoteSession String := do
  let reply ← onConnection (Link.request .registers)
  Attempt.ofExcept (readRegisters (← get).layout reply)

def disconnect : Attempt SessionError RemoteSession Unit := fun session ↦
  match session.connection with
  | none => (.ok (), session)
  | some connection =>
    let (result, link) := Link.requestOk .detach ⟨session.wire, connection⟩
    (result, { session with wire := link.wire, connection := none })

instance : Debugger RemoteSession where
  configure := configure
  attach := attach
  breakAt := breakAt
  resume := resume
  dump := dump
  disconnect := disconnect

end RemoteSession

end Lockstep
