import Lockstep.Remote.Endpoint
import Lockstep.Remote.Frame

namespace Lockstep

inductive Command where
  | features
  | haltReason
  | isAttached
  | placeBreakpoint (address : Word)
  | removeBreakpoint (address : Word)
  | go
  | registers
  | detach
  deriving DecidableEq, Repr

namespace Command

def breakpoint (letter : Char) (address : Word) : String :=
  String.ofList (letter :: '1' :: ',' :: (address.shortText ++ [',', '1']))

def text : Command → String
  | features => "qSupported:hwbreak+;"
  | haltReason => "?"
  | isAttached => "qAttached"
  | placeBreakpoint address => breakpoint 'Z' address
  | removeBreakpoint address => breakpoint 'z' address
  | go => "c"
  | registers => "g"
  | detach => "D"

end Command

/-- What the client sends: commands, and one mark for each packet that it accepts. -/
inductive Transmission where
  | command (issued : Command)
  | acknowledgement
  deriving DecidableEq, Repr

def Transmission.text : Transmission → String
  | .command issued => Frame.ofText issued.text
  | .acknowledgement => "+"

/-- Once this many more transmissions have gone out, writing fails. -/
structure Break where
  room : Nat
  fault : Fault
  deriving DecidableEq, Repr

/-- What a stub does after a packet: it sends bytes, behind which there is silence unless it closes
or resets its sending side, and it may break the connection. -/
structure Reaction where
  bytes : List UInt8
  failure : Option Fault := some .wouldBlock
  breaks : Option Break := none
  deriving DecidableEq, Repr

namespace Reaction

def reply (text : String) : Reaction where
  bytes := Text.utf8 ("+" ++ Frame.ofText text)

def silence : Reaction where
  bytes := []

def hangUp : Reaction where
  bytes := []
  failure := none

end Reaction

/-- The stub's side: where it can be reached, the reactions to come, and what it has received on
each connection. All connections share the reactions, and when there are none left it hangs up. -/
structure Wire where
  listening : List Endpoint := []
  reactions : List Reaction := []
  received : List (List Transmission) := []

/-- The client's side of a connection: its number, the bytes that it can read, and whether writing
is bound to fail. As long as the stub may still send, reading past the bytes would block. -/
structure Connection where
  number : Nat
  inbox : Source
  breaks : Option Break := none

namespace Connection

/-- The stub may still send. -/
def isOpen (connection : Connection) : Bool := connection.inbox.failure == some .wouldBlock

/-- What arrives after a reaction. On a side that is no longer open nothing does. -/
def hear (connection : Connection) (reaction : Reaction) : Connection :=
  { connection with
    inbox :=
      if connection.isOpen then ⟨connection.inbox.bytes ++ reaction.bytes, reaction.failure⟩
      else connection.inbox
    breaks := connection.breaks.or reaction.breaks }

def write (connection : Connection) : Except Fault Connection :=
  match connection.breaks with
  | none => .ok connection
  | some ⟨0, fault⟩ => .error fault
  | some ⟨room + 1, fault⟩ => .ok { connection with breaks := some ⟨room, fault⟩ }

end Connection

namespace Wire

def connect (wire : Wire) (address : String) : Except Fault (Wire × Connection) :=
  match Endpoint.parse address with
  | .error fault => .error fault
  | .ok endpoint =>
    if endpoint ∈ wire.listening then
      .ok ({ wire with received := wire.received ++ [[]] },
        ⟨wire.received.length, ⟨[], some .wouldBlock⟩, none⟩)
    else .error .connectionRefused

def receive (wire : Wire) (number : Nat) (transmission : Transmission) : Wire :=
  { wire with received := wire.received.modify number (· ++ [transmission]) }

def sent (wire : Wire) : List String :=
  wire.received.map fun transmissions ↦ String.join (transmissions.map Transmission.text)

end Wire

end Lockstep
