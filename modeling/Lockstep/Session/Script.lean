import Lockstep.Session.Debugger

namespace Lockstep

inductive Call where
  | configure (settings : Settings)
  | attach (endpoint : String)
  | breakAt (address : Word)
  | resume
  | dump
  | disconnect
  deriving DecidableEq, Repr

def Call.text : Call → String
  | .configure settings =>
    let limit := match settings.resumeLimit with
      | some span => toString span.millis
      | none => "none"
    s!"configure {settings.pagination} {settings.architecture} {limit}"
  | .attach endpoint => s!"attach {endpoint}"
  | .breakAt address => s!"break {address}"
  | .resume => "resume"
  | .dump => "dump"
  | .disconnect => "disconnect"

/-- The answers to come, one queue for each operation. An operation whose queue is used up
succeeds. -/
structure Script where
  configure : List (Option SessionError) := []
  attach : List (Option SessionError) := []
  breakAt : List (Option SessionError) := []
  resume : List (Option SessionError) := []
  dump : List (Except SessionError String) := []
  disconnect : List (Option SessionError) := []

structure ScriptedSession where
  script : Script := {}
  calls : List Call := []

namespace ScriptedSession

def exhausted : SessionError := .protocol "script exhausted"

def answer : List (Option SessionError) → Except SessionError Unit
  | some error :: _ => .error error
  | _ => .ok ()

def dumpAnswer : List (Except SessionError String) → Except SessionError String
  | entry :: _ => entry
  | [] => .error exhausted

def perform {α : Type} (call : Call) (result : Script → Except SessionError α)
    (rest : Script → Script) : Attempt SessionError ScriptedSession α :=
  fun session ↦ (result session.script, ⟨rest session.script, session.calls ++ [call]⟩)

instance : Debugger ScriptedSession where
  configure settings := perform (.configure settings) (fun script ↦ answer script.configure)
    fun script ↦ { script with configure := script.configure.tail }
  attach endpoint := perform (.attach endpoint) (fun script ↦ answer script.attach)
    fun script ↦ { script with attach := script.attach.tail }
  breakAt address := perform (.breakAt address) (fun script ↦ answer script.breakAt)
    fun script ↦ { script with breakAt := script.breakAt.tail }
  resume := perform .resume (fun script ↦ answer script.resume)
    fun script ↦ { script with resume := script.resume.tail }
  dump := perform .dump (fun script ↦ dumpAnswer script.dump)
    fun script ↦ { script with dump := script.dump.tail }
  disconnect := perform .disconnect (fun script ↦ answer script.disconnect)
    fun script ↦ { script with disconnect := script.disconnect.tail }

end ScriptedSession

end Lockstep
