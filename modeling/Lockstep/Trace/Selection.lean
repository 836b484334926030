import Lockstep.Trace.Window

namespace Lockstep

inductive Preset where
  | bootRegs
  /-- The states of the boot code. The first one is logged before the target can be stopped. -/
  | bootStates
  deriving DecidableEq, Repr

namespace Preset

def path : Preset → String
  | bootRegs => "golden_regs.csv"
  | bootStates => "tests/golden_files/boot_states.txt"

def window : Preset → Window
  | bootRegs => ⟨0, some 501⟩
  | bootStates => ⟨1, some 50⟩

end Preset

/-- A choice of trace: a preset, and settings of one's own that win over it. -/
structure Selection where
  preset : Option Preset := none
  path : Option String := none
  skip : Option Nat := none
  limit : Option Nat := none
  deriving DecidableEq, Repr

def Selection.resolve (selection : Selection) : Option (String × Window) :=
  let stock := (selection.preset.map Preset.window).getD {}
  (selection.path.or (selection.preset.map Preset.path)).map fun path ↦
    (path, ⟨selection.skip.getD stock.skip, selection.limit.or stock.limit⟩)

end Lockstep
