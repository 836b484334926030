import Lockstep.Attempt
import Lockstep.Register.Basic
import Lockstep.Register.Word

namespace Lockstep

abbrev Update := Bank (Option Word)

namespace Update

def empty : Update := Bank.ofFn fun _ ↦ none

def write (update : Update) (register : Register) (value : Word) : Update :=
  update.set register (some value)

def isEmpty (update : Update) : Bool :=
  update.values.all Option.isNone

def entries (update : Update) : List (Register × Word) :=
  Register.all.filterMap fun register ↦ (update.get register).map (register, ·)

end Update

abbrev Registers := Bank Word

namespace Registers

def zero : Registers := Bank.ofFn fun _ ↦ 0

def writeAll (registers : Registers) (entries : List (Register × Word)) : Registers :=
  entries.foldl (fun registers entry ↦ registers.set entry.1 entry.2) registers

def apply (registers : Registers) (update : Update) : Registers :=
  registers.writeAll update.entries

/-- Makes an update once all of it has been read. -/
def merge (parsed : Except FieldError Update) : Attempt FieldError Registers Unit := do
  let update ← Attempt.ofExcept parsed
  modify (·.apply update)

def diff (registers other : Registers) : List Register :=
  Register.all.filter fun register ↦ registers.get register != other.get register

def lookup (registers : Registers) (name : String) : Except FieldError Word :=
  match Register.ofName? name.toList with
  | some register => .ok (registers.get register)
  | none => .error (.unknownRegister name)

def field (registers : Registers) (register : Register) : List Char :=
  register.name.toList ++ ':' :: '0' :: 'x' :: (registers.get register).fullText

def render (registers : Registers) : String :=
  String.ofList (List.intercalate [' '] (Register.all.map registers.field))

theorem get_writeAll_filterMap (registers : Registers) (update : Update)
    (written : List Register) (register : Register) :
    (registers.writeAll (written.filterMap fun register ↦
        (update.get register).map (register, ·))).get register =
      if register ∈ written then (update.get register).getD (registers.get register)
      else registers.get register := by
  induction written generalizing registers with
  | nil => rfl
  | cons next written ih =>
    cases hv : update.get next with
    | none =>
      rw [List.filterMap_cons, hv, Option.map_none, ih]
      by_cases hn : register = next
      · simp [hn, hv]
      · simp [hn]
    | some value =>
      rw [List.filterMap_cons, hv, Option.map_some, writeAll, List.foldl_cons, ← writeAll, ih,
        Bank.get_set]
      by_cases hn : register = next
      · simp [hn, hv]
      · simp [hn]

@[simp] theorem get_apply (registers : Registers) (update : Update) (register : Register) :
    (registers.apply update).get register =
      (update.get register).getD (registers.get register) := by
  rw [apply, Update.entries, get_writeAll_filterMap, if_pos register.mem_all]

theorem merge_ok (update : Update) (registers : Registers) :
    merge (.ok update) registers = (.ok (), registers.apply update) := rfl

theorem merge_error (error : FieldError) (registers : Registers) :
    merge (.error error) registers = (.error error, registers) := rfl

theorem merge_of_error {parsed : Except FieldError Update} {registers : Registers}
    {error : FieldError} (h : (merge parsed registers).1 = .error error) :
    merge parsed registers = (.error error, registers) := by
  cases parsed with
  | error cause =>
    rw [merge_error] at h ⊢
    rw [← h]
  | ok update => cases h

end Registers

end Lockstep
