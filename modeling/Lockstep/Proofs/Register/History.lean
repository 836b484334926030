import Lockstep.Proofs.Attempt
import Lockstep.Proofs.Register.Dump
import Lockstep.Proofs.Register.Field

namespace Lockstep

inductive Merge where
  | fields (texts : List (List Char))
  | dump (text : String)
  | writes (entries : List (Register × Word))

inductive Item where
  | field (text : List Char)
  | line (text : List Char)
  | write (entry : Register × Word)

namespace Item

def Names : Item → Register → Prop
  | field text, register => Field.Names text register
  | line text, register => Dump.Names text register
  | write entry, register => entry.1 = register

def Assigns : Item → Register → Word → Prop
  | field text, register, word => Field.Assigns text register word
  | line text, register, word => Dump.Assigns text register word
  | write entry, register, word => entry = (register, word)

def Sound : Item → Prop
  | field text => Field.Sound text
  | line text => Dump.Sound text
  | write _ => True

theorem names_of_assigns {register : Register} {word : Word} (item : Item)
    (h : item.Assigns register word) : item.Names register := by
  cases item with
  | field text => exact Field.Assigns.names h
  | line text => exact Dump.Assigns.names h
  | write entry => exact congrArg Prod.fst h

end Item

namespace Merge

def items : Merge → List Item
  | fields texts => texts.map .field
  | dump text => (Text.pieces (· == '\n') text.toList).map .line
  | writes entries => entries.map .write

def Sound (merge : Merge) : Prop :=
  ∀ item ∈ merge.items, item.Sound

def Names (merge : Merge) (register : Register) : Prop :=
  ∃ item ∈ merge.items, item.Names register

/-- The last item that names the register gives it the value. -/
def Assigns (merge : Merge) (register : Register) (word : Word) : Prop :=
  Latest (·.Names register) (·.Assigns register) merge.items (some word)

def perform : Merge → Attempt FieldError Registers Unit
  | fields texts => Registers.mergeFields texts
  | dump text => Registers.mergeDump text
  | writes entries => modify (·.apply (.ofWrites entries))

end Merge

/-- The registers after merges. One that fails does not keep the next one from being made. -/
def Registers.afterMerges (registers : Registers) (merges : List Merge) : Registers :=
  merges.foldl (fun registers merge ↦ (merge.perform registers).2) registers

namespace Update

variable {update next : Update} {item : Item}

def addItem (update : Update) : Item → Except FieldError Update
  | .field text => update.addField text
  | .line text => update.addLine text
  | .write entry => .ok (update.write entry.1 entry.2)

theorem exists_addItem_iff (update : Update) (item : Item) :
    (∃ next, update.addItem item = .ok next) ↔ item.Sound := by
  cases item with
  | field text => exact exists_addField_iff update
  | line text => exact exists_addLine_iff update text
  | write entry => exact ⟨fun _ ↦ trivial, fun _ ↦ ⟨_, rfl⟩⟩

theorem get_addItem (h : update.addItem item = .ok next) (register : Register) :
    (∃ word, item.Assigns register word ∧ next.get register = some word) ∨
      ¬ item.Names register ∧ next.get register = update.get register := by
  cases item with
  | field text => exact get_addField h register
  | line text => exact get_addLine h register
  | write entry =>
    cases h
    exact update.get_write_cases entry register

theorem latest_of_items {items : List Item} (h : items.foldlM addItem empty = .ok update)
    (register : Register) :
    Latest (·.Names register) (·.Assigns register) items (update.get register) := by
  refine latest_of_foldlM ?_ h
  exact fun _ _ _ ha ↦ get_addItem ha register

end Update

namespace Merge

variable {registers : Registers}

theorem perform_eq (merge : Merge) :
    merge.perform = Registers.merge (merge.items.foldlM Update.addItem .empty) := by
  cases merge with
  | fields texts =>
    rw [items, List.foldlM_map]
    rfl
  | dump text =>
    rw [items, List.foldlM_map, perform, Registers.mergeDump, Update.ofDump_eq_foldlM]
    rfl
  | writes entries =>
    have hw : entries.foldlM (fun update entry ↦ update.addItem (.write entry)) Update.empty =
      .ok (.ofWrites entries) := List.foldlM_pure
    rw [items, List.foldlM_map, hw]
    rfl

theorem sound_iff (merge : Merge) :
    merge.Sound ↔ ∃ update, merge.items.foldlM Update.addItem .empty = .ok update :=
  (exists_foldlM_iff Update.exists_addItem_iff).symm

theorem perform_of_error {merge : Merge} {error : FieldError}
    (h : merge.items.foldlM Update.addItem .empty = .error error) :
    merge.perform registers = (.error error, registers) := by
  rw [perform_eq, h, Registers.merge_error]

theorem perform_of_ok {merge : Merge} {update : Update}
    (h : merge.items.foldlM Update.addItem .empty = .ok update) :
    merge.perform registers = (.ok (), registers.apply update) := by
  rw [perform_eq, h, Registers.merge_ok]

theorem get_perform (merge : Merge) (registers : Registers) (register : Register) :
    (∃ word, (merge.Sound ∧ merge.Assigns register word) ∧
        (merge.perform registers).2.get register = word) ∨
      ¬ (merge.Sound ∧ merge.Names register) ∧
        (merge.perform registers).2.get register = registers.get register := by
  cases hu : merge.items.foldlM Update.addItem .empty with
  | error error =>
    rw [perform_of_error hu]
    refine .inr ⟨fun h ↦ ?_, rfl⟩
    obtain ⟨update, hs⟩ := merge.sound_iff.mp h.1
    cases hu.symm.trans hs
  | ok update =>
    have hs : merge.Sound := merge.sound_iff.mpr ⟨update, hu⟩
    have hl := Update.latest_of_items hu register
    rw [perform_of_ok hu, Registers.get_apply]
    cases hv : update.get register with
    | some word =>
      rw [hv] at hl
      exact .inl ⟨word, ⟨hs, hl⟩, rfl⟩
    | none =>
      have hn := (hl.eq_none_iff fun item _ ha ↦ item.names_of_assigns ha).mp hv
      exact .inr ⟨fun h ↦ h.2.elim fun item hi ↦ hn item hi.1 hi.2, rfl⟩

end Merge

/-- Whatever merges were made, a register holds what the last of those that went through and name it
gives it, and without one it holds what it held before. A merge goes through exactly if all of its
items are sound, and otherwise it changes nothing. -/
theorem latest_get_afterMerges (registers : Registers) (merges : List Merge) :
    (∀ register, ∃ value,
      Latest (fun merge ↦ merge.Sound ∧ merge.Names register)
        (fun merge word ↦ merge.Sound ∧ merge.Assigns register word) merges value ∧
      (registers.afterMerges merges).get register = value.getD (registers.get register)) ∧
    ∀ (merge : Merge) (earlier : Registers),
      ((merge.perform earlier).1 = .ok () ↔ merge.Sound) ∧
        ((∃ error, merge.perform earlier = (.error error, earlier)) ↔ ¬ merge.Sound) := by
  refine ⟨fun register ↦ ?_, fun merge earlier ↦ ?_⟩
  · have hpure : merges.foldlM (fun registers merge ↦ .ok (merge.perform registers).2) registers =
        (.ok (registers.afterMerges merges) : Except FieldError Registers) := List.foldlM_pure
    obtain ⟨value, hl, hg⟩ := latest_of_foldlM (fun registers : Registers ↦ registers.get register) id
      (fun registers merge next h ↦ Except.ok.inj h ▸ merge.get_perform registers register) hpure
    refine ⟨value, hl, hg.trans ?_⟩
    cases value <;> rfl
  · cases hu : merge.items.foldlM Update.addItem .empty with
    | error error =>
      rw [Merge.perform_of_error hu, merge.sound_iff, hu]
      simp
    | ok update =>
      rw [Merge.perform_of_ok hu, merge.sound_iff, hu]
      simp

example : Registers.afterMerges .zero
    [.fields ["af:1".toList, "pc:2".toList], .fields ["pc:3".toList, "pc:x".toList],
      .dump "sp\nAF 5\naf 0x4 4"] = ⟨4, 0, 0, 0, 0, 2⟩ := rfl

end Lockstep
