import Lockstep.Text.Blank

namespace Lockstep

inductive Register where
  | af | bc | de | hl | sp | pc
  deriving DecidableEq, Repr

namespace Register

def all : List Register := [af, bc, de, hl, sp, pc]

def name : Register → String
  | af => "af"
  | bc => "bc"
  | de => "de"
  | hl => "hl"
  | sp => "sp"
  | pc => "pc"

def index : Register → Nat
  | af => 0
  | bc => 1
  | de => 2
  | hl => 3
  | sp => 4
  | pc => 5

def ofName? (name : List Char) : Option Register :=
  all.find? fun register ↦ register.name.toList == name

theorem mem_all (register : Register) : register ∈ all := by
  cases register <;> decide

theorem ofName?_name (register : Register) : ofName? register.name.toList = some register := by
  cases register <;> decide

end Register

structure Bank (α : Type) where
  af : α
  bc : α
  de : α
  hl : α
  sp : α
  pc : α
  deriving DecidableEq, Repr

namespace Bank

variable {α : Type}

def ofFn (f : Register → α) : Bank α :=
  ⟨f .af, f .bc, f .de, f .hl, f .sp, f .pc⟩

def get (bank : Bank α) : Register → α
  | .af => bank.af
  | .bc => bank.bc
  | .de => bank.de
  | .hl => bank.hl
  | .sp => bank.sp
  | .pc => bank.pc

def set (bank : Bank α) (register : Register) (value : α) : Bank α :=
  match register with
  | .af => { bank with af := value }
  | .bc => { bank with bc := value }
  | .de => { bank with de := value }
  | .hl => { bank with hl := value }
  | .sp => { bank with sp := value }
  | .pc => { bank with pc := value }

def values (bank : Bank α) : List α :=
  Register.all.map bank.get

@[simp] theorem get_ofFn (f : Register → α) (register : Register) :
    (ofFn f).get register = f register := by
  cases register <;> rfl

@[simp] theorem get_set (bank : Bank α) (register other : Register) (value : α) :
    (bank.set register value).get other = if other = register then value else bank.get other := by
  cases register <;> cases other <;> rfl

theorem ext_get {a b : Bank α} (h : ∀ register, a.get register = b.get register) : a = b := by
  cases a
  cases b
  simp only [mk.injEq]
  exact ⟨h .af, h .bc, h .de, h .hl, h .sp, h .pc⟩

end Bank

end Lockstep
