namespace Lockstep

/-- A result or an error, and the state afterwards in both cases. -/
abbrev Attempt (ε σ α : Type) := ExceptT ε (StateM σ) α

namespace Attempt

variable {ε σ α β : Type}

def ofExcept (result : Except ε α) : Attempt ε σ α := fun state ↦ (result, state)

theorem bind_apply (x : Attempt ε σ α) (f : α → Attempt ε σ β) (state : σ) :
    (x >>= f) state = match x state with
      | (.ok a, after) => f a after
      | (.error error, after) => (.error error, after) := by
  simp only [bind, ExceptT.bind, ExceptT.mk, ExceptT.bindCont, StateT.bind]
  rcases x state with ⟨_ | _, _⟩ <;> rfl

theorem pure_apply (a : α) (state : σ) : (pure a : Attempt ε σ α) state = (.ok a, state) := rfl

theorem throw_apply (error : ε) (state : σ) :
    (throw error : Attempt ε σ α) state = (.error error, state) := rfl

theorem get_apply (state : σ) : (get : Attempt ε σ σ) state = (.ok state, state) := rfl

theorem modify_apply (f : σ → σ) (state : σ) :
    (modify f : Attempt ε σ PUnit) state = (.ok ⟨⟩, f state) := rfl

theorem ofExcept_apply (result : Except ε α) (state : σ) :
    (ofExcept result : Attempt ε σ α) state = (result, state) := rfl

end Attempt

end Lockstep
