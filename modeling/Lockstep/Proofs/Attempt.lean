import Lockstep.Attempt

namespace Lockstep.Attempt

variable {ε σ α β : Type}

@[simp]
theorem pair_eq_iff {result result' : Except ε α} {state state' : σ} :
    @Eq (Id (Except ε α × σ)) (result, state) (result', state') ↔
      result = result' ∧ state = state' :=
  iff_of_eq (Prod.mk.injEq ..)

theorem bind_eq_ok_iff {x : Attempt ε σ α} {f : α → Attempt ε σ β} {state after : σ} {b : β} :
    (x >>= f) state = (.ok b, after) ↔
      ∃ a next, x state = (.ok a, next) ∧ f a next = (.ok b, after) := by
  rw [bind_apply]
  rcases x state with ⟨error | a, next⟩
  · simp
  · constructor
    · intro h
      exact ⟨a, next, rfl, h⟩
    · rintro ⟨a', next', h, hf⟩
      obtain ⟨ha, rfl⟩ := pair_eq_iff.mp h
      cases ha
      exact hf

theorem bind_eq_error_iff {x : Attempt ε σ α} {f : α → Attempt ε σ β} {state after : σ}
    {error : ε} :
    (x >>= f) state = (.error error, after) ↔ x state = (.error error, after) ∨
      ∃ a next, x state = (.ok a, next) ∧ f a next = (.error error, after) := by
  rw [bind_apply]
  rcases x state with ⟨error' | a, next⟩
  · simp
  · constructor
    · intro h
      exact .inr ⟨a, next, rfl, h⟩
    · rintro (h | ⟨a', next', h, hf⟩)
      · simp at h
      · obtain ⟨ha, rfl⟩ := pair_eq_iff.mp h
        cases ha
        exact hf

theorem tryCatch_apply (x : Attempt ε σ α) (handle : ε → Attempt ε σ α) (state : σ) :
    (tryCatch x handle) state = match x state with
      | (.ok a, after) => (.ok a, after)
      | (.error error, after) => handle error after := by
  simp only [tryCatch, tryCatchThe, MonadExceptOf.tryCatch, ExceptT.tryCatch, ExceptT.mk, bind,
    StateT.bind]
  rcases x state with ⟨_ | _, _⟩ <;> rfl

end Lockstep.Attempt
