import Lockstep.Proofs.Checker.Ending

namespace Lockstep

variable {σ τ α β : Type}

namespace Attempt

/-- From related states, both actions give the same result and leave related states. -/
def Alike (R : σ → τ → Prop) (x : Attempt SessionError σ α) (y : Attempt SessionError τ α) : Prop :=
  ∀ s t, R s t → (x s).1 = (y t).1 ∧ R (x s).2 (y t).2

namespace Alike

variable {R : σ → τ → Prop} {x : Attempt SessionError σ α} {y : Attempt SessionError τ α}

theorem pure (a : α) : Alike R (pure a) (pure a) := fun _ _ h ↦ ⟨rfl, h⟩

theorem apply (h : Alike R x y) {s s' : σ} {t : τ} (hR : R s t) {result : Except SessionError α}
    (hx : x s = (result, s')) : ∃ t', y t = (result, t') ∧ R s' t' := by
  obtain ⟨hresult, hafter⟩ := h s t hR
  rw [hx] at hresult hafter
  exact ⟨(y t).2, Prod.ext hresult.symm rfl, hafter⟩

theorem bind {f : α → Attempt SessionError σ β} {g : α → Attempt SessionError τ β}
    (h : Alike R x y) (hf : ∀ a, Alike R (f a) (g a)) : Alike R (x >>= f) (y >>= g) := by
  intro s t hR
  rw [bind_apply, bind_apply]
  rcases hx : x s with ⟨error | a, s'⟩
  · obtain ⟨t', hy, hafter⟩ := h.apply hR hx
    rw [hy]
    exact ⟨rfl, hafter⟩
  · obtain ⟨t', hy, hafter⟩ := h.apply hR hx
    rw [hy]
    exact hf a s' t' hafter

theorem throw (error : SessionError) :
    Alike R (throw error : Attempt SessionError σ α) (throw error) := fun _ _ h ↦ ⟨rfl, h⟩

theorem get_bind {f : σ → Attempt SessionError σ α} {g : τ → Attempt SessionError τ α}
    (h : ∀ s t, R s t → (f s s).1 = (g t t).1 ∧ R (f s s).2 (g t t).2) :
    Alike R (get >>= f) (get >>= g) := by
  intro s t hR
  rw [bind_apply, bind_apply, get_apply, get_apply]
  exact h s t hR

theorem tryCatch {handle : SessionError → Attempt SessionError σ α}
    {handle' : SessionError → Attempt SessionError τ α} (h : Alike R x y)
    (hh : ∀ error, Alike R (handle error) (handle' error)) :
    Alike R (tryCatch x handle) (tryCatch y handle') := by
  intro s t hR
  rw [tryCatch_apply, tryCatch_apply]
  rcases hx : x s with ⟨error | a, s'⟩
  · obtain ⟨t', hy, hafter⟩ := h.apply hR hx
    rw [hy]
    exact hh error s' t' hafter
  · obtain ⟨t', hy, hafter⟩ := h.apply hR hx
    rw [hy]
    exact ⟨rfl, hafter⟩

theorem mapM {ι : Type} {f : ι → Attempt SessionError σ α} {g : ι → Attempt SessionError τ α}
    (h : ∀ i, Alike R (f i) (g i)) (is : List ι) : Alike R (is.mapM f) (is.mapM g) := by
  induction is with
  | nil => exact pure []
  | cons i is ih =>
    rw [List.mapM_cons, List.mapM_cons]
    exact (h i).bind fun a ↦ ih.bind fun as ↦ pure _

end Alike

end Attempt

namespace Debugger

variable [Debugger σ] [Debugger τ]

/-- Related debuggers answer each call in the same way, and are related after it. -/
structure Alike (R : σ → τ → Prop) : Prop where
  configure : ∀ settings, Attempt.Alike R (Debugger.configure settings) (Debugger.configure settings)
  attach : ∀ endpoint, Attempt.Alike R (Debugger.attach endpoint) (Debugger.attach endpoint)
  breakAt : ∀ address, Attempt.Alike R (Debugger.breakAt address) (Debugger.breakAt address)
  resume : Attempt.Alike R Debugger.resume Debugger.resume
  dump : Attempt.Alike R Debugger.dump Debugger.dump
  disconnect : Attempt.Alike R Debugger.disconnect Debugger.disconnect

namespace Alike

variable {R : σ → τ → Prop}

theorem engage (h : Alike R) (settings : Settings) (endpoint : String) :
    Attempt.Alike R (Debugger.engage settings endpoint) (Debugger.engage settings endpoint) :=
  (h.configure settings).bind fun _ ↦ h.attach endpoint

theorem reach (h : Alike R) (pc : Word) :
    Attempt.Alike R (Debugger.reach pc) (Debugger.reach pc) :=
  (h.breakAt pc).bind fun _ ↦ h.resume

theorem sample (h : Alike R) (pc : Word) :
    Attempt.Alike R (Debugger.sample pc) (Debugger.sample pc) :=
  (h.reach pc).bind fun _ ↦ h.dump

theorem survey (h : Alike R) (settings : Settings) (endpoint : String) (pcs : List Word) :
    Attempt.Alike R (Debugger.survey settings endpoint pcs) (Debugger.survey settings endpoint pcs) :=
  (h.engage settings endpoint).bind fun _ ↦ .mapM h.sample pcs

end Alike

end Debugger

variable [Debugger σ] [Debugger τ] {R : σ → τ → Prop} {cursor : Cursor} {settings : Settings}
  {endpoint : String} {start : σ} {start' : τ}

theorem Matched.alike (ha : Debugger.Alike R) (hR : R start start') {finish : σ}
    {records : List Record} (h : Matched settings endpoint start records finish) :
    ∃ finish', Matched settings endpoint start' records finish' ∧ R finish finish' := by
  obtain ⟨dumps, hs, hagree⟩ := h
  obtain ⟨finish', hs', hfinish⟩ := (ha.survey _ _ _).apply hR hs
  exact ⟨finish', ⟨dumps, hs', hagree⟩, hfinish⟩

structure Checker.Alike (R : σ → τ → Prop) (checker : Checker σ) (other : Checker τ) : Prop where
  session : R checker.session other.session
  progress_eq : checker.progress = other.progress
  notices_eq : checker.notices = other.notices

theorem Ends.alike (ha : Debugger.Alike R) (hR : R start start')
    {result : Except CheckError Outcome} {final : Checker σ}
    (h : Ends cursor settings endpoint start result final) :
    ∃ final', Ends cursor settings endpoint start' result final' ∧
      Checker.Alike R final final' := by
  cases h with
  | badHead hr hf => exact ⟨_, .badHead hr hf, hR, rfl, rfl⟩
  | notEngaged hh he =>
    obtain ⟨_, he', hfinal⟩ := (ha.engage _ _).apply hR he
    exact ⟨_, .notEngaged hh he', hfinal, rfl, rfl⟩
  | notReached hr hm he =>
    obtain ⟨_, hm', hs⟩ := hm.alike ha hR
    obtain ⟨_, he', hfinal⟩ := (ha.reach _).apply hs he
    exact ⟨_, .notReached hr hm' he', hfinal, rfl, rfl⟩
  | notDumped hr hm hs he =>
    obtain ⟨_, hm', hstart⟩ := hm.alike ha hR
    obtain ⟨_, hs', hreached⟩ := (ha.reach _).apply hstart hs
    obtain ⟨_, he', hfinal⟩ := ha.dump.apply hreached he
    exact ⟨_, .notDumped hr hm' hs' he', hfinal, rfl, rfl⟩
  | badDump hr hm hs he =>
    obtain ⟨_, hm', hstart⟩ := hm.alike ha hR
    obtain ⟨_, hs', hfinal⟩ := (ha.sample _).apply hstart hs
    exact ⟨_, .badDump hr hm' hs' he, hfinal, rfl, rfl⟩
  | mismatch hr hm hs hl hn hf =>
    obtain ⟨_, hm', hstart⟩ := hm.alike ha hR
    obtain ⟨_, hs', hfinal⟩ := (ha.sample _).apply hstart hs
    exact ⟨_, .mismatch hr hm' hs' hl hn hf, hfinal, rfl, rfl⟩
  | badTrace hr hf hm =>
    obtain ⟨_, hm', hfinal⟩ := hm.alike ha hR
    exact ⟨_, .badTrace hr hf hm', hfinal, rfl, rfl⟩
  | notReleased hf hm he =>
    obtain ⟨_, hm', hs⟩ := hm.alike ha hR
    obtain ⟨_, he', hfinal⟩ := ha.disconnect.apply hs he
    exact ⟨_, .notReleased hf hm' he', hfinal, rfl, rfl⟩
  | passed hf hm hd =>
    obtain ⟨_, hm', hs⟩ := hm.alike ha hR
    obtain ⟨_, hd', hfinal⟩ := ha.disconnect.apply hs hd
    exact ⟨_, .passed hf hm' hd', hfinal, rfl, rfl⟩

/-- A run starts afresh, so it depends on nothing but the answers that it gets. -/
theorem Checker.checkTrace_alike (ha : Debugger.Alike R) (checker : Checker σ) (other : Checker τ)
    (hR : R checker.session other.session) :
    ∃ result, ∃ final : Checker σ, ∃ final' : Checker τ, Checker.Alike R final final' ∧
      checkTrace cursor endpoint settings checker =
        (result, { final with notices := checker.notices ++ final.notices }) ∧
      checkTrace cursor endpoint settings other =
        (result, { final' with notices := other.notices ++ final'.notices }) := by
  obtain ⟨result, final, h⟩ := exists_ends cursor settings endpoint checker.session
  obtain ⟨final', h', hfinal⟩ := h.alike ha hR
  exact ⟨result, final, final', hfinal, checkTrace_of_ends h, checkTrace_of_ends h'⟩

end Lockstep
