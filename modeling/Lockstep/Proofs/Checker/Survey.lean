import Lockstep.Proofs.Checker.Steps
import Mathlib.Data.List.Induction

namespace Lockstep

namespace Registers

/-- The golden registers after some records. -/
def ofRecords (records : List Record) : Registers :=
  records.foldl (fun golden record ↦ golden.apply record.update) zero

def ofDumps (dumps : List String) : Except FieldError Registers :=
  let (result, live) := (dumps.forM mergeDump : Attempt FieldError Registers Unit) zero
  result.map fun _ ↦ live

theorem ofRecords_concat (records : List Record) (record : Record) :
    ofRecords (records ++ [record]) = (ofRecords records).apply record.update := by
  simp [ofRecords]

theorem ofDumps_eq_ok_iff {dumps : List String} {live : Registers} :
    ofDumps dumps = .ok live ↔
      (dumps.forM mergeDump : Attempt FieldError Registers Unit) zero = (.ok (), live) := by
  rw [ofDumps]
  rcases (dumps.forM mergeDump : Attempt FieldError Registers Unit) zero with ⟨_ | ⟨⟩, after⟩
  · simp [Except.map]
  · simp [Except.map]

theorem ofDumps_concat_iff {dumps : List String} {live after : Registers}
    (h : ofDumps dumps = .ok live) (dump : String) :
    ofDumps (dumps ++ [dump]) = .ok after ↔ mergeDump dump live = (.ok (), after) := by
  have hm : ((dumps ++ [dump]).forM mergeDump : Attempt FieldError Registers Unit) =
      (do dumps.forM mergeDump; mergeDump dump) := by
    simp
  rw [ofDumps_eq_ok_iff] at h
  rw [ofDumps_eq_ok_iff, hm, Attempt.bind_apply, h]

end Registers

/-- After each record the live registers are the golden ones. -/
structure Agree (records : List Record) (dumps : List String) : Prop where
  length_eq : dumps.length = records.length
  live_eq : ∀ i ≤ records.length,
    Registers.ofDumps (dumps.take i) = .ok (Registers.ofRecords (records.take i))

namespace Agree

variable {records : List Record} {dumps : List String}

theorem nil : Agree [] [] := by
  refine ⟨rfl, fun i hi ↦ ?_⟩
  simp [Registers.ofDumps, Registers.ofRecords]
  rfl

theorem ofDumps_eq (h : Agree records dumps) :
    Registers.ofDumps dumps = .ok (Registers.ofRecords records) := by
  have hn := h.live_eq records.length (Nat.le_refl _)
  rwa [List.take_length, ← h.length_eq, List.take_length] at hn

theorem concat_iff {record : Record} {dump : String} :
    Agree (records ++ [record]) (dumps ++ [dump]) ↔ Agree records dumps ∧
      Registers.mergeDump dump (Registers.ofRecords records) =
        (.ok (), Registers.ofRecords (records ++ [record])) := by
  constructor
  · intro h
    have hlen : dumps.length = records.length := by simpa using h.length_eq
    have hbefore : Agree records dumps := by
      refine ⟨hlen, fun i hi ↦ ?_⟩
      have hl := h.live_eq i (by simp; omega)
      rwa [List.take_append_of_le_length (by omega), List.take_append_of_le_length hi] at hl
    refine ⟨hbefore, ?_⟩
    exact (Registers.ofDumps_concat_iff hbefore.ofDumps_eq dump).mp h.ofDumps_eq
  · rintro ⟨h, hd⟩
    have hlen := h.length_eq
    refine ⟨by simp [hlen], fun i hi ↦ ?_⟩
    by_cases hr : i ≤ records.length
    · rw [List.take_append_of_le_length (by omega), List.take_append_of_le_length hr]
      exact h.live_eq i hr
    · rw [List.take_of_length_le (by simp; omega), List.take_of_length_le (by simp; omega)]
      exact (Registers.ofDumps_concat_iff h.ofDumps_eq dump).mpr hd

theorem of_prefix {dumps' : List String} (h : Agree records dumps) (hp : dumps' <+: dumps) :
    Agree (records.take dumps'.length) dumps' := by
  have hle := hp.length_le
  rw [h.length_eq] at hle
  have hlen : (records.take dumps'.length).length = dumps'.length := by simp [hle]
  refine ⟨hlen.symm, fun i hi ↦ ?_⟩
  rw [hlen] at hi
  obtain ⟨rest, rfl⟩ := hp
  have hlive := h.live_eq i (by omega)
  rw [List.take_append_of_le_length hi] at hlive
  rwa [List.take_take, Nat.min_eq_left hi]

end Agree

namespace Debugger

variable {σ : Type} [Debugger σ] {settings : Settings} {endpoint : String}

theorem survey_nil_iff {s s' : σ} {dumps : List String} :
    survey settings endpoint [] s = (.ok dumps, s') ↔
      engage settings endpoint s = (.ok (), s') ∧ dumps = [] := by
  rw [survey, List.mapM_nil, Attempt.bind_eq_ok_iff]
  simp only [Attempt.pure_apply, Attempt.pair_eq_iff]
  constructor
  · rintro ⟨⟨⟩, next, he, hd, rfl⟩
    cases hd
    exact ⟨he, rfl⟩
  · rintro ⟨he, rfl⟩
    exact ⟨(), s', he, rfl, rfl⟩

theorem survey_concat_iff {pcs : List Word} {pc : Word} {s s' : σ} {dumps' : List String} :
    survey settings endpoint (pcs ++ [pc]) s = (.ok dumps', s') ↔
      ∃ dumps dump s₁, survey settings endpoint pcs s = (.ok dumps, s₁) ∧
        sample pc s₁ = (.ok dump, s') ∧ dumps' = dumps ++ [dump] := by
  have h : survey settings endpoint (pcs ++ [pc]) = (do
      let dumps ← survey (σ := σ) settings endpoint pcs
      let dump ← sample pc
      pure (dumps ++ [dump])) := by
    simp [survey, List.mapM_append]
  rw [h, Attempt.bind_eq_ok_iff]
  simp only [Attempt.bind_eq_ok_iff, Attempt.pure_apply, Attempt.pair_eq_iff, Except.ok.injEq]
  constructor
  · rintro ⟨dumps, s₁, hs, dump, s₂, hd, rfl, rfl⟩
    exact ⟨dumps, dump, s₁, hs, hd, rfl⟩
  · rintro ⟨dumps, dump, s₁, hs, hd, rfl⟩
    exact ⟨dumps, s₁, hs, dump, s', hd, rfl, rfl⟩

theorem length_of_survey {pcs : List Word} {s s' : σ} {dumps : List String}
    (h : survey settings endpoint pcs s = (.ok dumps, s')) : dumps.length = pcs.length := by
  induction pcs using List.reverseRecOn generalizing dumps s' with
  | nil =>
    obtain ⟨-, rfl⟩ := survey_nil_iff.mp h
    rfl
  | append_singleton pcs pc ih =>
    obtain ⟨dumps, dump, s₁, hs, hd, rfl⟩ := survey_concat_iff.mp h
    simp [ih hs]

end Debugger

end Lockstep
