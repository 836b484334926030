import Lockstep.Proofs.Checker.Ending

namespace Lockstep

variable {σ : Type} [Debugger σ]
variable {settings : Settings} {endpoint : String} {start : σ}

theorem Mismatch.mem_registers (found : Mismatch) (register : Register) :
    register ∈ found.registers ↔ found.live.get register ≠ found.golden.get register := by
  simp [registers, Registers.diff, Register.mem_all]

theorem Mismatch.registers_ne_nil {found : Mismatch} (h : found.live ≠ found.golden) :
    found.registers ≠ [] := by
  intro hnil
  refine h (Bank.ext_get fun register ↦ ?_)
  have hm := mem_registers found register
  rw [hnil] at hm
  simpa using hm

theorem ends_passed_iff {cursor : Cursor} {n : Nat} :
    (∃ final : Checker σ, Ends cursor settings endpoint start (.ok (.passed n)) final) ↔
      cursor.failure? = none ∧ cursor.records.length = n ∧ ∃ dumps s s',
        Debugger.survey settings endpoint (cursor.records.map Record.pc) start = (.ok dumps, s) ∧
        Debugger.disconnect s = (.ok (), s') ∧
        ∀ i ≤ n, Registers.ofDumps (dumps.take i) = .ok (.ofRecords (cursor.records.take i)) := by
  constructor
  · rintro ⟨final, h⟩
    cases h with
    | passed hf hm hd =>
      obtain ⟨dumps, hs, ha⟩ := hm
      exact ⟨hf, rfl, dumps, _, _, hs, hd, ha.live_eq⟩
  · rintro ⟨hf, rfl, dumps, s, s', hs, hd, ha⟩
    have hlen := Debugger.length_of_survey hs
    rw [List.length_map] at hlen
    exact ⟨_, .passed hf ⟨dumps, hs, hlen, ha⟩ hd⟩

theorem ends_failed_iff {cursor : Cursor} (hc : cursor.Counts) (hz : cursor.emitted = 0)
    {found : Mismatch} :
    (∃ final : Checker σ, Ends cursor settings endpoint start (.ok (.failed found)) final) ↔
      ∃ k dumps s live, k ≤ cursor.records.length ∧
        Debugger.survey settings endpoint ((cursor.records.take k).map Record.pc) start =
          (.ok dumps, s) ∧
        (∀ i < k, Registers.ofDumps (dumps.take i) = .ok (.ofRecords (cursor.records.take i))) ∧
        Registers.ofDumps dumps = .ok live ∧ live ≠ .ofRecords (cursor.records.take k) ∧
        found = ⟨k, cursor.window.skip + k, live, .ofRecords (cursor.records.take k)⟩ := by
  constructor
  · rintro ⟨final, h⟩
    cases h with
    | @mismatch earlier later record s s' dump live _ hr hm hs hl hn hf =>
      obtain ⟨dumps, hsurvey, ha⟩ := hm
      have htake : cursor.records.take (earlier.length + 1) = earlier ++ [record] := by
        simp [hr, List.take_append, List.take_of_length_le]
      have hget : cursor.records[earlier.length]? = some record := by simp [hr]
      have hline := hc.line_of_records hget
      rw [hz, Nat.add_zero] at hline
      refine ⟨earlier.length + 1, dumps ++ [dump], s', live, by simp [hr], ?_, fun i hi ↦ ?_, ?_, ?_, ?_⟩
      · rw [htake, List.map_append, List.map_singleton]
        exact Debugger.survey_concat_iff.mpr ⟨dumps, dump, s, hsurvey, hs, rfl⟩
      · have hlen := ha.length_eq
        have hlive := ha.live_eq i (by omega)
        rwa [hr, List.take_append_of_le_length (by omega), List.take_append_of_le_length (by omega)]
      · exact (Registers.ofDumps_concat_iff ha.ofDumps_eq dump).mpr hl
      · rwa [htake]
      · rw [hf, htake, hline]
        rfl
  · rintro ⟨k, dumps', s', live, hk, hsurvey, ha, hl, hn, rfl⟩
    cases k with
    | zero =>
      obtain ⟨-, rfl⟩ := Debugger.survey_nil_iff.mp hsurvey
      cases hl
      exact absurd rfl hn
    | succ k =>
      have hk' : k < cursor.records.length := by omega
      have htake : cursor.records.take (k + 1) = cursor.records.take k ++ [cursor.records[k]] := by
        simp
      have hr : cursor.records = cursor.records.take k ++ cursor.records[k] ::
          cursor.records.drop (k + 1) := by simp
      have hline := hc.line_of_records (List.getElem?_eq_getElem hk')
      rw [hz, Nat.add_zero] at hline
      rw [htake, List.map_append, List.map_singleton] at hsurvey
      obtain ⟨dumps, dump, s, hs, hd, rfl⟩ := Debugger.survey_concat_iff.mp hsurvey
      have hlen : dumps.length = (cursor.records.take k).length := by
        rw [Debugger.length_of_survey hs, List.length_map]
      have hagree : Agree (cursor.records.take k) dumps := by
        refine ⟨hlen, fun i hi ↦ ?_⟩
        rw [List.length_take] at hi hlen
        have hlive := ha i (by omega)
        rw [List.take_append_of_le_length (by omega)] at hlive
        rwa [List.take_take, Nat.min_eq_left (by omega)]
      rw [Registers.ofDumps_concat_iff hagree.ofDumps_eq] at hl
      rw [htake] at hn
      refine ⟨_, .mismatch hr ⟨dumps, hs, hagree⟩ hd hl hn ?_⟩
      simp [hline, Nat.min_eq_left (Nat.le_of_lt hk'), Nat.add_assoc]

/-- A run passes exactly the traces on which everything succeeds and agrees, and fails exactly where
the registers part for the first time; any other end is an error, that of the first thing to go
wrong. -/
theorem checkTrace_verdict (source : Source) (window : Window) (settings : Settings)
    (endpoint : String) (checker : Checker σ) :
    let cursor := Cursor.ofSource source window
    let verdict := (Checker.checkTrace cursor endpoint settings checker).1
    (∀ n, verdict = .ok (.passed n) ↔
      cursor.failure? = none ∧ cursor.records.length = n ∧ ∃ dumps s s',
        Debugger.survey settings endpoint (cursor.records.map Record.pc) checker.session =
          (.ok dumps, s) ∧
        Debugger.disconnect s = (.ok (), s') ∧
        ∀ i ≤ n, Registers.ofDumps (dumps.take i) = .ok (.ofRecords (cursor.records.take i))) ∧
    (∀ found, verdict = .ok (.failed found) ↔
      ∃ k dumps s live, k ≤ cursor.records.length ∧
        Debugger.survey settings endpoint ((cursor.records.take k).map Record.pc) checker.session =
          (.ok dumps, s) ∧
        (∀ i < k, Registers.ofDumps (dumps.take i) = .ok (.ofRecords (cursor.records.take i))) ∧
        Registers.ofDumps dumps = .ok live ∧ live ≠ .ofRecords (cursor.records.take k) ∧
        found = ⟨k, window.skip + k, live, .ofRecords (cursor.records.take k)⟩) ∧
    (∀ found, verdict = .ok (.failed found) → found.registers ≠ [] ∧
      ∀ register, register ∈ found.registers ↔
        found.live.get register ≠ found.golden.get register) ∧
    (∀ error, verdict = .error error ↔
      ∃ final : Checker σ, Ends cursor settings endpoint checker.session (.error error) final) := by
  intro cursor verdict
  have hfailed (found : Mismatch) : (∃ final : Checker σ,
      Ends cursor settings endpoint checker.session (.ok (.failed found)) final) ↔ _ :=
    ends_failed_iff (Cursor.counts_ofSource source window) rfl
  have hverdict (result : Except CheckError Outcome) : verdict = result ↔
      ∃ final : Checker σ, Ends cursor settings endpoint checker.session result final := by
    constructor
    · rintro rfl
      have hrun : Checker.checkTrace cursor endpoint settings checker =
        (verdict, (Checker.checkTrace cursor endpoint settings checker).2) := rfl
      obtain ⟨final, h, -⟩ := Checker.ends_of_checkTrace hrun
      exact ⟨final, h⟩
    · rintro ⟨final, h⟩
      exact congrArg Prod.fst (Checker.checkTrace_of_ends h)
  refine ⟨fun n ↦ ?_, fun found ↦ ?_, fun found h ↦ ?_, fun error ↦ hverdict _⟩
  · rw [hverdict, ends_passed_iff]
  · rw [hverdict, hfailed found]
    rfl
  · obtain ⟨final, hends⟩ := (hverdict _).mp h
    obtain ⟨k, dumps, s, live, -, -, -, -, hn, rfl⟩ := (hfailed found).mp ⟨final, hends⟩
    exact ⟨Mismatch.registers_ne_nil hn, Mismatch.mem_registers _⟩

end Lockstep
