import Lockstep.Proofs.Checker.Ending
import Lockstep.Proofs.Remote.Table
import Lockstep.Session.Script

namespace Lockstep

/-- The golden registers after each record, as tables. -/
def goldenTables (records : List Record) : List String :=
  (List.range records.length).map fun i ↦
    RegisterBlock.table (Registers.ofRecords (records.take (i + 1))).entries

theorem goldenTables_concat (records : List Record) (record : Record) :
    goldenTables (records ++ [record]) = goldenTables records ++
      [RegisterBlock.table (Registers.ofRecords (records ++ [record])).entries] := by
  have htake : ∀ i ∈ List.range records.length,
      RegisterBlock.table (Registers.ofRecords ((records ++ [record]).take (i + 1))).entries =
        RegisterBlock.table (Registers.ofRecords (records.take (i + 1))).entries := by
    intro i hi
    rw [List.take_append_of_le_length (List.mem_range.mp hi)]
  rw [goldenTables, List.length_append, List.length_singleton, List.range_succ, List.map_append,
    List.map_congr_left htake, List.map_singleton, List.take_of_length_le (by simp)]
  rfl

theorem agree_goldenTables (records : List Record) : Agree records (goldenTables records) := by
  induction records using List.reverseRecOn with
  | nil => exact .nil
  | append_singleton records record ih =>
    rw [goldenTables_concat]
    exact Agree.concat_iff.mpr ⟨ih, RegisterBlock.mergeDump_table _ _⟩

section

variable {σ : Type} [Debugger σ] {settings : Settings} {endpoint : String}

/-- A debugger with which every call of a run over some records succeeds, and that dumps the golden
registers each time. -/
def Echoes (settings : Settings) (endpoint : String) (records : List Record) (start : σ) : Prop :=
  ∃ s s', Debugger.survey settings endpoint (records.map Record.pc) start =
      (.ok (goldenTables records), s) ∧
    Debugger.disconnect s = (.ok (), s')

theorem Checker.checkTrace_of_echoes {cursor : Cursor} {checker : Checker σ}
    (h : Echoes settings endpoint cursor.records checker.session) :
    (checkTrace cursor endpoint settings checker).1 =
      cursor.failure?.elim (.ok (.passed cursor.records.length)) fun error ↦
        .error (.trace error) := by
  obtain ⟨s, s', hs, hd⟩ := h
  have hm : Matched settings endpoint checker.session cursor.records s :=
    ⟨goldenTables cursor.records, hs, agree_goldenTables _⟩
  cases hf : cursor.failure? with
  | none => exact congrArg Prod.fst (checkTrace_of_ends (.passed hf hm hd))
  | some error =>
    by_cases hr : cursor.records = []
    · exact congrArg Prod.fst (checkTrace_of_ends (.badHead hr hf))
    · exact congrArg Prod.fst (checkTrace_of_ends (.badTrace hr hf hm))

end

namespace ScriptedSession

def ofDumps (dumps : List String) (calls : List Call := []) : ScriptedSession :=
  ⟨{ dump := dumps.map .ok }, calls⟩

variable {settings : Settings} {endpoint : String} {pcs : List Word} {dumps : List String}

theorem survey_ofDumps (h : dumps.length = pcs.length) (more : List String) :
    ∃ calls, Debugger.survey settings endpoint pcs (ofDumps (dumps ++ more)) =
      (.ok dumps, ofDumps more calls) := by
  induction pcs using List.reverseRecOn generalizing dumps more with
  | nil =>
    obtain rfl := List.length_eq_zero_iff.mp h
    exact ⟨_, rfl⟩
  | append_singleton pcs pc ih =>
    rcases List.eq_nil_or_concat dumps with rfl | ⟨dumps, dump, rfl⟩
    · simp at h
    · have hlen : dumps.length = pcs.length := by simpa using h
      obtain ⟨calls, hs⟩ := ih hlen (dump :: more)
      have hd : Debugger.sample pc (ofDumps (dump :: more) calls) =
          (.ok dump, ofDumps more _) := rfl
      rw [List.concat_eq_append, List.append_assoc]
      exact ⟨_, Debugger.survey_concat_iff.mpr ⟨dumps, dump, _, hs, hd, rfl⟩⟩

theorem echoes_goldenTables (records : List Record) :
    Echoes settings endpoint records (ofDumps (goldenTables records)) := by
  have hlen : (goldenTables records).length = (records.map Record.pc).length := by
    simp [goldenTables]
  obtain ⟨calls, hs⟩ := survey_ofDumps hlen []
  rw [List.append_nil] at hs
  exact ⟨_, _, hs, rfl⟩

end ScriptedSession

end Lockstep
