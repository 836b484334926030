import Lockstep.Proofs.Remote.Block
import Lockstep.Proofs.Remote.Rounds

namespace Lockstep

/-- After each record the state is the golden one. -/
structure Tracks (states : List Registers) (records : List Record) : Prop where
  length_eq : states.length = records.length
  state_eq : ∀ i < records.length, states[i]? = some (.ofRecords (records.take (i + 1)))

namespace Tracks

variable {states : List Registers} {records : List Record}

theorem concat_iff {state : Registers} {record : Record} :
    Tracks (states ++ [state]) (records ++ [record]) ↔
      Tracks states records ∧ state = .ofRecords (records ++ [record]) := by
  constructor
  · rintro ⟨hl, hs⟩
    have hlen : states.length = records.length := by simpa using hl
    refine ⟨⟨hlen, fun i hi ↦ ?_⟩, ?_⟩
    · have h := hs i (by simp; omega)
      rwa [List.getElem?_append_left (by omega), List.take_append_of_le_length hi] at h
    · have h := hs records.length (by simp)
      rw [List.getElem?_append_right (by omega), hlen, Nat.sub_self,
        List.take_of_length_le (by simp)] at h
      exact Option.some.inj h
  · rintro ⟨⟨hl, hs⟩, rfl⟩
    refine ⟨by simp [hl], fun i hi ↦ ?_⟩
    by_cases hr : i < records.length
    · rw [List.getElem?_append_left (by omega), List.take_append_of_le_length hr]
      exact hs i hr
    · have hi : i = states.length := by
        simp only [List.length_append, List.length_singleton] at hi
        omega
      rw [hi, List.getElem?_concat_length, hl, List.take_of_length_le (by simp)]

theorem exists_first_of_not (hl : states.length = records.length) (h : ¬ Tracks states records) :
    ∃ k record live, records[k]? = some record ∧ states[k]? = some live ∧
      Tracks (states.take k) (records.take k) ∧ live ≠ .ofRecords (records.take (k + 1)) := by
  -- From the right, so that any mismatch among the earlier states comes before the last one.
  induction records using List.reverseRecOn generalizing states with
  | nil => exact absurd ⟨hl, by simp⟩ h
  | append_singleton records record ih =>
    rcases List.eq_nil_or_concat states with rfl | ⟨states, state, rfl⟩
    · simp at hl
    rw [List.concat_eq_append] at hl h ⊢
    have hlen : states.length = records.length := by simpa using hl
    by_cases ht : Tracks states records
    · have hne : state ≠ .ofRecords (records ++ [record]) := fun he ↦ h (concat_iff.mpr ⟨ht, he⟩)
      refine ⟨records.length, record, state, by simp, by simp [← hlen], ?_, ?_⟩
      · rw [List.take_left' hlen, List.take_left' rfl]
        exact ht
      · rwa [List.take_of_length_le (by simp)]
    · obtain ⟨k, first, live, hr, hs, ht, hne⟩ := ih hlen ht
      have hk : k < records.length := (List.getElem?_eq_some_iff.mp hr).1
      refine ⟨k, first, live, ?_, ?_, ?_, ?_⟩
      · rwa [List.getElem?_append_left hk]
      · rwa [List.getElem?_append_left (by omega)]
      · rwa [List.take_append_of_le_length (by omega), List.take_append_of_le_length (by omega)]
      · rwa [List.take_append_of_le_length (by omega)]

/-- Tables of states agree with the golden records exactly if the states do. -/
theorem agree_iff :
    Agree records (states.map fun state ↦ RegisterBlock.table state.entries) ↔
      Tracks states records := by
  induction records using List.reverseRecOn generalizing states with
  | nil =>
    constructor
    · intro h
      have hl := h.length_eq
      simp only [List.length_map, List.length_nil] at hl
      exact ⟨hl, by simp⟩
    · intro h
      obtain rfl := List.length_eq_zero_iff.mp h.length_eq
      exact .nil
  | append_singleton records record ih =>
    rcases List.eq_nil_or_concat states with rfl | ⟨states, state, rfl⟩
    · constructor
      · intro h
        simpa using h.length_eq
      · intro h
        simpa using h.length_eq
    · rw [List.concat_eq_append, List.map_append, List.map_singleton, Agree.concat_iff, concat_iff,
        ih, RegisterBlock.mergeDump_table, Attempt.pair_eq_iff, eq_self, true_and]

end Tracks

namespace Round

variable {round : Round} {dump : String}

/-- The target stopped at a signal, and its block is read as this state. The dump made of the block
leaves nothing of an earlier state. -/
structure Shows (round : Round) (state : Registers) : Prop where
  stopped : ∃ code, StopReply.parse? round.stop = some (.signal code)
  decoded : RegisterBlock.decode round.block Register.all = .ok state.entries
  merged : ∃ dump, RemoteSession.readRegisters Register.all round.block = .ok dump ∧
    ∀ earlier : Registers, Registers.mergeDump dump earlier = (.ok (), state)

theorem Yields.shows (h : round.Yields dump) :
    ∃ state : Registers, round.Shows state ∧ dump = RegisterBlock.table state.entries := by
  obtain ⟨hs, hd⟩ := h
  have hread := hd
  unfold RemoteSession.readRegisters at hd
  split at hd
  · simp at hd
  · cases he : RegisterBlock.decode round.block Register.all with
    | error error =>
      rw [he] at hd
      simp [Except.map] at hd
    | ok entries =>
      rw [he] at hd
      cases hd
      obtain ⟨state, rfl⟩ := RegisterBlock.entries_of_decode he
      exact ⟨state, ⟨hs, he, _, hread, fun earlier ↦ RegisterBlock.mergeDump_table earlier state⟩,
        rfl⟩

theorem states_of_yields {rounds : List Round} {dumps : List String}
    (h : List.Forall₂ Yields rounds dumps) :
    ∃ states, List.Forall₂ Shows rounds states ∧
      dumps = states.map fun state : Registers ↦ RegisterBlock.table state.entries := by
  induction h with
  | nil => exact ⟨[], .nil, rfl⟩
  | cons hy _ ih =>
    obtain ⟨state, hs, rfl⟩ := hy.shows
    obtain ⟨states, hss, rfl⟩ := ih
    exact ⟨state :: states, .cons hs hss, rfl⟩

end Round

end Lockstep
