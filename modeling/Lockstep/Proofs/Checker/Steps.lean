import Lockstep.Checker.Basic
import Lockstep.Proofs.Attempt

namespace Lockstep

namespace Debugger

variable {σ : Type} [Debugger σ]

def reach (pc : Word) : Attempt SessionError σ Unit := do
  Debugger.breakAt pc
  Debugger.resume

def sample (pc : Word) : Attempt SessionError σ String := do
  reach pc
  Debugger.dump

def engage (settings : Settings) (endpoint : String) : Attempt SessionError σ Unit := do
  Debugger.configure settings
  Debugger.attach endpoint

/-- Attaches and dumps the registers at each address in turn. -/
def survey (settings : Settings) (endpoint : String) (pcs : List Word) :
    Attempt SessionError σ (List String) := do
  engage settings endpoint
  pcs.mapM sample

end Debugger

theorem Registers.pc_apply (golden : Registers) (record : Record) :
    (golden.apply record.update).pc = record.pc := by
  have h : (record.update).get .pc = some record.pc := record.sets_pc
  have hpc := get_apply golden record.update .pc
  rw [h, Option.getD_some] at hpc
  exact hpc

namespace Checker

variable {σ : Type}

def merge (checker : Checker σ) (record : Record) : Checker σ :=
  { checker with
    progress := { checker.progress with golden := checker.progress.golden.apply record.update } }

theorem ask_apply {α : Type} (action : Attempt SessionError σ α) (checker : Checker σ) :
    ask action checker = match action checker.session with
      | (.ok a, session) => (.ok a, { checker with session })
      | (.error error, session) => (.error (.session error), { checker with session }) := by
  rw [ask]
  rcases action checker.session with ⟨_ | a, s⟩ <;> rfl

theorem ask_bind {α β : Type} (x : Attempt SessionError σ α) (f : α → Attempt SessionError σ β) :
    (ask (x >>= f) : Attempt CheckError (Checker σ) β) = ask x >>= fun a ↦ ask (f a) := by
  funext checker
  simp only [ask_apply, Attempt.bind_apply]
  rcases x checker.session with ⟨_ | a, s⟩ <;> rfl

theorem announce_apply (notice : Notice) (checker : Checker σ) :
    announce notice checker = (.ok (), { checker with notices := checker.notices ++ [notice] }) :=
  rfl

theorem update_apply (change : Progress → Progress) (checker : Checker σ) :
    update change checker = (.ok (), { checker with progress := change checker.progress }) := rfl

theorem setPhase_apply (phase : Phase) (checker : Checker σ) :
    setPhase phase checker =
      (.ok (), { checker with progress := { checker.progress with phase } }) := rfl

theorem sample_apply (dump : String) (checker : Checker σ) :
    sample dump checker = match Registers.mergeDump dump checker.progress.live with
      | (.ok (), live) => (.ok (), { checker with progress := { checker.progress with live } })
      | (.error error, live) => (.error (.registers error),
          { checker with progress := { checker.progress with live } }) := by
  rw [sample]
  rcases Registers.mergeDump dump checker.progress.live with ⟨_ | ⟨⟩, live⟩ <;> rfl

theorem compare_apply (step line : Nat) (checker : Checker σ) :
    compare step line checker =
      if checker.progress.live = checker.progress.golden then (.ok none, checker)
      else
        (.ok (some ⟨step, line, checker.progress.live, checker.progress.golden⟩),
          { checker with progress := { checker.progress with phase := .failed } }) := by
  rw [compare, Attempt.bind_apply, Attempt.get_apply]
  dsimp only
  split <;> rfl

variable [Debugger σ]

theorem sampleAt_eq (pc : Word) :
    (sampleAt pc : Attempt CheckError (Checker σ) Unit) = (do
      ask (Debugger.reach pc)
      announce .resumed
      let dump ← ask Debugger.dump
      sample dump) := by
  simp only [sampleAt, Debugger.reach, ask_bind, bind_assoc]

variable {record : Record} {checker : Checker σ} {s s' : σ} {dump : String}

theorem checkRecord_of_reach_error {error : SessionError}
    (h : Debugger.reach record.pc checker.session = (.error error, s)) :
    checkRecord record checker =
      (.error (.session error), { checker.merge record with session := s }) := by
  simp only [checkRecord, Attempt.bind_apply, update_apply, Attempt.get_apply,
    Registers.pc_apply, sampleAt_eq, ask_apply, h]
  rfl

theorem checkRecord_of_dump_error {error : SessionError}
    (h : Debugger.reach record.pc checker.session = (.ok (), s))
    (hd : Debugger.dump s = (.error error, s')) :
    checkRecord record checker = (.error (.session error),
      { checker.merge record with session := s', notices := checker.notices ++ [.resumed] }) := by
  simp only [checkRecord, Attempt.bind_apply, update_apply, Attempt.get_apply,
    Registers.pc_apply, sampleAt_eq, ask_apply, announce_apply, h, hd]
  rfl

theorem checkRecord_of_bad_dump {error : FieldError}
    (h : Debugger.sample record.pc checker.session = (.ok dump, s))
    (hb : (Registers.mergeDump dump checker.progress.live).1 = .error error) :
    checkRecord record checker = (.error (.registers error),
      { checker.merge record with session := s, notices := checker.notices ++ [.resumed] }) := by
  obtain ⟨⟨⟩, s₁, hr, hd⟩ := Attempt.bind_eq_ok_iff.mp h
  have hb := Registers.mergeDump_of_error hb
  simp only [checkRecord, Attempt.bind_apply, update_apply, Attempt.get_apply,
    Registers.pc_apply, sampleAt_eq, ask_apply, announce_apply, sample_apply, hr, hd, hb]
  rfl

theorem checkRecord_of_dump {live : Registers}
    (h : Debugger.sample record.pc checker.session = (.ok dump, s))
    (hl : Registers.mergeDump dump checker.progress.live = (.ok (), live)) :
    checkRecord record checker =
      let golden := checker.progress.golden.apply record.update
      let step := checker.progress.compared + 1
      let notices := checker.notices ++ [.resumed, .compared, .stepped step record.pc]
      if live = golden then
        (.ok none, ⟨s, ⟨golden, live, step, checker.progress.phase⟩, notices⟩)
      else
        (.ok (some ⟨step, record.line, live, golden⟩), ⟨s, ⟨golden, live, step, .failed⟩, notices⟩) := by
  obtain ⟨⟨⟩, s₁, hr, hd⟩ := Attempt.bind_eq_ok_iff.mp h
  simp only [checkRecord, Attempt.bind_apply, update_apply, Attempt.get_apply,
    Registers.pc_apply, sampleAt_eq, ask_apply, announce_apply, sample_apply, hr, hd, hl,
    compare_apply, List.append_assoc, List.cons_append, List.nil_append]

theorem checkRecord_of_match
    (h : Debugger.sample record.pc checker.session = (.ok dump, s))
    (hl : Registers.mergeDump dump checker.progress.live =
      (.ok (), checker.progress.golden.apply record.update)) :
    checkRecord record checker =
      let golden := checker.progress.golden.apply record.update
      let step := checker.progress.compared + 1
      (.ok none, ⟨s, ⟨golden, golden, step, checker.progress.phase⟩,
        checker.notices ++ [.resumed, .compared, .stepped step record.pc]⟩) :=
  (checkRecord_of_dump h hl).trans (if_pos rfl)

theorem checkRecord_of_mismatch {live : Registers}
    (h : Debugger.sample record.pc checker.session = (.ok dump, s))
    (hl : Registers.mergeDump dump checker.progress.live = (.ok (), live))
    (hn : live ≠ checker.progress.golden.apply record.update) :
    checkRecord record checker =
      let golden := checker.progress.golden.apply record.update
      let step := checker.progress.compared + 1
      (.ok (some ⟨step, record.line, live, golden⟩), ⟨s, ⟨golden, live, step, .failed⟩,
        checker.notices ++ [.resumed, .compared, .stepped step record.pc]⟩) :=
  (checkRecord_of_dump h hl).trans (if_neg hn)

/-- All that a comparison can come to, and the checker that it leaves. -/
inductive Compares (record : Record) (checker : Checker σ) :
    Except CheckError (Option Mismatch) → Checker σ → Prop
  | notReached {error : SessionError} {s : σ}
      (h : Debugger.reach record.pc checker.session = (.error error, s)) :
      Compares record checker (.error (.session error)) { checker.merge record with session := s }
  | notDumped {error : SessionError} {s s' : σ}
      (h : Debugger.reach record.pc checker.session = (.ok (), s))
      (hd : Debugger.dump s = (.error error, s')) :
      Compares record checker (.error (.session error))
        { checker.merge record with session := s', notices := checker.notices ++ [.resumed] }
  | badDump {dump : String} {error : FieldError} {s : σ}
      (h : Debugger.sample record.pc checker.session = (.ok dump, s))
      (hb : (Registers.mergeDump dump checker.progress.live).1 = .error error) :
      Compares record checker (.error (.registers error))
        { checker.merge record with session := s, notices := checker.notices ++ [.resumed] }
  | matched {dump : String} {golden : Registers} {s : σ}
      (h : Debugger.sample record.pc checker.session = (.ok dump, s))
      (hg : checker.progress.golden.apply record.update = golden)
      (hl : Registers.mergeDump dump checker.progress.live = (.ok (), golden)) :
      Compares record checker (.ok none)
        ⟨s, ⟨golden, golden, checker.progress.compared + 1, checker.progress.phase⟩,
          checker.notices ++
            [.resumed, .compared, .stepped (checker.progress.compared + 1) record.pc]⟩
  | mismatched {dump : String} {golden live : Registers} {s : σ}
      (h : Debugger.sample record.pc checker.session = (.ok dump, s))
      (hg : checker.progress.golden.apply record.update = golden)
      (hl : Registers.mergeDump dump checker.progress.live = (.ok (), live)) (hn : live ≠ golden) :
      Compares record checker
        (.ok (some ⟨checker.progress.compared + 1, record.line, live, golden⟩))
        ⟨s, ⟨golden, live, checker.progress.compared + 1, .failed⟩,
          checker.notices ++
            [.resumed, .compared, .stepped (checker.progress.compared + 1) record.pc]⟩

theorem compares_of_checkRecord {result : Except CheckError (Option Mismatch)} {after : Checker σ}
    (h : checkRecord record checker = (result, after)) : Compares record checker result after := by
  rcases hr : Debugger.reach record.pc checker.session with ⟨error | ⟨⟩, s⟩
  · obtain ⟨rfl, rfl⟩ := Attempt.pair_eq_iff.mp ((checkRecord_of_reach_error hr).symm.trans h)
    exact .notReached hr
  rcases hd : Debugger.dump s with ⟨error | dump, s'⟩
  · obtain ⟨rfl, rfl⟩ := Attempt.pair_eq_iff.mp ((checkRecord_of_dump_error hr hd).symm.trans h)
    exact .notDumped hr hd
  have hs : Debugger.sample record.pc checker.session = (.ok dump, s') :=
    Attempt.bind_eq_ok_iff.mpr ⟨(), s, hr, hd⟩
  rcases hl : Registers.mergeDump dump checker.progress.live with ⟨error | ⟨⟩, live⟩
  · have hb := congrArg Prod.fst hl
    obtain ⟨rfl, rfl⟩ := Attempt.pair_eq_iff.mp ((checkRecord_of_bad_dump hs hb).symm.trans h)
    exact .badDump hs hb
  by_cases hn : live = checker.progress.golden.apply record.update
  · subst hn
    obtain ⟨rfl, rfl⟩ := Attempt.pair_eq_iff.mp ((checkRecord_of_match hs hl).symm.trans h)
    exact .matched hs rfl hl
  · obtain ⟨rfl, rfl⟩ := Attempt.pair_eq_iff.mp ((checkRecord_of_mismatch hs hl hn).symm.trans h)
    exact .mismatched hs rfl hl hn

end Checker

end Lockstep
