import Lockstep.Proofs.Checker.Log

namespace Lockstep

variable {σ : Type} [Debugger σ]

namespace Log

def opening (settings : Settings) (endpoint : String) : Log :=
  [(.configure settings, .done), (.attach endpoint, .done)]

def round (pc : Word) (dump : String) : Log :=
  [(.breakAt pc, .done), (.resume, .done), (.dump, .text dump)]

def survey (settings : Settings) (endpoint : String) (pcs : List Word) (dumps : List String) :
    Log :=
  opening settings endpoint ++ (List.zipWith round pcs dumps).flatten

theorem survey_concat {settings : Settings} {endpoint : String} {pcs : List Word}
    {dumps : List String} (h : dumps.length = pcs.length) (pc : Word) (dump : String) :
    survey settings endpoint (pcs ++ [pc]) (dumps ++ [dump]) =
      survey settings endpoint pcs dumps ++ round pc dump := by
  simp [survey, List.zipWith_append h.symm]

theorem dumps_append (log log' : Log) : dumps (log ++ log') = dumps log ++ dumps log' :=
  List.filterMap_append

theorem dumps_prefix {log log' : Log} (h : log <+: log') : dumps log <+: dumps log' :=
  h.filterMap _

variable (settings : Settings) (endpoint : String)

theorem dumps_survey {pcs : List Word} {ds : List String} (h : ds.length = pcs.length) :
    dumps (survey settings endpoint pcs ds) = ds := by
  induction pcs generalizing ds with
  | nil => cases List.length_eq_zero_iff.mp h; rfl
  | cons pc pcs ih =>
    cases ds with
    | nil => simp at h
    | cons dump ds => simpa [survey, dumps, round, opening, Answer.text?] using ih (by simpa using h)

theorem calls_survey {pcs : List Word} {ds : List String} (h : ds.length = pcs.length) :
    (survey settings endpoint pcs ds).map Prod.fst = .configure settings :: .attach endpoint ::
      pcs.flatMap fun pc ↦ [.breakAt pc, .resume, .dump] := by
  induction pcs generalizing ds with
  | nil => cases List.length_eq_zero_iff.mp h; rfl
  | cons pc pcs ih =>
    cases ds with
    | nil => simp at h
    | cons dump ds => simpa [survey, round, opening] using ih (by simpa using h)

theorem answer_survey {pcs : List Word} {ds : List String} {entry : Call × Answer}
    (h : entry ∈ survey settings endpoint pcs ds) (error : SessionError) :
    entry.2 ≠ .refused error := by
  simp only [survey, opening, List.mem_append, List.mem_flatten] at h
  obtain h | ⟨log, hlog, h⟩ := h
  · simp at h
    rcases h with rfl | rfl <;> simp
  · obtain ⟨i, hi, rfl⟩ := List.mem_iff_getElem.mp hlog
    simp [round] at h
    rcases h with rfl | rfl | rfl <;> simp

end Log

namespace Logged

variable {settings : Settings} {endpoint : String} {start finish : Logged σ}

theorem log_of_engage (h : Debugger.engage settings endpoint start = (.ok (), finish)) :
    finish.log = start.log ++ Log.opening settings endpoint := by
  obtain ⟨⟨⟩, s, hc, ha⟩ := Attempt.bind_eq_ok_iff.mp h
  rw [log_of_perform_ok ha, log_of_perform_ok hc, List.append_assoc]
  rfl

theorem log_of_engage_error {error : SessionError}
    (h : Debugger.engage settings endpoint start = (.error error, finish)) :
    finish.log = start.log ++ [(.configure settings, .refused error)] ∨
      finish.log = start.log ++ [(.configure settings, .done), (.attach endpoint, .refused error)] := by
  obtain hc | ⟨⟨⟩, s, hc, ha⟩ := Attempt.bind_eq_error_iff.mp h
  · exact .inl (log_of_perform_error hc)
  · right
    rw [log_of_perform_error ha, log_of_perform_ok hc, List.append_assoc]
    rfl

theorem log_of_reach {pc : Word} (h : Debugger.reach pc start = (.ok (), finish)) :
    finish.log = start.log ++ [(.breakAt pc, .done), (.resume, .done)] := by
  obtain ⟨⟨⟩, s, hb, hr⟩ := Attempt.bind_eq_ok_iff.mp h
  rw [log_of_perform_ok hr, log_of_perform_ok hb, List.append_assoc]
  rfl

theorem log_of_reach_error {pc : Word} {error : SessionError}
    (h : Debugger.reach pc start = (.error error, finish)) :
    finish.log = start.log ++ [(.breakAt pc, .refused error)] ∨
      finish.log = start.log ++ [(.breakAt pc, .done), (.resume, .refused error)] := by
  obtain hb | ⟨⟨⟩, s, hb, hr⟩ := Attempt.bind_eq_error_iff.mp h
  · exact .inl (log_of_perform_error hb)
  · right
    rw [log_of_perform_error hr, log_of_perform_ok hb, List.append_assoc]
    rfl

theorem log_of_sample {pc : Word} {dump : String}
    (h : Debugger.sample pc start = (.ok dump, finish)) :
    finish.log = start.log ++ Log.round pc dump := by
  obtain ⟨⟨⟩, s, hr, hd⟩ := Attempt.bind_eq_ok_iff.mp h
  rw [log_of_perform_ok hd, log_of_reach hr, List.append_assoc]
  rfl

theorem log_of_survey {pcs : List Word} {dumps : List String}
    (h : Debugger.survey settings endpoint pcs start = (.ok dumps, finish)) :
    finish.log = start.log ++ Log.survey settings endpoint pcs dumps := by
  induction pcs using List.reverseRecOn generalizing dumps finish with
  | nil =>
    obtain ⟨he, rfl⟩ := Debugger.survey_nil_iff.mp h
    simpa [Log.survey] using log_of_engage he
  | append_singleton pcs pc ih =>
    obtain ⟨dumps, dump, s, hs, hd, rfl⟩ := Debugger.survey_concat_iff.mp h
    rw [log_of_sample hd, ih hs, Log.survey_concat (Debugger.length_of_survey hs),
      List.append_assoc]

end Logged

end Lockstep
