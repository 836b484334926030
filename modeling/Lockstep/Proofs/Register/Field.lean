import Lockstep.Proofs.Register.Latest
import Lockstep.Proofs.Register.Word
import Lockstep.Proofs.Text.Trim
import Lockstep.Proofs.Text.Words
import Lockstep.Register.Field

namespace Lockstep

open Text

namespace Field

variable {text name value : List Char} {register : Register}

/-- Within the white space around the text there is one colon, with a name and a value on its two
sides that are not blank. -/
def Pairs (text name value : List Char) : Prop :=
  ∃ left right, TrimsTo text (left ++ ':' :: right) ∧ ':' ∉ left ∧ ':' ∉ right ∧
    TrimsTo left name ∧ TrimsTo right value ∧ name ≠ [] ∧ value ≠ []

def Names (text : List Char) (register : Register) : Prop :=
  ∃ value, Pairs text register.name.toList value

def Assigns (text : List Char) (register : Register) (word : Word) : Prop :=
  ∃ value, Pairs text register.name.toList value ∧ Word.parse value = .ok word

/-- A pair, with a hexadecimal value if the name is that of a register. -/
def Sound (text : List Char) : Prop :=
  (∃ name value, Pairs text name value) ∧
    ∀ (register : Register) (value : List Char),
      Pairs text register.name.toList value → ∃ word, Word.parse value = .ok word

inductive Flawed (text : List Char) : FieldError → Prop
  | unpaired {core : List Char} (hn : ¬ ∃ name value, Pairs text name value)
      (ht : TrimsTo text core) : Flawed text (.malformed (String.ofList core))
  | value {register : Register} {value : List Char} {error : FieldError}
      (hp : Pairs text register.name.toList value) (hv : Word.parse value = .error error) :
      Flawed text error

theorem parse_of_colon {left right : List Char} (ht : trim text = left ++ ':' :: right)
    (hl : ':' ∉ left) :
    parse text =
      if trim left = [] ∨ trim right = [] ∨ ':' ∈ right then
        .error (.malformed (String.ofList (trim text)))
      else (Register.ofName? (trim left)).elim (.ok none) fun register ↦
        (Word.parse (trim right)).map fun word ↦ some (register, word) := by
  have hpos : ∀ c ∈ left, (c != ':') = true := fun c hc ↦ by
    simpa using fun he : c = ':' ↦ hl (he ▸ hc)
  have hd : (trim text).dropWhile (· != ':') = ':' :: right := by
    rw [ht, List.dropWhile_append_of_pos hpos]
    rfl
  have htake : (trim text).takeWhile (· != ':') = left := by
    rw [ht, List.takeWhile_append_of_pos hpos, List.takeWhile_cons_of_neg (by decide),
      List.append_nil]
  -- A colon is not blank, so trimming the value does not hide a second one.
  have hmem : ':' ∈ right ↔ ':' ∈ trim right := mem_of_trimsTo (trimsTo_trim right) (by decide)
  have hguard : ((trim left).isEmpty || (trim right).isEmpty || (trim right).contains ':') = true ↔
      trim left = [] ∨ trim right = [] ∨ ':' ∈ right := by
    simp [hmem, or_assoc]
  unfold parse
  simp only [hd, htake, hguard]
  split
  · rfl
  · cases Register.ofName? (trim left) <;> rfl

theorem parse_of_no_colon (h : ':' ∉ text) :
    parse text = .error (.malformed (String.ofList (trim text))) := by
  have hd : (trim text).dropWhile (· != ':') = [] := by
    rw [List.dropWhile_eq_nil_iff]
    intro c hc
    have hm : c ∈ trim text → c ≠ ':' := fun hc he ↦
      h ((mem_of_trimsTo (trimsTo_trim text) (by decide)).mpr (he ▸ hc))
    simpa using hm hc
  unfold parse
  simp only [hd]

theorem parse_of_pairs (h : Pairs text name value) :
    parse text = (Register.ofName? name).elim (.ok none) fun register ↦
      (Word.parse value).map fun word ↦ some (register, word) := by
  obtain ⟨left, right, ht, hl, hr, hname, hvalue, hn, hv⟩ := h
  obtain rfl := trimsTo_iff.mp hname
  obtain rfl := trimsTo_iff.mp hvalue
  rw [parse_of_colon (trimsTo_iff.mp ht) hl, if_neg (by simp [hn, hv, hr])]

theorem parse_of_unpaired (h : ¬ ∃ name value, Pairs text name value) :
    parse text = .error (.malformed (String.ofList (trim text))) := by
  by_cases hc : ':' ∈ text
  · rw [mem_of_trimsTo (trimsTo_trim text) (by decide)] at hc
    obtain ⟨left, right, ht, hl⟩ := List.eq_append_cons_of_mem hc
    rw [parse_of_colon ht hl, if_pos]
    by_contra hn
    simp only [not_or] at hn
    obtain ⟨hn, hv, hr⟩ := hn
    exact h ⟨_, _, left, right, trimsTo_iff.mpr ht, hl, hr, trimsTo_trim left, trimsTo_trim right,
      hn, hv⟩
  · exact parse_of_no_colon hc

theorem Pairs.unique {name' value' : List Char} (h : Pairs text name value)
    (h' : Pairs text name' value') : name = name' ∧ value = value' := by
  obtain ⟨left, right, ht, hl, hr, hname, hvalue, -⟩ := h
  obtain ⟨left', right', ht', -, -, hname', hvalue', -⟩ := h'
  have he := (trimsTo_iff.mp ht).symm.trans (trimsTo_iff.mp ht')
  obtain ⟨rfl, -, rfl⟩ := (List.append_cons_inj_of_notMem hl hr).mp he
  exact ⟨(trimsTo_iff.mp hname).symm.trans (trimsTo_iff.mp hname'),
    (trimsTo_iff.mp hvalue).symm.trans (trimsTo_iff.mp hvalue')⟩

theorem Assigns.names {word : Word} (h : Assigns text register word) : Names text register :=
  let ⟨value, hp, _⟩ := h
  ⟨value, hp⟩

theorem Assigns.unique {other : Register} {word word' : Word} (h : Assigns text register word)
    (h' : Assigns text other word') : register = other ∧ word = word' := by
  obtain ⟨value, hp, hv⟩ := h
  obtain ⟨value', hp', hv'⟩ := h'
  obtain ⟨hn, rfl⟩ := hp.unique hp'
  exact ⟨Register.eq_of_name_toList hn, Except.ok.inj (hv.symm.trans hv')⟩

theorem Assigns.sound {word : Word} (h : Assigns text register word) : Sound text := by
  obtain ⟨value, hp, hv⟩ := h
  refine ⟨⟨_, _, hp⟩, fun other value' hp' ↦ ?_⟩
  obtain ⟨-, rfl⟩ := hp.unique hp'
  exact ⟨word, hv⟩

theorem parse_cases (text : List Char) :
    (∃ register value, Pairs text register.name.toList value ∧
      parse text = (Word.parse value).map fun word ↦ some (register, word)) ∨
    ((∃ name value, Pairs text name value) ∧ (∀ register, ¬ Names text register) ∧
      parse text = .ok none) ∨
    ((¬ ∃ name value, Pairs text name value) ∧
      parse text = .error (.malformed (String.ofList (trim text)))) := by
  by_cases hp : ∃ name value, Pairs text name value
  · obtain ⟨name, value, hp⟩ := hp
    have h := parse_of_pairs hp
    cases hr : Register.ofName? name with
    | some register =>
      rw [hr] at h
      obtain rfl := Register.ofName?_eq_some_iff.mp hr
      exact .inl ⟨register, value, hp, h⟩
    | none =>
      rw [hr] at h
      refine .inr (.inl ⟨⟨name, value, hp⟩, ?_, h⟩)
      rintro register ⟨value', hp'⟩
      obtain ⟨rfl, -⟩ := hp.unique hp'
      rw [Register.ofName?_name] at hr
      cases hr
  · exact .inr (.inr ⟨hp, parse_of_unpaired hp⟩)

theorem parse_eq_error_iff {error : FieldError} :
    parse text = .error error ↔ Flawed text error := by
  rcases parse_cases text with ⟨register, value, hp, h⟩ | ⟨hp, hn, h⟩ | ⟨hn, h⟩
  · have hv : parse text = .error error ↔ Word.parse value = .error error := by
      rw [h]
      cases Word.parse value <;> simp [Except.map]
    rw [hv]
    constructor
    · exact .value hp
    · rintro (⟨hn, -⟩ | ⟨hp', hv'⟩)
      · exact absurd ⟨_, _, hp⟩ hn
      · obtain ⟨-, rfl⟩ := hp.unique hp'
        exact hv'
  · rw [h]
    constructor
    · simp
    · rintro (⟨hn', -⟩ | ⟨hp', -⟩)
      · exact absurd hp hn'
      · exact absurd ⟨_, hp'⟩ (hn _)
  · rw [h]
    constructor
    · rintro ⟨⟩
      exact .unpaired hn (trimsTo_trim text)
    · rintro (⟨-, ht⟩ | ⟨hp, -⟩)
      · rw [trimsTo_iff.mp ht]
      · exact absurd ⟨_, _, hp⟩ hn

theorem sound_iff : Sound text ↔ ∀ error, ¬ Flawed text error := by
  constructor
  · rintro ⟨hp, hs⟩ error (⟨hn, -⟩ | ⟨hp', hv⟩)
    · exact hn hp
    · obtain ⟨word, hw⟩ := hs _ _ hp'
      cases hv.symm.trans hw
  · intro h
    refine ⟨by_contra fun hn ↦ h _ (.unpaired hn (trimsTo_trim text)), fun register value hp ↦ ?_⟩
    cases hv : Word.parse value with
    | ok word => exact ⟨word, rfl⟩
    | error error => exact absurd (.value hp hv) (h error)

end Field

namespace Update

variable {fields : List (List Char)} {text : List Char} {update next : Update} {error : FieldError}

theorem exists_addField_iff (update : Update) :
    (∃ next, update.addField text = .ok next) ↔ Field.Sound text := by
  simp only [Field.sound_iff, ← Field.parse_eq_error_iff, addField]
  cases Field.parse text <;> simp [Except.map]

theorem addField_eq_error_iff (update : Update) :
    update.addField text = .error error ↔ Field.Flawed text error := by
  rw [← Field.parse_eq_error_iff, addField]
  cases Field.parse text <;> simp [Except.map]

theorem get_addField (h : update.addField text = .ok next) (register : Register) :
    (∃ word, Field.Assigns text register word ∧ next.get register = some word) ∨
      ¬ Field.Names text register ∧ next.get register = update.get register := by
  rw [addField] at h
  rcases Field.parse_cases text with ⟨named, value, hp, hr⟩ | ⟨-, hn, hr⟩ | ⟨-, hr⟩
  · rw [hr] at h
    cases hv : Word.parse value with
    | error error => simp [hv, Except.map] at h
    | ok word =>
      rw [hv] at h
      cases h
      obtain ⟨_, he, hg⟩ | ⟨hn, hg⟩ := update.get_write_cases (named, word) register
      · cases he
        exact .inl ⟨word, ⟨value, hp, hv⟩, hg⟩
      · refine .inr ⟨?_, hg⟩
        rintro ⟨value', hp'⟩
        exact hn (Register.eq_of_name_toList (hp.unique hp').1)
  · rw [hr] at h
    cases h
    exact .inr ⟨hn register, rfl⟩
  · simp [hr, Except.map] at h

/-- The value that the last of the fields which name a register gives it, if there is one. -/
inductive LastSet (fields : List (List Char)) (register : Register) : Option Word → Prop
  | unset (hn : ∀ field ∈ fields, ¬ Field.Names field register) : LastSet fields register none
  | set {before after : List (List Char)} {field : List Char} {word : Word}
      (hf : fields = before ++ field :: after) (ha : Field.Assigns field register word)
      (hn : ∀ later ∈ after, ¬ Field.Names later register) : LastSet fields register (some word)

theorem lastSet_iff {register : Register} {value : Option Word} :
    LastSet fields register value ↔
      Latest (Field.Names · register) (Field.Assigns · register) fields value := by
  constructor
  · intro h
    cases h with
    | unset hn => exact .unset hn
    | set hf ha hn => exact .set hf ha hn
  · intro h
    cases h with
    | unset hn => exact .unset hn
    | set hf ha hn => exact .set hf ha hn

theorem LastSet.eq_none_iff {register : Register} {value : Option Word}
    (h : LastSet fields register value) :
    value = none ↔ ∀ field ∈ fields, ¬ Field.Names field register :=
  (lastSet_iff.mp h).eq_none_iff fun _ _ ha ↦ ha.names

theorem lastSet_of_ofFields (h : ofFields fields = .ok update) (register : Register) :
    LastSet fields register (update.get register) :=
  lastSet_iff.mpr (latest_of_foldlM (fun _ _ _ hadd ↦ get_addField hadd register) h)

theorem exists_foldlM_addField_iff :
    (∃ next, fields.foldlM addField update = .ok next) ↔ ∀ field ∈ fields, Field.Sound field :=
  exists_foldlM_iff fun state _ ↦ exists_addField_iff state

theorem foldlM_addField_eq_error_iff :
    fields.foldlM addField update = .error error ↔ ∃ before bad after,
      fields = before ++ bad :: after ∧ (∀ field ∈ before, Field.Sound field) ∧
        Field.Flawed bad error :=
  foldlM_eq_error_iff (fun state _ ↦ exists_addField_iff state)
    fun state _ ↦ addField_eq_error_iff state

end Update

end Lockstep
