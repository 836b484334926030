import Lockstep.Register.State
import Mathlib.Data.List.Induction

namespace Lockstep

/-- What the last of the items that name something gives it, if there is one. -/
inductive Latest {α β : Type} (names : α → Prop) (gives : α → β → Prop) (items : List α) :
    Option β → Prop
  | unset (hn : ∀ item ∈ items, ¬ names item) : Latest names gives items none
  | set {before after : List α} {item : α} {value : β} (hi : items = before ++ item :: after)
      (hg : gives item value) (hn : ∀ later ∈ after, ¬ names later) :
      Latest names gives items (some value)

section

variable {α β γ ε σ : Type} {names : α → Prop} {gives : α → β → Prop} {items : List α}
  {step : σ → α → Except ε σ} {start finish : σ}

theorem Latest.concat {value : Option β} {item : α} (h : Latest names gives items value)
    (hn : ¬ names item) : Latest names gives (items ++ [item]) value := by
  cases h with
  | unset hu => exact .unset (List.forall_mem_append.mpr ⟨hu, List.forall_mem_singleton.mpr hn⟩)
  | @set before after last value hi hg hl =>
    have hi' : items ++ [item] = before ++ last :: (after ++ [item]) := by simp [hi]
    exact .set hi' hg (List.forall_mem_append.mpr ⟨hl, List.forall_mem_singleton.mpr hn⟩)

theorem Latest.eq_none_iff {value : Option β} (h : Latest names gives items value)
    (hg : ∀ item value, gives item value → names item) :
    value = none ↔ ∀ item ∈ items, ¬ names item := by
  cases h with
  | unset hn => exact ⟨fun _ ↦ hn, fun _ ↦ rfl⟩
  | @set before after item value hi hv hn =>
    have hm : item ∈ items := hi ▸ List.mem_append_right before List.mem_cons_self
    refine ⟨nofun, fun h ↦ ?_⟩
    exact absurd (hg item value hv) (h item hm)

theorem foldlM_concat (item : α) :
    (items ++ [item]).foldlM step start = (items.foldlM step start).bind (step · item) := by
  rw [List.foldlM_append]
  cases items.foldlM step start with
  | error error => rfl
  | ok mid =>
    change (step mid item).bind pure = step mid item
    cases step mid item <;> rfl

/-- Where each item that names something sets what can be seen of it, and all others leave it alone,
the last one that names it decides. -/
theorem latest_of_foldlM (seen : σ → γ) (shown : β → γ)
    (hstep : ∀ state item next, step state item = .ok next →
      (∃ value, gives item value ∧ seen next = shown value) ∨
        ¬ names item ∧ seen next = seen state)
    (h : items.foldlM step start = .ok finish) :
    ∃ value, Latest names gives items value ∧ seen finish = value.elim (seen start) shown := by
  induction items using List.reverseRecOn generalizing finish with
  | nil =>
    cases h
    exact ⟨none, .unset (List.forall_mem_nil _), rfl⟩
  | append_singleton items item ih =>
    rw [foldlM_concat] at h
    cases hm : items.foldlM step start with
    | error error => simp [hm, Except.bind] at h
    | ok mid =>
      rw [hm] at h
      obtain ⟨value, hg, hs⟩ | ⟨hn, hs⟩ := hstep mid item finish h
      · exact ⟨some value, .set rfl hg (List.forall_mem_nil _), hs⟩
      · obtain ⟨value, hl, he⟩ := ih hm
        exact ⟨value, hl.concat hn, hs.trans he⟩

theorem exists_foldlM_iff {sound : α → Prop}
    (hstep : ∀ state item, (∃ next, step state item = .ok next) ↔ sound item) :
    (∃ finish, items.foldlM step start = .ok finish) ↔ ∀ item ∈ items, sound item := by
  induction items generalizing start with
  | nil => exact ⟨fun _ ↦ List.forall_mem_nil _, fun _ ↦ ⟨start, rfl⟩⟩
  | cons item items ih =>
    rw [List.foldlM_cons, List.forall_mem_cons, ← hstep start item]
    cases hs : step start item with
    | error error => simp [bind, Except.bind]
    | ok next => simpa [bind, Except.bind] using ih

theorem exists_first_cons_iff {p q : α → Prop} {x : α} {xs : List α} :
    (∃ before bad after, x :: xs = before ++ bad :: after ∧ (∀ y ∈ before, p y) ∧ q bad) ↔
      q x ∨ p x ∧
        ∃ before bad after, xs = before ++ bad :: after ∧ (∀ y ∈ before, p y) ∧ q bad := by
  constructor
  · rintro ⟨_ | ⟨head, before⟩, bad, after, he, hp, hq⟩
    · obtain ⟨rfl, -⟩ := List.cons.inj he
      exact .inl hq
    · obtain ⟨rfl, hxs⟩ := List.cons.inj he
      obtain ⟨hx, hb⟩ := List.forall_mem_cons.mp hp
      exact .inr ⟨hx, before, bad, after, hxs, hb, hq⟩
  · rintro (hq | ⟨hx, before, bad, after, rfl, hb, hq⟩)
    · exact ⟨[], x, xs, rfl, List.forall_mem_nil _, hq⟩
    · exact ⟨x :: before, bad, after, rfl, List.forall_mem_cons.mpr ⟨hx, hb⟩, hq⟩

theorem foldlM_eq_error_iff {sound flawed : α → Prop} {error : ε}
    (hok : ∀ state item, (∃ next, step state item = .ok next) ↔ sound item)
    (herr : ∀ state item, step state item = .error error ↔ flawed item) :
    items.foldlM step start = .error error ↔ ∃ before bad after,
      items = before ++ bad :: after ∧ (∀ item ∈ before, sound item) ∧ flawed bad := by
  induction items generalizing start with
  | nil => simp [pure, Except.pure]
  | cons item items ih =>
    rw [List.foldlM_cons, exists_first_cons_iff, ← herr start item, ← hok start item]
    cases hs : step start item with
    | error first => simp [bind, Except.bind]
    | ok next => simpa [bind, Except.bind] using ih

end

namespace Update

theorem latest_of_foldlM {α : Type} {names : α → Prop} {gives : α → Word → Prop} {items : List α}
    {add : Update → α → Except FieldError Update} {update : Update} {register : Register}
    (hadd : ∀ earlier item next, add earlier item = .ok next →
      (∃ word, gives item word ∧ next.get register = some word) ∨
        ¬ names item ∧ next.get register = earlier.get register)
    (h : items.foldlM add empty = .ok update) : Latest names gives items (update.get register) := by
  obtain ⟨value, hl, he⟩ := Lockstep.latest_of_foldlM (·.get register) some hadd h
  have hempty : empty.get register = none := Bank.get_ofFn ..
  have hvalue : update.get register = value := by
    rw [he, hempty]
    cases value <;> rfl
  rwa [hvalue]

def ofWrites (writes : List (Register × Word)) : Update :=
  writes.foldl (fun update entry ↦ update.write entry.1 entry.2) empty

theorem get_write_cases (update : Update) (entry : Register × Word) (register : Register) :
    (∃ word, entry = (register, word) ∧ (update.write entry.1 entry.2).get register = some word) ∨
      entry.1 ≠ register ∧ (update.write entry.1 entry.2).get register = update.get register := by
  obtain ⟨named, word⟩ := entry
  by_cases he : named = register
  · subst he
    exact .inl ⟨word, rfl, by simp [write]⟩
  · exact .inr ⟨he, by simp [write, Ne.symm he]⟩

theorem latest_ofWrites (writes : List (Register × Word)) (register : Register) :
    Latest (·.1 = register) (fun entry word ↦ entry = (register, word)) writes
      ((ofWrites writes).get register) := by
  have hpure : writes.foldlM (fun update entry ↦ .ok (update.write entry.1 entry.2)) empty =
      (.ok (ofWrites writes) : Except FieldError Update) := List.foldlM_pure
  refine latest_of_foldlM (fun earlier entry next h ↦ ?_) hpure
  cases h
  exact earlier.get_write_cases entry register

end Update

end Lockstep
