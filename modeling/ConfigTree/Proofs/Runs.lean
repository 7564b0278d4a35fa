import Mathlib.Data.List.Forall2

set_option relaxedAutoImplicit false
set_option autoImplicit false

/-!
# Runs that may fail

A step that may fail is run on one element of a list after the other, until one of these steps fails.
A run succeeds exactly if all its steps do, and fails exactly as the first of them that fails.

## Main results

* `ConfigTree.mapM_eq_ok_iff`, `ConfigTree.mapM_eq_some_iff`, `ConfigTree.forM_eq_ok_iff` — the runs
  that succeed.
* `ConfigTree.forM_eq_error_iff`, `ConfigTree.foldlM_eq_error_iff` — the runs that fail.
* `ConfigTree.foldlM_translate` — a run over translated elements is the translated run.
-/

namespace ConfigTree

variable {ε α β : Type}

/-- Two steps succeed together exactly if the second one does on what the first one gives. -/
lemma bind_eq_ok_iff {result : Except ε α} {next : α → Except ε β} {b : β} :
    result >>= next = .ok b ↔ ∃ a, result = .ok a ∧ next a = .ok b := by
  cases result <;> simp [bind, Except.bind]

/-- A result is translated exactly if there is one. -/
lemma map_eq_ok_iff {γ : Type} {f : α → γ} {result : Except ε α} {c : γ} :
    result.map f = .ok c ↔ ∃ a, result = .ok a ∧ f a = c := by
  cases result <;> simp [Except.map]

/-- A result whose value is dropped is a success exactly if it was one. -/
lemma map_unit_eq_ok_iff {result : Except ε α} :
    result.map (fun _ => ()) = .ok () ↔ ∃ a, result = .ok a := by
  simp [map_eq_ok_iff]

/-- A translation leaves failures as they are. -/
lemma map_eq_error_iff {γ : Type} {f : α → γ} {result : Except ε α} {e : ε} :
    result.map f = .error e ↔ result = .error e := by
  cases result <;> simp [Except.map]

/-- In lists that are related item by item, each item has a partner in the other list. -/
lemma exists_of_forall₂ {r : α → β → Prop} {l : List α} {l' : List β}
    (h : List.Forall₂ r l l') : (∀ a ∈ l, ∃ b ∈ l', r a b) ∧ ∀ b ∈ l', ∃ a ∈ l, r a b := by
  induction h with
  | nil => simp
  | cons hab _ ih =>
    simp only [List.forall_mem_cons, List.exists_mem_cons_iff]
    exact ⟨⟨.inl hab, fun a ha => .inr (ih.1 a ha)⟩, .inl hab, fun b hb => .inr (ih.2 b hb)⟩

/-- Only the items of the list matter for the function that runs over it. -/
lemma mapM_congr {f g : α → Except ε β} {l : List α} (h : ∀ a ∈ l, f a = g a) :
    l.mapM f = l.mapM g := by
  induction l with
  | nil => rfl
  | cons a rest ih =>
    obtain ⟨ha, hrest⟩ := List.forall_mem_cons.mp h
    rw [List.mapM_cons, List.mapM_cons, ha, ih hrest]

/-- The same for a run whose values are dropped. -/
lemma forM_congr {f g : α → Except ε Unit} {l : List α} (h : ∀ a ∈ l, f a = g a) :
    forM l f = forM l g := by
  induction l with
  | nil => rfl
  | cons a rest ih =>
    obtain ⟨ha, hrest⟩ := List.forall_mem_cons.mp h
    rw [List.forM_cons, List.forM_cons, ha, ih hrest]

/-- A run over a list succeeds exactly if every item does, with the values in order. -/
lemma mapM_eq_ok_iff {f : α → Except ε β} {l : List α} {l' : List β} :
    l.mapM f = .ok l' ↔ List.Forall₂ (fun a b => f a = .ok b) l l' := by
  induction l generalizing l' with
  | nil => simp [pure, Except.pure, eq_comm]
  | cons a rest ih =>
    rw [List.mapM_cons, List.forall₂_cons_left_iff]
    simp only [bind_eq_ok_iff, ih]
    constructor
    · rintro ⟨b, hb, more, hmore, heq⟩
      exact ⟨b, more, hb, hmore, (Except.ok.inj heq).symm⟩
    · rintro ⟨b, more, hb, hmore, rfl⟩
      exact ⟨b, hb, more, hmore, rfl⟩

/-- The same for a function that may have no value. -/
lemma mapM_eq_some_iff {f : α → Option β} {l : List α} {l' : List β} :
    l.mapM f = some l' ↔ List.Forall₂ (fun a b => f a = some b) l l' := by
  induction l generalizing l' with
  | nil => simp [eq_comm]
  | cons a rest ih =>
    rw [List.mapM_cons, List.forall₂_cons_left_iff]
    simp only [bind, Option.bind_eq_some_iff, ih]
    constructor
    · rintro ⟨b, hb, more, hmore, heq⟩
      exact ⟨b, more, hb, hmore, (Option.some.inj heq).symm⟩
    · rintro ⟨b, more, hb, hmore, rfl⟩
      exact ⟨b, hb, more, hmore, rfl⟩

/-- A run succeeds exactly if each of its steps does. -/
lemma forM_eq_ok_iff {f : α → Except ε Unit} {l : List α} :
    forM l f = .ok () ↔ ∀ a ∈ l, f a = .ok () := by
  induction l with
  | nil => simp [pure, Except.pure]
  | cons a rest ih =>
    rw [List.forM_cons, List.forall_mem_cons, bind_eq_ok_iff, ih]
    constructor
    · rintro ⟨u, ha, hrest⟩
      exact ⟨ha, hrest⟩
    · rintro ⟨ha, hrest⟩
      exact ⟨_, ha, hrest⟩

/-- A run fails exactly as the first of its steps that fails. -/
lemma forM_eq_error_iff {f : α → Except ε Unit} {l : List α} {e : ε} :
    forM l f = .error e ↔
      ∃ before a after, l = before ++ a :: after ∧ (∀ b ∈ before, f b = .ok ()) ∧ f a = .error e := by
  induction l with
  | nil => simp [pure, Except.pure]
  | cons a rest ih =>
    rw [List.forM_cons]
    constructor
    · intro h
      cases ha : f a with
      | error e' =>
        rw [ha] at h
        exact ⟨[], a, rest, rfl, by simp, ha.trans h⟩
      | ok u =>
        rw [ha] at h
        obtain ⟨before, b, after, rfl, hbefore, hb⟩ := ih.mp h
        exact ⟨a :: before, b, after, rfl, List.forall_mem_cons.mpr ⟨ha, hbefore⟩, hb⟩
    · rintro ⟨before, b, after, hl, hbefore, hb⟩
      cases before with
      | nil =>
        obtain ⟨rfl, rfl⟩ : a = b ∧ rest = after := by simpa using hl
        rw [hb]
        rfl
      | cons c before =>
        obtain ⟨rfl, rfl⟩ : a = c ∧ rest = before ++ b :: after := by simpa using hl
        obtain ⟨ha, hbefore⟩ := List.forall_mem_cons.mp hbefore
        rw [ha]
        exact ih.mpr ⟨before, b, after, rfl, hbefore, hb⟩

/-- A run with a state fails exactly as its first step that fails, from the state before this step. -/
lemma foldlM_eq_error_iff {step : β → α → Except ε β} {l : List α} {state : β} {e : ε} :
    l.foldlM step state = .error e ↔
      ∃ before a after reached, l = before ++ a :: after ∧
        before.foldlM step state = .ok reached ∧ step reached a = .error e := by
  constructor
  · intro h
    induction l generalizing state with
    | nil => cases h
    | cons a rest ih =>
      rw [List.foldlM_cons] at h
      cases ha : step state a with
      | error e' =>
        rw [ha] at h
        exact ⟨[], a, rest, state, rfl, rfl, ha.trans h⟩
      | ok next =>
        rw [ha] at h
        obtain ⟨before, b, after, reached, rfl, hbefore, hb⟩ := ih h
        refine ⟨a :: before, b, after, reached, rfl, ?_, hb⟩
        rw [List.foldlM_cons, ha]
        exact hbefore
  · rintro ⟨before, a, after, reached, rfl, hbefore, ha⟩
    rw [List.foldlM_append, hbefore]
    show (a :: after).foldlM step reached = _
    rw [List.foldlM_cons, ha]
    rfl

/-- **A run over translated elements** is the translated run, if each step is. -/
lemma foldlM_translate {ε' α' β' : Type} {step : β → α → Except ε β}
    {step' : β' → α' → Except ε' β'} {f : β → β'} {g : α → α'} {k : ε → ε'}
    (h : ∀ state a, step' (f state) (g a) = ((step state a).map f).mapError k) (l : List α) :
    ∀ state : β, (l.map g).foldlM step' (f state) = ((l.foldlM step state).map f).mapError k := by
  induction l with
  | nil => exact fun _ => rfl
  | cons a rest ih =>
    intro state
    rw [List.map_cons, List.foldlM_cons, List.foldlM_cons, h]
    cases step state a with
    | error e => rfl
    | ok next => exact ih next

/-- A run over lists that are put together is a run over one list after the other. -/
lemma forM_flatMap {f : β → Except ε Unit} (g : α → List β) (l : List α) :
    forM (l.flatMap g) f = forM l fun a => forM (g a) f := by
  induction l with
  | nil => rfl
  | cons a rest ih => rw [List.flatMap_cons, List.forM_append, ih, List.forM_cons]

/-- A run whose values are dropped in the end is one that drops each of them. -/
lemma map_mapM (f : α → Except ε β) (l : List α) :
    (l.mapM f).map (fun _ => ()) = forM l fun a => (f a).map fun _ => () := by
  induction l with
  | nil => rfl
  | cons a rest ih =>
    rw [List.mapM_cons, List.forM_cons, ← ih]
    cases f a with
    | error e => rfl
    | ok b => cases rest.mapM f <;> rfl

end ConfigTree
