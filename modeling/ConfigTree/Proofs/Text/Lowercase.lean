import Mathlib.Data.List.Basic
import ConfigTree.Tree.Basic

set_option relaxedAutoImplicit false
set_option autoImplicit false

/-!
# Lower-casing twice

A text in lower case stays as it is when it is lower-cased again. Hence a normalized key is its own
normal form, and a key under which a node stores something can be used to find it. Lower-casing
introduces no period either, so that a normalized key is one segment of a path if the key is one.

## Main definitions

* `ConfigTree.Text.CaseRun.misses` — a check that no lower-case form of one run is a letter of
  another run.
* `ConfigTree.Text.IsLower` — the characters that lower-casing keeps wherever they stand.

## Main results

* `ConfigTree.Text.isLower_of_mem_lowercaseFrom` — lower-casing gives such characters only.
* `ConfigTree.normalizeKey_normalizeKey` — normalizing a key twice is normalizing it once.
* `ConfigTree.period_not_mem_normalizeKey` — normalizing a key introduces no period.

## Implementation notes

Whether a sigma ends a word depends on the characters around it, which are not the same in the text
and in its lower-case form. This does not matter, since the lower-case form has no capital sigma.
-/

namespace ConfigTree.Text

/-! ## The table of letters with a lower-case form -/

namespace CaseRun

/-- The lower-case form of the first letter of a run. -/
def start (run : CaseRun) : ℕ :=
  (Int.ofNat run.first + run.shift).toNat

/-- A check that no lower-case form of a letter of `run` is a letter of `other`: the two lie in
disjoint ranges, or they differ in their place modulo the stride. -/
def misses (run other : CaseRun) : Bool :=
  (run.start + (run.last - run.first)).blt other.first || other.last.blt run.start ||
    ((run.stride.beq other.stride || run.first.beq run.last) &&
      !(run.start % other.stride).beq (other.first % other.stride))

/-- A letter of a run is some strides away from the first one, and so is its lower-case form. -/
lemma exists_of_hasCode {run : CaseRun} (hstart : 0 ≤ Int.ofNat run.first + run.shift) {n : ℕ}
    (hn : run.hasCode n) :
    ∃ k, n = run.first + run.stride * k ∧ n ≤ run.last ∧
      (Int.ofNat n + run.shift).toNat = run.start + run.stride * k := by
  simp only [hasCode, Bool.and_eq_true, decide_eq_true_eq, beq_iff_eq] at hn
  obtain ⟨⟨hfirst, hlast⟩, hmod⟩ := hn
  obtain ⟨k, hk⟩ := Nat.dvd_of_mod_eq_zero hmod
  refine ⟨k, by omega, hlast, ?_⟩
  unfold start
  simp only [Int.ofNat_eq_natCast] at hstart ⊢
  omega

/-- The check is sound.

**Proof sketch.** A lower-case form that were a letter of the other run would lie in both ranges.
If the strides agree it would also have the residue of both first elements; if `run` has one letter
only, its lower-case form is the first one. -/
lemma hasCode_eq_false_of_misses {run other : CaseRun}
    (hstart : 0 ≤ Int.ofNat run.first + run.shift) (h : run.misses other) {n : ℕ}
    (hn : run.hasCode n) : other.hasCode (Int.ofNat n + run.shift).toNat = false := by
  obtain ⟨k, hk, hlast, hcode⟩ := exists_of_hasCode hstart hn
  by_contra hother
  rw [Bool.not_eq_false, hcode] at hother
  simp only [hasCode, Bool.and_eq_true, decide_eq_true_eq, beq_iff_eq] at hother
  obtain ⟨⟨hfirst', hlast'⟩, hmod'⟩ := hother
  obtain ⟨j, hj⟩ := Nat.dvd_of_mod_eq_zero hmod'
  simp only [misses, Bool.or_eq_true, Bool.and_eq_true, Nat.blt_eq, Bool.not_eq_true',
    Nat.beq_eq] at h
  rcases h with (h | h) | ⟨hstride, hres⟩
  · omega
  · omega
  · have hres' : (run.start + run.stride * k) % other.stride = other.first % other.stride := by
      rw [show run.start + run.stride * k = other.first + other.stride * j by omega,
        Nat.add_mul_mod_self_left]
    have hsame : run.start % other.stride = other.first % other.stride := by
      rcases hstride with hstride | hone
      · rwa [hstride, Nat.add_mul_mod_self_left] at hres'
      · rwa [show run.stride * k = 0 by omega, Nat.add_zero] at hres'
    rw [hsame, Nat.beq_refl] at hres
    exact absurd hres (by decide)

end CaseRun

/-- The first letter is the capital A, and no letter is shifted below zero. -/
lemma first_lowerRuns : ∀ run ∈ lowerRuns,
    0x41 ≤ run.first ∧ 0 ≤ Int.ofNat run.first + run.shift := by
  decide +kernel

/-- The characters with no lower-case form that lower-casing itself produces: the two that a capital
I with a dot becomes, the sigma at the end of a word, and the null character. -/
lemma lowerCode_eq_self : ∀ n ∈ [0x69, 0x307, 0x3C2, 0], lowerCode n = n := by
  decide

/-- Unlike these, a capital sigma has a lower-case form. -/
lemma lowerCode_sigma : lowerCode 0x3A3 = 0x3C3 := by
  decide

/-- The code points that no lower-case form of a letter is: a capital I with a dot, a period, and the
letters with a lower-case form themselves. -/
def missed : List CaseRun :=
  ⟨0x130, 0x130, 1, 0⟩ :: ⟨0x2E, 0x2E, 1, 0⟩ :: lowerRuns

/-- All pairs of runs pass the check. -/
lemma misses_lowerRuns : lowerRuns.all (fun run => missed.all run.misses) = true := by
  decide +kernel

/-- The lower-case form of a letter is none of the missed code points. -/
lemma hasCode_shift {run : CaseRun} (hrun : run ∈ lowerRuns) {n : ℕ} (hn : run.hasCode n)
    {other : CaseRun} (hother : other ∈ missed) :
    other.hasCode (Int.ofNat n + run.shift).toNat = false := by
  have hmisses := List.all_eq_true.mp (List.all_eq_true.mp misses_lowerRuns run hrun) other hother
  exact CaseRun.hasCode_eq_false_of_misses (first_lowerRuns run hrun).2 hmisses hn

/-- A code point has the lower-case form that a run gives it, or is its own lower-case form. -/
lemma lowerCode_cases (n : ℕ) :
    lowerCode n = n ∨ ∃ run ∈ lowerRuns, run.hasCode n ∧
      lowerCode n = (Int.ofNat n + run.shift).toNat := by
  unfold lowerCode
  cases h : lowerRuns.find? (·.hasCode n) with
  | none => exact Or.inl rfl
  | some run =>
    have hrun : run.hasCode n := by simpa using List.find?_some h
    exact Or.inr ⟨run, List.mem_of_find?_eq_some h, hrun, rfl⟩

/-- A code point that belongs to no run is its own lower-case form. -/
lemma lowerCode_of_not_hasCode {n : ℕ} (h : ∀ run ∈ lowerRuns, run.hasCode n = false) :
    lowerCode n = n := by
  have hnone : lowerRuns.find? (·.hasCode n) = none := by
    rw [List.find?_eq_none]
    intro run hrun
    simp [h run hrun]
  rw [lowerCode, hnone]

/-- The lower-case form of a code point is its own lower-case form. -/
lemma lowerCode_lowerCode (n : ℕ) : lowerCode (lowerCode n) = lowerCode n := by
  rcases lowerCode_cases n with h | ⟨run, hrun, hn, h⟩
  · rw [h, h]
  · rw [h]
    exact lowerCode_of_not_hasCode fun other hother =>
      hasCode_shift hrun hn (List.mem_cons_of_mem _ (List.mem_cons_of_mem _ hother))

/-- No other letter has a capital I with a dot as its lower-case form. -/
lemma eq_of_lowerCode_eq {n : ℕ} (h : lowerCode n = 0x130) : n = 0x130 := by
  rcases lowerCode_cases n with h' | ⟨run, hrun, hn, h'⟩
  · rw [← h', h]
  · have hdot := hasCode_shift hrun hn List.mem_cons_self
    rw [← h', h] at hdot
    exact absurd hdot (by decide)

/-- Only the code point of the period has it as its lower-case form. -/
lemma eq_period_of_lowerCode_eq {n : ℕ} (h : lowerCode n = 0x2E) : n = 0x2E := by
  rcases lowerCode_cases n with h' | ⟨run, hrun, hn, h'⟩
  · rw [← h', h]
  · have hperiod := hasCode_shift hrun hn (List.mem_cons_of_mem _ List.mem_cons_self)
    rw [← h', h] at hperiod
    exact absurd hperiod (by decide)

/-! ## Characters in lower case -/

/-- A valid code point is that of its character. -/
lemma toNat_ofNat {n : ℕ} (h : n.isValidChar) : (Char.ofNat n).toNat = n := by
  rw [Char.ofNat, dif_pos h]
  rfl

/-- Lower-casing keeps the character, wherever it stands. -/
def IsLower (c : Char) : Prop :=
  lowerChar c = [c] ∧ c ≠ 'Σ'

/-- A character whose code point is its own lower-case form is in lower case, unless it is a capital
I with a dot. -/
lemma isLower_of_lowerCode {c : Char} (hcode : lowerCode c.toNat = c.toNat) (hdot : c ≠ 'İ') :
    IsLower c := by
  constructor
  · rw [lowerChar, if_neg hdot, hcode, Char.ofNat_toNat]
  · rintro rfl
    exact absurd (lowerCode_sigma.symm.trans hcode) (by decide)

/-- No character before the capital letters has a lower-case form. -/
lemma isLower_of_lt {c : Char} (hc : c.toNat < 0x41) : IsLower c := by
  have hcode : ∀ run ∈ lowerRuns, run.hasCode c.toNat = false := by
    intro run hrun
    have hlt : ¬ run.first ≤ c.toNat := Nat.not_le_of_lt (Nat.lt_of_lt_of_le hc (first_lowerRuns run hrun).1)
    simp [CaseRun.hasCode, hlt]
  refine isLower_of_lowerCode (lowerCode_of_not_hasCode hcode) ?_
  rintro rfl
  exact absurd hc (by decide)

/-- The lower-case form of a character consists of characters in lower case.

**Proof sketch.** A capital I with a dot becomes two characters, both in lower case. Any other
character has a lower-case code point that is its own lower-case form; if that were no character,
the null character would stand for it, which is in lower case as well. -/
lemma isLower_of_mem_lowerChar {c d : Char} (hd : d ∈ lowerChar c) : IsLower d := by
  unfold lowerChar at hd
  split at hd
  · rcases List.mem_pair.mp hd with rfl | rfl
    · exact isLower_of_lowerCode (lowerCode_eq_self _ (by decide)) (by decide)
    · exact isLower_of_lowerCode (lowerCode_eq_self _ (by decide)) (by decide)
  · rename_i hc
    obtain rfl := List.mem_singleton.mp hd
    by_cases hvalid : (lowerCode c.toNat).isValidChar
    · have htoNat := toNat_ofNat hvalid
      refine isLower_of_lowerCode (by rw [htoNat, lowerCode_lowerCode]) fun hdot => hc ?_
      rw [hdot] at htoNat
      have hcode : c.toNat = 0x130 := eq_of_lowerCode_eq htoNat.symm
      rw [← Char.ofNat_toNat c, hcode]
    · rw [Char.ofNat, dif_neg hvalid]
      exact isLower_of_lowerCode (lowerCode_eq_self _ (by decide)) (by decide)

/-- Lower-casing gives characters in lower case. -/
lemma isLower_of_mem_lowercaseFrom {before text : List Char} :
    ∀ {d : Char}, d ∈ lowercaseFrom before text → IsLower d := by
  induction text generalizing before with
  | nil =>
    intro d hd
    simp [lowercaseFrom] at hd
  | cons c rest ih =>
    intro d hd
    rw [lowercaseFrom, List.mem_append] at hd
    rcases hd with hd | hd
    · split at hd
      · obtain rfl := List.mem_singleton.mp hd
        exact isLower_of_lowerCode (lowerCode_eq_self _ (by decide)) (by decide)
      · exact isLower_of_mem_lowerChar hd
    · exact ih hd

/-- A character in lower case at the start of a text stays. -/
lemma lowercase_cons {c : Char} (hc : IsLower c) (rest : List Char) :
    lowercase (c :: rest) = c :: lowercaseFrom [c] rest := by
  rw [lowercase, lowercaseFrom, if_neg fun hsigma => hc.2 hsigma.1, hc.1]
  rfl

/-- Lower-casing keeps a text of characters in lower case. -/
lemma lowercaseFrom_of_isLower {before text : List Char} (h : ∀ c ∈ text, IsLower c) :
    lowercaseFrom before text = text := by
  induction text generalizing before with
  | nil => rfl
  | cons c rest ih =>
    obtain ⟨hc, hsigma⟩ := h c List.mem_cons_self
    rw [lowercaseFrom, if_neg (fun hboth => hsigma hboth.1), hc,
      ih fun d hd => h d (List.mem_cons_of_mem _ hd)]
    rfl

/-! ## Periods and empty texts -/

/-- Only the code point of the period makes this character. -/
lemma ofNat_eq_period {n : ℕ} (h : Char.ofNat n = '.') : n = 0x2E := by
  by_cases hvalid : n.isValidChar
  · rw [← toNat_ofNat hvalid, h]
    rfl
  · rw [Char.ofNat, dif_neg hvalid] at h
    exact absurd h (by decide)

/-- Only the period has a lower-case form with a period. -/
lemma eq_period_of_mem_lowerChar {c : Char} (h : '.' ∈ lowerChar c) : c = '.' := by
  unfold lowerChar at h
  split at h
  · exact absurd h (by decide)
  · have hcode : c.toNat = 0x2E :=
      eq_period_of_lowerCode_eq (ofNat_eq_period (List.mem_singleton.mp h).symm)
    rw [← Char.ofNat_toNat c, hcode]

/-- Lower-casing introduces no period. -/
lemma period_mem_of_mem_lowercaseFrom {before text : List Char}
    (h : '.' ∈ lowercaseFrom before text) : '.' ∈ text := by
  induction text generalizing before with
  | nil => simp [lowercaseFrom] at h
  | cons c rest ih =>
    rw [lowercaseFrom, List.mem_append] at h
    rcases h with h | h
    · split at h
      · exact absurd h (by decide)
      · rw [eq_period_of_mem_lowerChar h]
        exact List.mem_cons_self
    · exact List.mem_cons_of_mem _ (ih h)

/-- Only the empty text has an empty lower-case form. -/
lemma lowercaseFrom_eq_nil_iff {before text : List Char} :
    lowercaseFrom before text = [] ↔ text = [] := by
  cases text with
  | nil => simp [lowercaseFrom]
  | cons c rest =>
    rw [lowercaseFrom, List.append_eq_nil_iff]
    simp only [reduceCtorEq, iff_false, not_and]
    intro h
    split at h
    · simp at h
    · unfold lowerChar at h
      split at h <;> simp at h

end ConfigTree.Text

namespace ConfigTree

/-- **Normalizing a key twice is normalizing it once.** -/
lemma normalizeKey_normalizeKey (key : String) :
    normalizeKey (normalizeKey key) = normalizeKey key := by
  unfold normalizeKey
  rw [String.toList_ofList]
  congr 1
  exact Text.lowercaseFrom_of_isLower fun c hc => Text.isLower_of_mem_lowercaseFrom hc

/-- Normalizing a key introduces no period. -/
lemma period_not_mem_normalizeKey {key : String} (h : '.' ∉ key.toList) :
    '.' ∉ (normalizeKey key).toList := by
  rw [normalizeKey, String.toList_ofList]
  exact fun hmem => h (Text.period_mem_of_mem_lowercaseFrom hmem)

/-- Only the empty key has an empty normal form. -/
lemma normalizeKey_eq_empty_iff {key : String} : normalizeKey key = "" ↔ key = "" := by
  rw [← String.toList_eq_nil_iff, ← String.toList_eq_nil_iff, normalizeKey, String.toList_ofList]
  exact Text.lowercaseFrom_eq_nil_iff

end ConfigTree
