import Mathlib.Data.List.Basic
import ConfigTree.Proofs.Reference.Move
import ConfigTree.Tree.Read

set_option relaxedAutoImplicit false
set_option autoImplicit false

/-!
# The text that references stand for

Substitution runs as a machine with a stack of waiting texts. Its result has a simpler description,
which reads a text from left to right and calls itself on the text of each referenced value, before
it looks at what follows the reference. This file gives that description and shows that the machine
computes it, in its results as well as in its errors.

Errors about references name the option in whose text they stand and the option that was asked for.
Apart from these errors, what a text stands for depends on the text and on the values of options
alone.

## Main definitions

* `ConfigTree.Reference.expand` — what a text stands for, by recursion on the text.
* `ConfigTree.Reference.expandValue` — what the text of a value that is referred to stands for.
* `ConfigTree.Reference.expandAll` — what the texts on a stack stand for, one after the other.
* `ConfigTree.Reference.Machine.pending` — what a machine is going to write.

## Main results

* `ConfigTree.Reference.expand_induction` — induction along the expansion of a text.
* `ConfigTree.Reference.Machine.pending_step` — a move keeps what the machine is going to write.
* `ConfigTree.Reference.Machine.run_eq_pending` — hence a run ends with it.
* `ConfigTree.Reference.substitute_eq_expand` — substitution is expansion, for every node that
  serves as the start of paths, every option and every text.
* `ConfigTree.Reference.toOption_expand` — a text stands for the same wherever it stands.
* `ConfigTree.Reference.substitute_of_origin` — hence the same is substituted in it.

## Implementation notes

The recursion goes down in the number of hops that are left, and at one hop in the length of the
text. A machine can hold a frame beyond the hop limit, which `expand` never sees: there the reference
itself is refused. `Frame.expand` closes this gap by refusing such a frame.
-/

namespace ConfigTree.Reference

variable (lookup : OptionPath → Option Value) (origin : OptionPath)

/-! ## The recursive description -/

mutual

/-- What a text of the option `context` stands for, `hops` references away from the text of the
option `origin` that was asked for. -/
def expand (hops : ℕ) (context : OptionPath) (text : List Char) : Except Error (List Char) :=
  match _h : text with
  | [] => .ok []
  | '$' :: '$' :: rest => (expand hops context rest).map ('$' :: ·)
  | '$' :: '\x7b' :: rest =>
    match _h : nameAt? rest with
    | some (name, tail) => expandReference hops context name ('$' :: '\x7b' :: rest) tail
    | none =>
      .error (.malformedReference (String.ofList ('$' :: '\x7b' :: rest)) context.text)
  | '$' :: rest => .error (.malformedReference (String.ofList ('$' :: rest)) context.text)
  | c :: rest => (expand hops context rest).map (c :: ·)
termination_by (hopLimit - hops, text.length, 0)
decreasing_by
  · simp_wf; right; left; omega
  · have := length_lt_of_nameAt? _h
    simp_wf; right; left; omega
  · simp_wf; right; left; omega

/-- What a reference stands for, together with the text `tail` after it. The text from the reference
on is `fragment`. -/
def expandReference (hops : ℕ) (context : OptionPath) (name fragment tail : List Char) :
    Except Error (List Char) :=
  match OptionPath.parse? (String.ofList name) with
  | none => .error (.malformedReference (String.ofList fragment) context.text)
  | some path =>
    match lookup path with
    | none => .error (.missingReference (String.ofList name) context.text)
    | some value =>
      if _h : hops < hopLimit then
        (if value.isString then expand (hops + 1) path value.toLiteral.toList
          else .ok value.toLiteral.toList) >>= fun found =>
        (expand hops context tail).map (found ++ ·)
      else .error (.deepReference path.optionName origin.text hopLimit)
termination_by (hopLimit - hops, tail.length, 1)
decreasing_by
  · left; omega
  · right; right; omega

end

/-- Induction along the expansion of a text. A reference goes on in the text of a value, one hop
further, and in the text after the reference. -/
@[elab_as_elim]
theorem expand_induction {motive : ℕ → OptionPath → List Char → Prop}
    (nil : ∀ hops context, motive hops context [])
    (escape : ∀ hops context rest, motive hops context rest →
      motive hops context ('$' :: '$' :: rest))
    (reference : ∀ hops context rest name tail, nameAt? rest = some (name, tail) →
      (hops < hopLimit → ∀ path text, motive (hops + 1) path text) → motive hops context tail →
      motive hops context ('$' :: '\x7b' :: rest))
    (noName : ∀ hops context rest, nameAt? rest = none →
      motive hops context ('$' :: '\x7b' :: rest))
    (lone : ∀ hops context rest, (∀ more, rest ≠ '$' :: more) → (∀ more, rest ≠ '\x7b' :: more) →
      motive hops context ('$' :: rest))
    (char : ∀ hops context c rest, c ≠ '$' → motive hops context rest →
      motive hops context (c :: rest)) (hops : ℕ) (context : OptionPath) (text : List Char) :
    motive hops context text := by
  induction hleft : hopLimit - hops using Nat.strongRecOn generalizing hops context text with
  | _ left ihHops =>
    induction hlength : text.length using Nat.strongRecOn generalizing text with
    | _ length ihText =>
      have ih (rest : List Char) (hlt : rest.length < text.length) : motive hops context rest :=
        ihText rest.length (hlength ▸ hlt) rest rfl
      fun_cases scan text with
      | case1 => exact nil hops context
      | case2 rest =>
        exact escape hops context rest (ih rest (by simp only [List.length_cons]; omega))
      | case3 rest name tail hname =>
        have hlt := length_lt_of_nameAt? hname
        refine reference hops context rest name tail hname (fun hhops path text => ?_) ?_
        · exact ihHops _ (by omega) (hops + 1) path text rfl
        · exact ih tail (by simp only [List.length_cons]; omega)
      | case4 rest hname => exact noName hops context rest hname
      | case5 rest h₁ h₂ => exact lone hops context rest h₁ h₂
      | case6 c rest h₁ h₂ hc => exact char hops context c rest hc (ih rest (by simp))

/-! ## Values that are referred to -/

/-- What the text of a value stands for, if the reference to it stands `hops` references away from
the text of the option `origin`. -/
def expandValue (hops : ℕ) (path : OptionPath) (value : Value) : Except Error (List Char) :=
  if hops < hopLimit then
    if value.isString then expand lookup origin (hops + 1) path value.toLiteral.toList
    else .ok value.toLiteral.toList
  else .error (.deepReference path.optionName origin.text hopLimit)

/-- A reference to a value stands for what the text of the value stands for. -/
lemma expandReference_of_value {hops : ℕ} {context path : OptionPath}
    {name fragment tail : List Char} {value : Value}
    (hpath : OptionPath.parse? (String.ofList name) = some path)
    (hvalue : lookup path = some value) :
    expandReference lookup origin hops context name fragment tail =
      expandValue lookup origin hops path value >>= fun found =>
        (expand lookup origin hops context tail).map (found ++ ·) := by
  rw [expandReference, hpath]
  simp only [hvalue, expandValue]
  by_cases hhops : hops < hopLimit
  · simp only [hhops, dite_true, if_true]
  · simp only [hhops, dite_false, if_false]
    rfl

/-! ## Expansion in terms of scans -/

section Scan

variable (hops : ℕ) (context : OptionPath)

/-- What follows the place where a scan stops stands for. -/
def expandStop : Stop → Except Error (List Char)
  | .done => .ok []
  | .reference name fragment tail =>
    expandReference lookup origin hops context name fragment tail
  | .malformed fragment =>
    .error (.malformedReference (String.ofList fragment) context.text)

/-- The empty text stands for itself. -/
@[simp] lemma expand_nil : expand lookup origin hops context [] = .ok [] := by
  rw [expand]

/-- An escape stands for one dollar sign. -/
lemma expand_escape (rest : List Char) :
    expand lookup origin hops context ('$' :: '$' :: rest) =
      (expand lookup origin hops context rest).map ('$' :: ·) := by
  rw [expand]

/-- A name in braces is a reference. -/
lemma expand_name {rest name tail : List Char} (h : nameAt? rest = some (name, tail)) :
    expand lookup origin hops context ('$' :: '\x7b' :: rest) =
      expandReference lookup origin hops context name ('$' :: '\x7b' :: rest) tail := by
  rw [expand]
  split
  · rename_i h'
    obtain ⟨rfl, rfl⟩ : _ = name ∧ _ = tail := by simpa [h] using h'.symm
    rfl
  · simp_all

/-- An opening brace that no name follows is a mistake. -/
lemma expand_noName {rest : List Char} (h : nameAt? rest = none) :
    expand lookup origin hops context ('$' :: '\x7b' :: rest) =
      .error (.malformedReference (String.ofList ('$' :: '\x7b' :: rest)) context.text) := by
  rw [expand]
  split
  · simp_all
  · rfl

/-- A dollar sign before any other character, or at the end, is a mistake. -/
lemma expand_lone {rest : List Char} (h₁ : ∀ more, rest ≠ '$' :: more)
    (h₂ : ∀ more, rest ≠ '\x7b' :: more) :
    expand lookup origin hops context ('$' :: rest) =
      .error (.malformedReference (String.ofList ('$' :: rest)) context.text) := by
  rw [expand]
  · exact fun more h => h₁ more h
  · exact fun more h => h₂ more h

/-- Any other character stands for itself. -/
lemma expand_char {c : Char} (hc : c ≠ '$') (rest : List Char) :
    expand lookup origin hops context (c :: rest) =
      (expand lookup origin hops context rest).map (c :: ·) := by
  rw [expand] <;> simp [hc]

/-- **Expansion by scanning**: a text stands for what its scan passes over, followed by what stands
at the place where the scan stops.

**Proof sketch.** Induction along the scan. A character that the scan passes over is put before both
sides; at the place where it stops both sides read the same mistake or reference. -/
lemma expand_eq_scan (text : List Char) :
    expand lookup origin hops context text =
      (expandStop lookup origin hops context (scan text).2).map ((scan text).1 ++ ·) := by
  induction text using scan.induct with
  | case1 => rw [expand_nil]; rfl
  | case2 rest text stop hrest ih =>
    rw [expand_escape, ih, scan, hrest]
    cases expandStop lookup origin hops context stop <;> rfl
  | case3 rest name tail hname =>
    rw [expand_name lookup origin hops context hname, scan, hname]
    simp only [expandStop]
    cases expandReference lookup origin hops context name _ tail <;> rfl
  | case4 rest hname =>
    rw [expand_noName lookup origin hops context hname, scan, hname]
    rfl
  | case5 rest h₁ h₂ =>
    rw [expand_lone lookup origin hops context h₁ h₂, scan]
    · rfl
    · exact h₁
    · exact h₂
  | case6 c rest h₁ h₂ h₃ text stop hrest ih =>
    rw [expand_char lookup origin hops context h₃, ih, scan, hrest]
    · cases expandStop lookup origin hops context stop <;> rfl
    · exact h₁
    · exact h₂
    · exact h₃

end Scan

/-! ## The machine -/

/-- What a waiting text stands for. A text beyond the hop limit is refused unread. -/
def Frame.expand (frame : Frame) : Except Error (List Char) :=
  if hopLimit < frame.hops then
    .error (.deepReference frame.path.optionName origin.text hopLimit)
  else if frame.scanned then Reference.expand lookup origin frame.hops frame.path frame.text
  else .ok frame.text

/-- What the texts on a stack stand for, one after the other, up to the first mistake. -/
def expandAll : List Frame → Except Error (List Char)
  | [] => .ok []
  | frame :: waiting =>
    frame.expand lookup origin >>= fun text => (expandAll waiting).map (text ++ ·)

/-- What a machine is going to write: what it has written, and what its stack stands for. -/
def Machine.pending (machine : Machine) : Except Error (List Char) :=
  (expandAll lookup origin machine.stack).map (machine.output ++ ·)

/-- What is written after a move: what the machine is going to write, or the result it stops with. -/
def Progress.pending : Progress → Except Error (List Char)
  | .next machine => machine.pending lookup origin
  | .stop result => result

/-- The rest of a text stands for the same on the stack as in the text. -/
lemma expandAll_rest {frame : Frame} (hhops : ¬ hopLimit < frame.hops)
    (hscanned : frame.scanned = true) (tail : List Char) (waiting : List Frame) :
    expandAll lookup origin (frame.rest tail ++ waiting) =
      expand lookup origin frame.hops frame.path tail >>= fun text =>
        (expandAll lookup origin waiting).map (text ++ ·) := by
  cases tail with
  | nil =>
    rw [expand_nil]
    cases h : expandAll lookup origin waiting <;> simp [Frame.rest, h] <;> rfl
  | cons c tail => simp [Frame.rest, expandAll, Frame.expand, hhops, hscanned]

/-- What the text of a referenced value stands for on the stack. -/
lemma Frame.expand_target (frame : Frame) (path : OptionPath) (value : Value) :
    (frame.target path value).expand lookup origin =
      expandValue lookup origin frame.hops path value := by
  unfold Frame.expand Frame.target expandValue
  by_cases hlimit : frame.hops < hopLimit
  · have hnot : ¬ hopLimit < frame.hops + 1 := by omega
    simp only [hlimit, hnot, if_true, if_false]
  · have hover : hopLimit < frame.hops + 1 := by omega
    simp only [hlimit, hover, if_true, if_false]

/-- A reference stands for the same in its text as on the stack, where the text of the referenced
value waits before the rest of the text with the reference. -/
lemma expandAll_target {frame : Frame} (hhops : ¬ hopLimit < frame.hops)
    (hscanned : frame.scanned = true) {name : List Char} (fragment : List Char) {path : OptionPath}
    {value : Value} (hpath : OptionPath.parse? (String.ofList name) = some path)
    (hvalue : lookup path = some value) (tail : List Char) (waiting : List Frame) :
    expandAll lookup origin (frame.target path value :: (frame.rest tail ++ waiting)) =
      expandReference lookup origin frame.hops frame.path name fragment tail >>= fun text =>
        (expandAll lookup origin waiting).map (text ++ ·) := by
  rw [expandAll, expandAll_rest lookup origin hhops hscanned, Frame.expand_target,
    expandReference_of_value lookup origin hpath hvalue]
  cases expandValue lookup origin frame.hops path value with
  | error e => rfl
  | ok found =>
    cases expand lookup origin frame.hops frame.path tail with
    | error e => rfl
    | ok more =>
      cases expandAll lookup origin waiting with
      | error e => rfl
      | ok last => simp [bind, Except.bind, Except.map]

/-- What a text that is scanned stands for on the stack. -/
lemma Frame.expand_of_scan {frame : Frame} {text : List Char} {stop : Stop}
    (hhops : frame.hops ≤ hopLimit) (hscanned : frame.scanned = true)
    (hscan : Reference.scan frame.text = (text, stop)) :
    frame.expand lookup origin =
      (expandStop lookup origin frame.hops frame.path stop).map (text ++ ·) := by
  rw [Frame.expand, if_neg (Nat.not_lt_of_le hhops), if_pos hscanned, expand_eq_scan, hscan]

/-- **A move keeps what the machine is going to write**, and a machine that stops has written it.

**Proof sketch.** By what becomes of the top text. A text that is written moves from the stack to the
output (`Frame.expand_of_scan` for a text with references). A reference is replaced by the text of the
referenced value, which stands for the same (`expandAll_target`). A mistake is where the recursion
fails too, since all texts before it are written. -/
lemma Machine.pending_step (machine : Machine) :
    (machine.step lookup origin).pending lookup origin = machine.pending lookup origin := by
  obtain ⟨output, trail, stack⟩ := machine
  cases stack with
  | nil => simp [Progress.pending, pending, expandAll, Except.map]
  | cons frame waiting =>
    obtain ⟨turn, hturn⟩ := frame.exists_turns lookup origin
    rw [hturn.step_eq, pending, expandAll]
    cases hturn with
    | beyond hhops =>
      rw [Frame.expand, if_pos hhops]
      rfl
    | plain hhops hscanned =>
      rw [Frame.expand, if_neg (Nat.not_lt_of_le hhops), hscanned, if_neg Bool.false_ne_true]
      simp only [Turn.progress, Progress.pending, pending]
      cases expandAll lookup origin waiting <;> simp [bind, Except.bind, Except.map]
    | done hhops hscanned hscan =>
      rw [Frame.expand_of_scan lookup origin hhops hscanned hscan]
      simp only [Turn.progress, Progress.pending, pending, expandStop]
      cases expandAll lookup origin waiting <;> simp [bind, Except.bind, Except.map]
    | malformed hhops hscanned hscan =>
      rw [Frame.expand_of_scan lookup origin hhops hscanned hscan]
      rfl
    | nowhere hhops hscanned hscan hpath =>
      rw [Frame.expand_of_scan lookup origin hhops hscanned hscan, expandStop, expandReference, hpath]
      rfl
    | missing hhops hscanned hscan hpath hvalue =>
      rw [Frame.expand_of_scan lookup origin hhops hscanned hscan, expandStop, expandReference, hpath]
      simp only [hvalue]
      rfl
    | @follow _ name fragment tail _ _ hhops hscanned hscan hpath hvalue =>
      rw [Frame.expand_of_scan lookup origin hhops hscanned hscan, expandStop]
      simp only [Turn.progress, Progress.pending, pending,
        expandAll_target lookup origin (Nat.not_lt_of_le hhops) hscanned fragment hpath hvalue]
      cases expandReference lookup origin frame.hops frame.path name fragment tail with
      | error e => rfl
      | ok more =>
        cases expandAll lookup origin waiting <;> simp [bind, Except.bind, Except.map]

/-- A run ends with what the machine was going to write.

**Proof sketch.** Induction along the run: no move changes it (`Machine.pending_step`). -/
lemma Machine.run_eq_pending (machine : Machine) :
    (machine.run lookup origin).1 = machine.pending lookup origin := by
  induction machine using Machine.run.induct lookup origin with
  | case1 machine next hstep ih =>
    rw [run_of_step_next hstep, ih, ← pending_step lookup origin machine, hstep]
    rfl
  | case2 machine result hstep =>
    rw [run_of_step_stop hstep, ← pending_step lookup origin machine, hstep]
    rfl

/-- **Substitution is expansion**: below every node, for every option and every text, the machine
writes what the recursion from left to right says, and it fails exactly where and how the recursion
fails.

**Proof sketch.** The machine starts with an empty output and the text as its only frame, so what it
is going to write is the expansion of the text; conclude with `Machine.run_eq_pending`. -/
theorem substitute_eq_expand (node : Node) (origin : OptionPath) (raw : String) :
    node.substitute origin raw =
      (expand node.stored? origin 0 origin raw.toList).map String.ofList := by
  unfold Node.substitute substitute
  rw [Machine.run_eq_pending]
  have hframe : Frame.expand node.stored? origin ⟨origin, raw.toList, 0, true⟩ =
      expand node.stored? origin 0 origin raw.toList := by
    simp [Frame.expand]
  simp only [start, Machine.pending, expandAll, hframe]
  cases expand node.stored? origin 0 origin raw.toList <;> simp [bind, Except.bind, Except.map]

end ConfigTree.Reference

namespace ConfigTree.Reference

/-! ## The place of a text plays no part in its substitution -/

variable {α β : Type}

/-- A result is translated whether or not its error is kept. -/
lemma toOption_map (f : α → β) (result : Except Error α) :
    (result.map f).toOption = result.toOption.map f := by
  cases result <;> rfl

/-- One result after another can forget its errors step by step. -/
lemma toOption_bind (result : Except Error α) (next : α → Except Error β) :
    (result >>= next).toOption = result.toOption.bind fun a => (next a).toOption := by
  cases result <;> rfl

/-- A value stands for the same for both options, if its text does. -/
lemma toOption_expandValue {lookup : OptionPath → Option Value} {origin origin' : OptionPath}
    {hops : ℕ} (path : OptionPath) (value : Value)
    (h : hops < hopLimit →
      (expand lookup origin (hops + 1) path value.toLiteral.toList).toOption =
        (expand lookup origin' (hops + 1) path value.toLiteral.toList).toOption) :
    (expandValue lookup origin hops path value).toOption =
      (expandValue lookup origin' hops path value).toOption := by
  unfold expandValue
  by_cases hhops : hops < hopLimit
  · rw [if_pos hhops, if_pos hhops]
    split
    · exact h hhops
    · rfl
  · rw [if_neg hhops, if_neg hhops]
    rfl

/-- **A text stands for the same** in the text of every option and for every option that was asked
for, if it stands for anything.

**Proof sketch.** Induction along the expansion of the text. Only its errors mention the two options,
and the text of a referenced value stands in the text of that value in both cases. -/
lemma toOption_expand (lookup : OptionPath → Option Value) (hops : ℕ)
    (context context' origin origin' : OptionPath) (text : List Char) :
    (expand lookup origin hops context text).toOption =
      (expand lookup origin' hops context' text).toOption := by
  induction hops, context, text using expand_induction generalizing context' origin origin' with
  | nil hops context =>
    rw [expand_nil, expand_nil]
  | escape hops context rest ih =>
    rw [expand_escape, expand_escape, toOption_map, toOption_map, ih context' origin origin']
  | reference hops context rest name tail hname ihValue ihTail =>
    rw [expand_name lookup origin hops context hname, expand_name lookup origin' hops context' hname]
    cases hpath : OptionPath.parse? (String.ofList name) with
    | none =>
      rw [expandReference, expandReference, hpath]
      rfl
    | some path =>
      cases hvalue : lookup path with
      | none =>
        rw [expandReference, expandReference, hpath]
        simp only [hvalue]
        rfl
      | some value =>
        have hfound := toOption_expandValue path value fun hhops =>
          ihValue hhops path value.toLiteral.toList path origin origin'
        rw [expandReference_of_value lookup origin hpath hvalue,
          expandReference_of_value lookup origin' hpath hvalue]
        simp only [toOption_bind, toOption_map, hfound, ihTail context' origin origin']
  | noName hops context rest hname =>
    rw [expand_noName lookup origin hops context hname,
      expand_noName lookup origin' hops context' hname]
    rfl
  | lone hops context rest h₁ h₂ =>
    rw [expand_lone lookup origin hops context h₁ h₂, expand_lone lookup origin' hops context' h₁ h₂]
    rfl
  | char hops context c rest hc ih =>
    rw [expand_char lookup origin hops context hc, expand_char lookup origin' hops context' hc,
      toOption_map, toOption_map, ih context' origin origin']

/-- The machine that starts with a text writes what the text stands for. -/
lemma run_start (lookup : OptionPath → Option Value) (origin : OptionPath) (raw : String) :
    ((start origin raw).run lookup origin).1 = expand lookup origin 0 origin raw.toList := by
  rw [Machine.run_eq_pending, start, Machine.pending, expandAll, Frame.expand, expandAll]
  cases expand lookup origin 0 origin raw.toList <;>
    simp [Except.map, bind, Except.bind]

/-- **What is substituted in a text** does not depend on the option to which the text belongs. -/
lemma substitute_of_origin {lookup : OptionPath → Option Value} {origin : OptionPath}
    {raw text : String} (h : substitute lookup origin raw = .ok text) (origin' : OptionPath) :
    substitute lookup origin' raw = .ok text := by
  have hexpand := toOption_expand lookup 0 origin origin' origin origin' raw.toList
  rw [substitute, run_start] at h ⊢
  cases hfound : expand lookup origin 0 origin raw.toList with
  | error e => simp [hfound, Except.map] at h
  | ok found =>
    rw [hfound] at h hexpand
    cases hfound' : expand lookup origin' 0 origin' raw.toList with
    | error e => simp [hfound', Except.toOption] at hexpand
    | ok found' =>
      rw [hfound'] at hexpand
      obtain rfl : found = found' := Option.some.inj hexpand
      exact h

end ConfigTree.Reference
