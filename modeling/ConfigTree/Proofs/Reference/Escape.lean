import ConfigTree.Options
import ConfigTree.Proofs.Reference.Append

set_option relaxedAutoImplicit false
set_option autoImplicit false

/-!
# Escaped dollar signs

A text in which each dollar sign is written twice is substituted to the text with single ones, both
where it is asked for and where another text refers to it. The escapes are taken back once, and what
they leave is not looked at again: no part of it becomes a reference.

## Main definitions

* `ConfigTree.Reference.escaped` — a text with each dollar sign written twice.
* `ConfigTree.Reference.Machine.Shallow` — only references in the text that was asked for were
  substituted.

## Main results

* `ConfigTree.Reference.scan_escaped` — a scan goes through an escaped text to its end.
* `ConfigTree.Reference.expand_escaped` — an escaped text stands for the text, at every hop.
* `ConfigTree.Reference.number_of_mem_trail` — if a text is substituted, all references stand in it.
* `ConfigTree.Reference.substitute_escaped` — the escapes are undone exactly once.
-/

namespace ConfigTree.Reference

variable {lookup : OptionPath → Option Value} {origin context : OptionPath} {hops : ℕ}

/-- How a character is written so that it stands for itself: a dollar sign is written twice. -/
def escapeDollar (c : Char) : List Char :=
  if c = '$' then ['$', '$'] else [c]

/-- The text with each dollar sign written twice. -/
def escaped (text : String) : String :=
  String.ofList (text.toList.flatMap escapeDollar)

/-- The characters of an escaped text are the escaped characters of the text. -/
@[simp] lemma toList_escaped (text : String) :
    (escaped text).toList = text.toList.flatMap escapeDollar :=
  String.toList_ofList

/-- **A scan** goes through an escaped text to its end, and takes the escapes back.

**Proof sketch.** Induction on the text. The two signs that are written for a dollar sign are read
together, so that the scan never begins in the middle of an escape. -/
lemma scan_escaped (text : List Char) : scan (text.flatMap escapeDollar) = (text, .done) := by
  induction text with
  | nil => rfl
  | cons c rest ih =>
    rw [List.flatMap_cons, escapeDollar]
    by_cases hc : c = '$'
    · rw [if_pos hc, hc]
      show scan ('$' :: '$' :: rest.flatMap escapeDollar) = _
      rw [scan, ih]
    · rw [if_neg hc, List.singleton_append, scan, ih]
      · exact fun _ h _ => hc h
      · exact fun _ h _ => hc h
      · exact hc

/-- **An escaped text** stands for the text, however many references lead to it. -/
lemma expand_escaped (text : List Char) :
    expand lookup origin hops context (text.flatMap escapeDollar) = .ok text := by
  rw [expand_eq_scan, scan_escaped]
  simp [expandStop, Except.map]

/-- The machine writes an escaped text in one move, and substitutes nothing. -/
lemma run_start_escaped (text : String) :
    (start origin (escaped text)).run lookup origin = (.ok text.toList, []) := by
  have hscan : scan (escaped text).toList = (text.toList, .done) := by
    rw [toList_escaped, scan_escaped]
  have hturn : Frame.Turns lookup origin ⟨origin, (escaped text).toList, 0, true⟩
      (.write text.toList) := .done (Nat.zero_le _) rfl hscan
  rw [start, Machine.run_of_step_next (hturn.step_eq [] [] []),
    Machine.run_of_step_stop (Machine.step_nil _ _)]
  rfl

/-! ## References in the text that is asked for -/

/-- All references so far stand in the text that was asked for. -/
def Machine.Shallow (machine : Machine) : Prop :=
  ∀ hop ∈ machine.trail, hop.number = 1

/-- A move that goes on leaves the trail as it is, or adds one reference to it, whose value is then the
next text. -/
lemma Machine.trail_of_step {machine next : Machine}
    (hstep : machine.step lookup origin = .next next) :
    next.trail = machine.trail ∨
    ∃ (frame : Frame) (path : OptionPath) (value : Value) (waiting : List Frame),
      frame.hops ≤ hopLimit ∧
      next.trail = machine.trail ++ [⟨path, frame.path, frame.hops + 1⟩] ∧
      next.stack = frame.target path value :: waiting := by
  obtain ⟨output, trail, stack⟩ := machine
  cases stack with
  | nil => cases hstep
  | cons frame waiting =>
    obtain ⟨turn, hturn⟩ := frame.exists_turns lookup origin
    rw [hturn.step_eq] at hstep
    cases hturn with
    | beyond | malformed | nowhere | missing => cases hstep
    | plain | done =>
      obtain rfl := Progress.next.inj hstep
      exact .inl rfl
    | @follow _ _ _ _ path value hhops =>
      obtain rfl := Progress.next.inj hstep
      exact .inr ⟨frame, path, value, _, hhops, rfl, rfl⟩

/-- **A move** adds only references in the text that was asked for, or goes beyond the hop limit.

**Proof sketch.** A text with references is at hop zero, where the text that was asked for stands, or
at the last hop. A reference at the last hop puts a text on the stack that is one hop further. -/
lemma Machine.Shallow.step {machine next : Machine} (h : machine.Shallow)
    (hstep : machine.step lookup origin = .next next) : next.Shallow ∨ next.Overrun := by
  rcases Machine.trail_of_step hstep with htrail | ⟨frame, path, value, waiting, hhops, htrail, hstack⟩
  · left
    intro hop hmem
    rw [htrail] at hmem
    exact h hop hmem
  · rcases Nat.lt_or_eq_of_le hhops with hlt | hlast
    · left
      intro hop hmem
      rw [htrail] at hmem
      rcases List.mem_append.mp hmem with hmem | hmem
      · exact h hop hmem
      · rw [List.mem_singleton.mp hmem]
        show frame.hops + 1 = 1
        unfold hopLimit at hlt
        omega
    · right
      refine ⟨_, _, hstack, ?_⟩
      show hopLimit < frame.hops + 1
      omega

/-- **A run that succeeds** substitutes references in the text that was asked for alone.

**Proof sketch.** Induction along the run. A move beyond the hop limit is followed by an error. -/
lemma Machine.Shallow.run {machine : Machine} (h : machine.Shallow) {found : List Char}
    (hrun : (machine.run lookup origin).1 = .ok found) :
    ∀ hop ∈ (machine.run lookup origin).2, hop.number = 1 := by
  induction machine using Machine.run.induct lookup origin with
  | case1 machine next hstep ih =>
    rw [run_of_step_next hstep] at hrun ⊢
    rcases h.step hstep with hnext | hover
    · exact ih hnext hrun
    · obtain ⟨e, herror⟩ : ∃ e, next.step lookup origin = .stop (.error e) := hover.step_eq
      rw [run_of_step_stop herror] at hrun
      simp at hrun
  | case2 machine result hstep =>
    rw [run_of_step_stop hstep]
    exact h

/-- **Where a text is substituted**, all references stand in this text, and none of them in a text
that it refers to. -/
lemma number_of_mem_trail {raw text : String} (h : substitute lookup origin raw = .ok text) :
    ∀ hop ∈ trail lookup origin raw, hop.number = 1 := by
  obtain ⟨found, hrun, -⟩ := map_eq_ok_iff.mp h
  have hstart : (start origin raw).Shallow := fun hop hmem => absurd hmem List.not_mem_nil
  exact hstart.run hrun

/-! ## Escaped texts and references to them -/

/-- **Escapes are undone exactly once.** Below every node and for every option, an escaped text is
substituted to the text, and no reference is substituted on the way, whatever the text looks like.
Where a text refers to an option that stores the escaped text, the reference is replaced by the text
itself, between what is substituted before it and after it, and no reference is substituted in the
text that replaces it.

**Proof sketch.** The scan of an escaped text finds neither a reference nor a mistake
(`scan_escaped`). So the escaped text stands for the text at the hop of the reference, too
(`expand_escaped`), and it stands there between the other texts (`substitute_append`). All references
in a text that is substituted stand in this text itself (`number_of_mem_trail`). -/
theorem substitute_escaped (node : Node) (origin : OptionPath) (text : String) :
    node.substitute origin (escaped text) = .ok text ∧
    trail node.stored? origin (escaped text) = [] ∧
    ∀ name before after found, Names node.stored? name (.string (escaped text)) →
      node.substitute origin before = .ok found →
      node.substitute origin (before ++ written name ++ after) =
        (node.substitute origin after).map (found ++ text ++ ·) ∧
      ∀ last, node.substitute origin after = .ok last →
        ∀ hop ∈ trail node.stored? origin (before ++ written name ++ after), hop.number = 1 := by
  refine ⟨?_, ?_, ?_⟩
  · apply substitute_eq_ok_iff.mpr
    rw [toList_escaped, expand_escaped]
  · rw [trail, run_start_escaped]
  · intro name before after found hname hbefore
    have hreference : substitute node.stored? origin (written name) = .ok text := by
      apply substitute_eq_ok_iff.mpr
      apply hname.expand_written_of_string
      intro target
      rw [toList_escaped, expand_escaped]
    have hboth : substitute node.stored? origin (before ++ written name) = .ok (found ++ text) := by
      rw [substitute_append hbefore, hreference]
      rfl
    have hall : substitute node.stored? origin (before ++ written name ++ after) =
        (substitute node.stored? origin after).map (found ++ text ++ ·) :=
      substitute_append hboth after
    refine ⟨hall, fun last hafter => ?_⟩
    have hlast : substitute node.stored? origin after = .ok last := hafter
    rw [hlast] at hall
    exact number_of_mem_trail hall

/-- A tree whose only option stores an escaped text; unescaped, the text would be a reference to the
option itself. -/
def escapedTree : Tree :=
  ⟨#[⟨.options, [("x", .value (.string (escaped "$\x7ba.b.x\x7d$")))], some (some 1)⟩,
    ⟨.subsections, [("b", .node 0)], some (some 2)⟩, ⟨.sections, [("a", .node 1)], some none⟩], 2,
    ({} : Options).treatment⟩

/-- A reference to that option, after an escape. -/
theorem substitute_escaped_between :
    escapedTree.top.stored? ⟨"a", "b", "x"⟩ = some (.string "$$\x7ba.b.x\x7d$$") ∧
    escapedTree.top.substitute ⟨"a", "b", "y"⟩ "at $$$\x7ba.b.x\x7d each" =
      .ok "at $$\x7ba.b.x\x7d$ each" := by
  have hvalue : escapedTree.top.stored? ⟨"a", "b", "x"⟩ =
      some (.string (escaped "$\x7ba.b.x\x7d$")) := rfl
  have hname : Names escapedTree.top.stored? "a.b.x" (.string (escaped "$\x7ba.b.x\x7d$")) :=
    ⟨List.all_eq_true.mp (by decide), ⟨"a", "b", "x"⟩, rfl, hvalue⟩
  have hbefore := (substitute_escaped escapedTree.top ⟨"a", "b", "y"⟩ "at $").1
  have hafter := (substitute_escaped escapedTree.top ⟨"a", "b", "y"⟩ " each").1
  obtain ⟨-, -, hbetween⟩ :=
    substitute_escaped escapedTree.top ⟨"a", "b", "y"⟩ "$\x7ba.b.x\x7d$"
  have hread := (hbetween "a.b.x" _ (escaped " each") _ hname hbefore).1
  rw [hafter] at hread
  exact ⟨hvalue, hread⟩

end ConfigTree.Reference
