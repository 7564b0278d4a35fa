import ConfigTree.Options
import ConfigTree.Proofs.Reference.Append

set_option relaxedAutoImplicit false
set_option autoImplicit false

/-!
# Texts that wait on a stack

The machine of substitution looks at the top of its stack alone. What it has written, the references
it has substituted and the texts that wait below play no part in a move, so a stack is settled part by
part: each part has an outcome of its own, which is a result together with a trail of references, and
the outcomes follow one another up to the first mistake.

A text that is substituted can be cut in two in the same way, also where the first half ends between
two references: its second half is read as if it were a text of its own, at the same hop and in the
text of the same option.

## Main definitions

* `ConfigTree.Reference.Outcome` — the result of a run, and the references that it substitutes.
* `ConfigTree.Reference.Outcome.andThen` — one outcome after another.
* `ConfigTree.Reference.settle` — the outcome for the texts on a stack.

## Main results

* `ConfigTree.Reference.settle_append` — a stack is settled part by part.
* `ConfigTree.Reference.settle_text` — a text is settled up to its first reference, then there.
* `ConfigTree.Reference.settle_text_append` — a text that is settled is so before any other text.
* `ConfigTree.Reference.substitute_concat` — substitution is compositional over concatenation.
-/

namespace ConfigTree.Reference

/-! ## Outcomes -/

/-- What a run ends with: its result, and the references that it substituted before. -/
abbrev Outcome := Except Error (List Char) × List Hop

namespace Outcome

/-- One outcome after another. There is no other one after a mistake. -/
def andThen (first last : Outcome) : Outcome :=
  match first with
  | (.ok text, trail) => (last.1.map (text ++ ·), trail ++ last.2)
  | (.error e, trail) => (.error e, trail)

/-- After a success, the texts and the trails are put together. -/
@[simp] lemma ok_andThen (text : List Char) (trail : List Hop) (last : Outcome) :
    andThen (.ok text, trail) last = (last.1.map (text ++ ·), trail ++ last.2) := rfl

/-- After a mistake, nothing happens any more. -/
@[simp] lemma error_andThen (e : Error) (trail : List Hop) (last : Outcome) :
    andThen (.error e, trail) last = (.error e, trail) := rfl

/-- It does not matter which outcomes are put together first. -/
lemma andThen_assoc (first second last : Outcome) :
    andThen (andThen first second) last = andThen first (andThen second last) := by
  rcases first with ⟨e | text, trail⟩
  · rfl
  · rcases second with ⟨e | more, trail'⟩
    · rfl
    · rcases last with ⟨e | rest, trail''⟩ <;> simp [Except.map]

/-- An outcome stays as it is if nothing comes after it. -/
lemma andThen_nil (first : Outcome) : andThen first (.ok [], []) = first := by
  rcases first with ⟨e | text, trail⟩ <;> simp [Except.map]

/-- The second outcome is as it is if both of them together succeed. -/
lemma ok_of_andThen {first last : Outcome} {found : List Char}
    (h : (first.andThen last).1 = .ok found) : ∃ more, last.1 = .ok more := by
  rcases first with ⟨e | text, trail⟩
  · simp at h
  · obtain ⟨more, hmore, -⟩ := map_eq_ok_iff.mp h
    exact ⟨more, hmore⟩

end Outcome

/-! ## Moves among other texts -/

section Within

variable (lookup : OptionPath → Option Value) (origin : OptionPath) (output : List Char)
  (trail : List Hop) (waiting : List Frame)

/-- The machine among other texts: some are written already, with the references in them, and some
wait below its own. -/
def Machine.within (machine : Machine) : Machine :=
  ⟨output ++ machine.output, trail ++ machine.trail, machine.stack ++ waiting⟩

/-- The move of a machine among other texts. -/
def Progress.within : Progress → Progress
  | .next machine => .next (machine.within output trail waiting)
  | .stop result => .stop (result.map (output ++ ·))

/-- **A move** is the same among other texts, as long as there is a text of the machine to look at or
none below. -/
lemma Machine.step_within {machine : Machine} (h : machine.stack = [] → waiting = []) :
    (machine.within output trail waiting).step lookup origin =
      (machine.step lookup origin).within output trail waiting := by
  obtain ⟨written, hops, stack⟩ := machine
  cases stack with
  | nil =>
    obtain rfl := h rfl
    rfl
  | cons frame stack =>
    obtain ⟨turn, hturn⟩ := frame.exists_turns lookup origin
    rw [hturn.step_eq, within, List.cons_append, hturn.step_eq]
    cases turn <;> simp [Turn.progress, Progress.within, within, Except.map]

/-- A machine stops without a mistake only if no text waits. -/
lemma Machine.stack_eq_nil_of_step {machine : Machine} {text : List Char}
    (h : machine.step lookup origin = .stop (.ok text)) :
    machine.stack = [] ∧ machine.output = text := by
  obtain ⟨written, hops, stack⟩ := machine
  cases stack with
  | nil => exact ⟨rfl, Except.ok.inj (Progress.stop.inj h)⟩
  | cons frame stack =>
    obtain ⟨turn, hturn⟩ := frame.exists_turns lookup origin
    rw [hturn.step_eq] at h
    cases turn <;> simp [Turn.progress] at h

end Within

/-! ## Runs, part by part -/

section Settle

variable (lookup : OptionPath → Option Value) (origin : OptionPath)

/-- The outcome for the texts on a stack. -/
def settle (stack : List Frame) : Outcome :=
  Machine.run lookup origin ⟨[], [], stack⟩

variable {lookup origin}

/-- **What was written before** stays in front of what a run writes, and the references before it in
front of those that it substitutes.

**Proof sketch.** Induction along the run, since every move is the same (`Machine.step_within`). -/
lemma Machine.run_after (output : List Char) (trail : List Hop) (machine : Machine) :
    (machine.within output trail []).run lookup origin =
      Outcome.andThen (.ok output, trail) (machine.run lookup origin) := by
  induction machine using Machine.run.induct lookup origin with
  | case1 machine next hstep ih =>
    have hwithin := machine.step_within lookup origin output trail [] fun _ => rfl
    rw [hstep] at hwithin
    rw [run_of_step_next hwithin, run_of_step_next hstep, ih]
  | case2 machine result hstep =>
    have hwithin := machine.step_within lookup origin output trail [] fun _ => rfl
    rw [hstep] at hwithin
    rw [run_of_step_stop hwithin, run_of_step_stop hstep]
    rfl

/-- A run is settled by its stack. -/
lemma Machine.run_eq_settle (machine : Machine) :
    machine.run lookup origin =
      Outcome.andThen (.ok machine.output, machine.trail) (settle lookup origin machine.stack) := by
  have hmachine : (⟨[], [], machine.stack⟩ : Machine).within machine.output machine.trail [] =
      machine := by
    simp [within]
  rw [settle, ← run_after, hmachine]

/-- **Texts below** wait until a run is over, and are settled then.

**Proof sketch.** Induction along the run. A move with texts below is the same as without them
(`Machine.step_within`). A run that is over either has found a mistake, or goes on with the texts
below after what it has written (`Machine.run_eq_settle`). -/
lemma Machine.run_above (waiting : List Frame) (machine : Machine) :
    (machine.within [] [] waiting).run lookup origin =
      Outcome.andThen (machine.run lookup origin) (settle lookup origin waiting) := by
  induction machine using Machine.run.induct lookup origin with
  | case1 machine next hstep ih =>
    have hstack : machine.stack = [] → waiting = [] := by
      intro hnil
      simp [step, hnil] at hstep
    have hwithin := machine.step_within lookup origin [] [] waiting hstack
    rw [hstep] at hwithin
    rw [run_of_step_next hwithin, run_of_step_next hstep, ih]
  | case2 machine result hstep =>
    rw [run_of_step_stop hstep]
    cases result with
    | ok text =>
      obtain ⟨hstack, houtput⟩ := stack_eq_nil_of_step lookup origin hstep
      rw [run_eq_settle]
      simp [within, hstack, houtput]
    | error e =>
      have hstack : machine.stack = [] → waiting = [] := by
        intro hnil
        simp [step, hnil] at hstep
      have hwithin := machine.step_within lookup origin [] [] waiting hstack
      rw [hstep] at hwithin
      rw [run_of_step_stop hwithin]
      simp [within, Except.map]

/-- **A stack is settled part by part.** -/
lemma settle_append (stack waiting : List Frame) :
    settle lookup origin (stack ++ waiting) =
      Outcome.andThen (settle lookup origin stack) (settle lookup origin waiting) :=
  Machine.run_above waiting ⟨[], [], stack⟩

/-- An empty stack settles to the empty text, with no references. -/
@[simp] lemma settle_nil : settle lookup origin [] = (.ok [], []) := by
  rw [settle, Machine.run_of_step_stop rfl]

end Settle

/-! ## Texts, part by part -/

section Text

variable {lookup : OptionPath → Option Value} {origin context : OptionPath} {hops : ℕ}

/-- A scan with more text after it: it goes on at the end of the first text, and stops at the first
reference or mistake in it otherwise. -/
def scanBefore (more : List Char) : List Char × Stop → List Char × Stop
  | (passed, .done) => (passed ++ (scan more).1, (scan more).2)
  | (passed, .reference name fragment tail) =>
    (passed, .reference name (fragment ++ more) (tail ++ more))
  | (passed, .malformed fragment) => (passed, .malformed (fragment ++ more))

/-- A character that the first scan passes is passed by the longer scan as well. -/
lemma scanBefore_cons (more : List Char) (c : Char) (passed : List Char) (stop : Stop) :
    scanBefore more (c :: passed, stop) =
      (c :: (scanBefore more (passed, stop)).1, (scanBefore more (passed, stop)).2) := by
  cases stop <;> rfl

/-- Any character but a dollar sign is passed over. -/
lemma scan_char {c : Char} (hc : c ≠ '$') (rest : List Char) :
    scan (c :: rest) = (c :: (scan rest).1, (scan rest).2) := by
  rw [scan]
  · exact fun _ h _ => hc h
  · exact fun _ h _ => hc h
  · exact hc

/-- **A scan** that meets no mistake reads the same before any other text.

**Proof sketch.** Induction along the scan. A mistake is left out because of a dollar sign at the end
of the first text, which another text can complete. -/
lemma scan_append {text : List Char} (h : ∀ fragment, (scan text).2 ≠ .malformed fragment)
    (more : List Char) : scan (text ++ more) = scanBefore more (scan text) := by
  induction text using scan.induct with
  | case1 => rfl
  | case2 rest passed stop hrest ih =>
    rw [scan, hrest] at h ⊢
    rw [hrest] at ih
    rw [List.cons_append, List.cons_append, scan, ih h, scanBefore_cons]
  | case3 rest name tail hname =>
    rw [scan, hname, List.cons_append, List.cons_append, scan, nameAt?_append hname more]
    rfl
  | case4 rest hname =>
    rw [scan, hname] at h
    exact absurd rfl (h _)
  | case5 rest h₁ h₂ =>
    rw [scan] at h
    · exact absurd rfl (h _)
    · exact h₁
    · exact h₂
  | case6 c rest h₁ h₂ h₃ passed stop hrest ih =>
    rw [scan_char h₃, hrest] at h ⊢
    rw [hrest] at ih
    rw [List.cons_append, scan_char h₃, ih h, scanBefore_cons]

/-- A mistake need not be one before another text. -/
example : scan ['$'] = ([], .malformed ['$']) ∧ scan (['$'] ++ ['$']) = (['$'], .done) :=
  ⟨rfl, rfl⟩

variable (lookup origin context hops) in
/-- The outcome for a text from the place where its scan stops. -/
def settleStop : Stop → Outcome
  | .done => (.ok [], [])
  | .malformed fragment =>
    (.error (.malformedReference (String.ofList fragment) context.text), [])
  | .reference name fragment tail =>
    match OptionPath.parse? (String.ofList name) with
    | none => (.error (.malformedReference (String.ofList fragment) context.text), [])
    | some path =>
      match lookup path with
      | none => (.error (.missingReference (String.ofList name) context.text), [])
      | some value =>
        Outcome.andThen (.ok [], [⟨path, context, hops + 1⟩])
          (Outcome.andThen
            (settle lookup origin [⟨path, value.toLiteral.toList, hops + 1, value.isString⟩])
            (settle lookup origin [⟨context, tail, hops, true⟩]))

/-- The rest of a text is settled as a text, also if nothing is left. -/
lemma settle_rest (hhops : hops ≤ hopLimit) (text tail : List Char) :
    settle lookup origin (Frame.rest ⟨context, text, hops, true⟩ tail) =
      settle lookup origin [⟨context, tail, hops, true⟩] := by
  cases tail with
  | nil =>
    have hturn : Frame.Turns lookup origin ⟨context, [], hops, true⟩ (.write []) :=
      .done hhops rfl rfl
    exact (Machine.run_of_step_next (hturn.step_eq [] [] [])).symm
  | cons c tail => rfl

/-- **A text is settled** up to its first reference or mistake, and then from there on. -/
lemma settle_text (hhops : hops ≤ hopLimit) (text : List Char) :
    settle lookup origin [⟨context, text, hops, true⟩] =
      Outcome.andThen (.ok (scan text).1, [])
        (settleStop lookup origin context hops (scan text).2) := by
  let frame : Frame := ⟨context, text, hops, true⟩
  obtain ⟨turn, hturn⟩ := frame.exists_turns lookup origin
  have hstep := hturn.step_eq [] [] []
  show Machine.run lookup origin ⟨[], [], [frame]⟩ = _
  cases hturn with
  | beyond hbeyond => exact absurd hbeyond (Nat.not_lt_of_le hhops)
  | plain _ hscanned => cases hscanned
  | done _ _ hscan =>
    rw [Machine.run_of_step_next hstep, Machine.run_eq_settle, settle_nil, hscan]
    rfl
  | malformed _ _ hscan =>
    rw [Machine.run_of_step_stop hstep, hscan]
    rfl
  | nowhere _ _ hscan hpath =>
    rw [Machine.run_of_step_stop hstep, hscan]
    simp only [settleStop, hpath]
    rfl
  | missing _ _ hscan hpath hvalue =>
    rw [Machine.run_of_step_stop hstep, hscan]
    simp only [settleStop, hpath, hvalue]
    rfl
  | @follow _ _ _ tail path value _ _ hscan hpath hvalue =>
    have hstack : settle lookup origin (frame.target path value :: (frame.rest tail ++ [])) =
        Outcome.andThen (settle lookup origin [frame.target path value])
          (settle lookup origin [⟨context, tail, hops, true⟩]) := by
      rw [List.append_nil, ← settle_rest hhops text tail]
      exact settle_append [_] _
    rw [Machine.run_of_step_next hstep, Machine.run_eq_settle, hstack, hscan]
    simp only [settleStop, hpath, hvalue, Outcome.ok_andThen, map_nil_append]
    rfl

/-- A text beyond the hop limit is refused. -/
lemma le_of_settle {text found : List Char}
    (h : (settle lookup origin [⟨context, text, hops, true⟩]).1 = .ok found) :
    hops ≤ hopLimit := by
  by_contra hnot
  have hturn : Frame.Turns lookup origin ⟨context, text, hops, true⟩
      (.refuse (.deepReference context.optionName origin.text hopLimit)) :=
    .beyond (Nat.lt_of_not_le hnot)
  rw [settle, Machine.run_of_step_stop (hturn.step_eq [] [] [])] at h
  cases h

/-- A reference without a mistake names an option that stores a value. -/
lemma exists_value_of_settleStop {name fragment tail found : List Char}
    (h : (settleStop lookup origin context hops (.reference name fragment tail)).1 = .ok found) :
    ∃ path value, OptionPath.parse? (String.ofList name) = some path ∧ lookup path = some value := by
  unfold settleStop at h
  cases hpath : OptionPath.parse? (String.ofList name) with
  | none => simp [hpath] at h
  | some path =>
    cases hvalue : lookup path with
    | none => simp [hpath, hvalue] at h
    | some value => exact ⟨path, value, rfl, hvalue⟩

/-- **A text that is settled** without a mistake is settled in the same way before any other text,
which is settled after it.

**Proof sketch.** Induction on the length of the text. The scan of both texts together passes over the
first text, and goes on with the other one, if the first text holds no reference (`scan_append`).
Otherwise it stops at the first reference of the first text. What is left of the first text there is
shorter, and the other text stands after it, below the text of the referenced value
(`settle_append`). -/
lemma settle_text_append {text found : List Char}
    (h : (settle lookup origin [⟨context, text, hops, true⟩]).1 = .ok found) (more : List Char) :
    settle lookup origin [⟨context, text ++ more, hops, true⟩] =
      Outcome.andThen (settle lookup origin [⟨context, text, hops, true⟩])
        (settle lookup origin [⟨context, more, hops, true⟩]) := by
  have hhops : hops ≤ hopLimit := le_of_settle h
  induction hlength : text.length using Nat.strongRecOn generalizing text found with
  | _ length ih =>
    rw [settle_text hhops text] at h ⊢
    rw [settle_text hhops (text ++ more)]
    rcases hscan : scan text with ⟨passed, _ | ⟨name, fragment, tail⟩ | fragment⟩
    · have happend : scan (text ++ more) = (passed ++ (scan more).1, (scan more).2) := by
        rw [scan_append, hscan, scanBefore]
        simp [hscan]
      rw [happend, settle_text hhops more]
      simp only [settleStop, Outcome.andThen_nil, ← Outcome.andThen_assoc]
      rfl
    · have happend : scan (text ++ more) =
          (passed, .reference name (fragment ++ more) (tail ++ more)) := by
        rw [scan_append, hscan, scanBefore]
        simp [hscan]
      rw [hscan] at h
      rw [happend, Outcome.andThen_assoc]
      obtain ⟨rest, hrest⟩ := Outcome.ok_of_andThen h
      obtain ⟨path, value, hpath, hvalue⟩ := exists_value_of_settleStop hrest
      simp only [settleStop, hpath, hvalue] at hrest ⊢
      -- the text of the referenced value is settled before what is left of the text
      obtain ⟨last, hlast⟩ := Outcome.ok_of_andThen hrest
      obtain ⟨left, hleft⟩ := Outcome.ok_of_andThen hlast
      have hshorter : tail.length < length := hlength ▸ length_lt_of_scan hscan
      rw [ih tail.length hshorter hleft rfl, Outcome.andThen_assoc, Outcome.andThen_assoc]
    · rw [hscan] at h
      simp [settleStop, Except.map] at h

end Text

/-! ## Two texts -/

/-- **Substitution is compositional over concatenation.** Below every node and for every option, if a
text is substituted without a mistake, then it is substituted in the same way before any other text:
what is substituted in the other text follows, and a mistake in the other text is the mistake in both,
with the same fragment and the same path. The references that are substituted, with the options in
whose texts they stand and their places in their chains, are those of the first text and then those
of the other one, also if there is a mistake there.

**Proof sketch.** Both texts together wait on the stack as one text of the option, and are settled one
after the other (`settle_text_append`). -/
theorem substitute_concat (node : Node) (origin : OptionPath) (first second : String)
    {found : String} (h : node.substitute origin first = .ok found) :
    (∀ last, node.substitute origin second = .ok last →
      node.substitute origin (first ++ second) = .ok (found ++ last)) ∧
    (∀ e, node.substitute origin second = .error e →
      node.substitute origin (first ++ second) = .error e) ∧
    trail node.stored? origin (first ++ second) =
      trail node.stored? origin first ++ trail node.stored? origin second := by
  obtain ⟨text, htext, rfl⟩ := map_eq_ok_iff.mp h
  have hfirst : (start origin first).run node.stored? origin =
      (.ok text, trail node.stored? origin first) := Prod.ext htext rfl
  have hboth : (start origin (first ++ second)).run node.stored? origin =
      Outcome.andThen ((start origin first).run node.stored? origin)
        ((start origin second).run node.stored? origin) := by
    rw [start, String.toList_append]
    exact settle_text_append htext second.toList
  rw [hfirst, Outcome.ok_andThen] at hboth
  refine ⟨fun last hlast => ?_, fun e he => ?_, congrArg Prod.snd hboth⟩
  · obtain ⟨more, hmore, rfl⟩ := map_eq_ok_iff.mp hlast
    have hresult : ((start origin (first ++ second)).run node.stored? origin).1 =
        .ok (text ++ more) := by
      rw [hboth, hmore]
      rfl
    exact map_eq_ok_iff.mpr ⟨_, hresult, String.ofList_append⟩
  · have herror : ((start origin second).run node.stored? origin).1 = .error e :=
      map_eq_error_iff.mp he
    have hresult : ((start origin (first ++ second)).run node.stored? origin).1 = .error e := by
      rw [hboth, herror]
      rfl
    exact map_eq_error_iff.mpr hresult

/-- A tree with one option, for texts that refer to it. -/
def referredTree : Tree :=
  ⟨#[⟨.options, [("x", .value (.string "v"))], some (some 1)⟩,
    ⟨.subsections, [("b", .node 0)], some (some 2)⟩, ⟨.sections, [("a", .node 1)], some none⟩], 2,
    ({} : Options).treatment⟩

/-- A text that ends with a reference, before an escape and before a dollar sign that is none. -/
theorem substitute_concat_reference :
    referredTree.top.substitute ⟨"a", "b", "y"⟩ "at ${a.b.x}" = .ok "at v" ∧
    referredTree.top.substitute ⟨"a", "b", "y"⟩ ("at ${a.b.x}" ++ "$$") = .ok "at v$" ∧
    referredTree.top.substitute ⟨"a", "b", "y"⟩ ("at ${a.b.x}" ++ "$!") =
      .error (.malformedReference "$!" "a.b.y") := by
  have hname : Names referredTree.top.stored? "a.b.x" (.string "v") :=
    ⟨List.all_eq_true.mp (by decide), ⟨"a", "b", "x"⟩, rfl, rfl⟩
  have hreference : referredTree.top.substitute ⟨"a", "b", "y"⟩ (written "a.b.x") = .ok "v" := by
    apply substitute_eq_ok_iff.mpr
    apply hname.expand_written_of_string
    intro target
    exact expand_of_no_dollar (by decide)
  have hplain : referredTree.top.substitute ⟨"a", "b", "y"⟩ "at " = .ok "at " :=
    substitute_eq_ok_iff.mpr (expand_of_no_dollar (by decide))
  have hescape : referredTree.top.substitute ⟨"a", "b", "y"⟩ "$$" = .ok "$" := by
    apply substitute_eq_ok_iff.mpr
    show expand _ _ _ _ ('$' :: '$' :: []) = _
    rw [expand_escape, expand_nil]
    rfl
  have hlone : referredTree.top.substitute ⟨"a", "b", "y"⟩ "$!" =
      .error (.malformedReference "$!" "a.b.y") := by
    rw [substitute_eq_expand]
    show (expand _ _ _ _ ('$' :: '!' :: [])).map _ = _
    rw [expand_lone _ _ _ _ (by simp) (by simp)]
    rfl
  have hfirst := (substitute_concat referredTree.top ⟨"a", "b", "y"⟩ "at " _ hplain).1 _ hreference
  obtain ⟨hok, -, -⟩ := substitute_concat referredTree.top ⟨"a", "b", "y"⟩ _ "$$" hfirst
  obtain ⟨-, herror, -⟩ := substitute_concat referredTree.top ⟨"a", "b", "y"⟩ _ "$!" hfirst
  exact ⟨hfirst, hok _ hescape, herror _ hlone⟩

end ConfigTree.Reference
