import Mathlib.Order.WellFounded
import ConfigTree.Proofs.Reference.Move
import ConfigTree.Tree.Read

set_option relaxedAutoImplicit false
set_option autoImplicit false

/-!
# The end of a substitution

The machine of substitution comes to an end, whatever the options of a tree refer to: themselves,
each other, or texts of any length. A move may push two texts, and one of them is as long as the
tree likes, so neither the number of texts nor that of their characters goes down. But a referenced
text waits one hop further than the text with the reference, which gets shorter, and there are two
hops only.

The number of moves does not depend on the tree at all. Only dollar signs of the text that is asked
for make the machine fetch values: the text of a value takes one move, or one more that ends the
run.

## Main definitions

* `ConfigTree.Reference.Machine.Moves` — a machine becomes another one in a number of moves.
* `ConfigTree.Reference.Frame.budget`, `ConfigTree.Reference.budget` — the moves that a waiting text
  and a stack are good for.

## Main results

* `ConfigTree.Reference.Machine.lex_of_step` — each move decreases the measure of the stack.
* `ConfigTree.Reference.Machine.budget_of_step` — each move is paid for by the stack, or it is the
  last.
* `ConfigTree.Reference.Machine.exists_moves` — a run makes no more moves than its stack is good
  for.
* `ConfigTree.Reference.substitute_terminates` — every substitution comes to an end.
-/

namespace ConfigTree.Reference

variable {lookup : OptionPath → Option Value} {origin : OptionPath}

/-! ## The measure of a stack -/

/-- **A move decreases the measure of the stack**: the characters that wait at hop zero become
fewer, or these stay and those at hop one become fewer, or both stay and the stack becomes lower. -/
lemma Machine.lex_of_step {machine next : Machine}
    (hstep : machine.step lookup origin = .next next) :
    Prod.Lex (· < ·) (Prod.Lex (· < ·) (· < ·)) next.measure machine.measure :=
  measure_step hstep

/-- No run goes on for ever. -/
lemma Machine.exists_step_ne (machines : ℕ → Machine) :
    ∃ n, (machines n).step lookup origin ≠ .next (machines (n + 1)) := by
  have hlex : WellFounded (Prod.Lex (· < · : ℕ → ℕ → Prop)
      (Prod.Lex (· < · : ℕ → ℕ → Prop) (· < · : ℕ → ℕ → Prop))) :=
    wellFounded_lt.prod_lex (wellFounded_lt.prod_lex wellFounded_lt)
  have hchain := wellFounded_iff_isEmpty_descending_chain.mp hlex
  by_contra! hforever
  exact hchain.false ⟨fun n => (machines n).measure, fun n => lex_of_step (hforever n)⟩

/-! ## The number of moves -/

variable (lookup origin) in
/-- The first machine becomes the second one in a number of moves. -/
inductive Machine.Moves : ℕ → Machine → Machine → Prop where
  /-- In no move, it stays as it is. -/
  | stay (machine : Machine) : Moves 0 machine machine
  /-- It makes a move and goes on from there. -/
  | move {n : ℕ} {machine next last : Machine} (hstep : machine.step lookup origin = .next next)
      (hrest : Moves n next last) : Moves (n + 1) machine last

/-- The moves that a waiting text is good for: at hop zero, one for the end of the text, and two for
each dollar sign, which may start a reference; later, one. -/
def Frame.budget (frame : Frame) : ℕ :=
  if frame.hops = 0 then 2 * frame.text.count '$' + 1 else 1

/-- The moves that a stack is good for. -/
def budget : List Frame → ℕ
  | [] => 0
  | frame :: waiting => frame.budget + budget waiting

/-- A stack is good for the moves of its first text and those of the waiting ones. -/
@[simp] lemma budget_cons (frame : Frame) (waiting : List Frame) :
    budget (frame :: waiting) = frame.budget + budget waiting := rfl

/-- A waiting text is good for at least one move. -/
lemma Frame.one_le_budget (frame : Frame) : 1 ≤ frame.budget := by
  unfold budget
  split <;> omega

/-- A scan that stops at a reference has passed its dollar sign. -/
lemma count_lt_of_scan {text passed name fragment tail : List Char}
    (h : scan text = (passed, .reference name fragment tail)) :
    tail.count '$' < text.count '$' := by
  induction text using scan.induct generalizing passed with
  | case1 => simp [scan] at h
  | case2 rest _ _ hrest ih =>
    simp only [scan, hrest, Prod.mk.injEq] at h
    have hcount := ih (by rw [hrest, h.2])
    simp only [List.count_cons_self]
    omega
  | case3 rest found left hname =>
    simp only [scan, hname, Prod.mk.injEq, Stop.reference.injEq] at h
    obtain ⟨-, -, -, rfl⟩ := h
    obtain ⟨-, -, rfl⟩ := nameAt?_eq_some_iff.mp hname
    simp only [List.count_cons_self, List.count_cons, List.count_append]
    omega
  | case4 rest hname => simp [scan, hname] at h
  | case5 rest h₁ h₂ => simp [scan] at h
  | case6 c rest h₁ h₂ h₃ _ _ hrest ih =>
    simp only [scan, hrest, Prod.mk.injEq] at h
    have hcount := ih (by rw [hrest, h.2])
    rw [List.count_cons]
    omega

/-- **A move is paid for** by the stack, or the text of a value has a reference of its own, and then
the run is over.

**Proof sketch.** A text that is written leaves the stack. A reference in a text at hop zero leaves
a tail with fewer dollar signs, and below it the text of its value, at hop one. A reference in a
text at hop one puts a text beyond the hop limit on the stack. -/
lemma Machine.budget_of_step {machine next : Machine}
    (hstep : machine.step lookup origin = .next next) :
    budget next.stack < budget machine.stack ∨ next.Overrun := by
  obtain ⟨output, trail, stack⟩ := machine
  cases stack with
  | nil => cases hstep
  | cons frame waiting =>
    have hframe := frame.one_le_budget
    obtain ⟨turn, hturn⟩ := frame.exists_turns lookup origin
    rw [hturn.step_eq] at hstep
    cases hturn with
    | beyond | malformed | nowhere | missing => cases hstep
    | plain | done =>
      obtain rfl := Progress.next.inj hstep
      left
      simp only [budget_cons]
      omega
    | @follow _ _ _ tail path value hhops _ hscan =>
      obtain rfl := Progress.next.inj hstep
      by_cases hzero : frame.hops = 0
      · left
        have hcount := count_lt_of_scan hscan
        have htail : budget (frame.rest tail ++ waiting) ≤
            2 * tail.count '$' + 1 + budget waiting := by
          cases tail with
          | nil => simp [Frame.rest]
          | cons c tail => simp [Frame.rest, Frame.budget, hzero]
        have hvalue : (frame.target path value).budget = 1 := by simp [Frame.target, Frame.budget]
        have hbudget : frame.budget = 2 * frame.text.count '$' + 1 := by simp [Frame.budget, hzero]
        simp only [budget_cons]
        omega
      · right
        refine ⟨_, _, rfl, ?_⟩
        show hopLimit < frame.hops + 1
        unfold hopLimit
        omega

/-- **A run** makes no more moves than its stack is good for, and stops with its result then.

**Proof sketch.** Induction along the run. A move is paid for, or it is the last one
(`Machine.budget_of_step`), and the stack is good for one move if there is one. -/
lemma Machine.exists_moves (machine : Machine) :
    ∃ moves ≤ budget machine.stack, ∃ last result, Moves lookup origin moves machine last ∧
      last.step lookup origin = .stop result ∧
      machine.run lookup origin = (result, last.trail) := by
  induction machine using Machine.run.induct lookup origin with
  | case1 machine next hstep ih =>
    rw [run_of_step_next hstep]
    rcases budget_of_step hstep with hlt | hover
    · obtain ⟨moves, hle, last, result, hmoves, hstop, hrun⟩ := ih
      exact ⟨moves + 1, by omega, last, result, .move hstep hmoves, hstop, hrun⟩
    · obtain ⟨e, hstop⟩ : ∃ e, next.step lookup origin = .stop (.error e) := hover.step_eq
      have hone : 1 ≤ budget machine.stack := by
        cases hstack : machine.stack with
        | nil => simp [step, hstack] at hstep
        | cons frame waiting =>
          have hframe := frame.one_le_budget
          simp only [budget_cons]
          omega
      exact ⟨1, hone, next, _, .move hstep (.stay next), hstop, run_of_step_stop hstop⟩
  | case2 machine result hstop =>
    exact ⟨0, Nat.zero_le _, machine, result, .stay machine, hstop, run_of_step_stop hstop⟩

/-- **Every substitution comes to an end**, below every node, for every option and every text,
whether the options refer to themselves, to each other, or to texts of any length. Each move of the
machine decreases the measure of its stack, in lexicographic order: the number of characters that
wait at hop zero, that of those that wait at hop one, and the height of the stack. So no run goes on
for ever. From the text that is asked for the machine stops after at most two moves for each dollar
sign of this text and one more, and the result it stops with is that of the substitution.

**Proof sketch.** A reference shortens the text it stands in, and its value waits at the next hop
(`Machine.lex_of_step`). For the number of moves, a stack pays for them with the dollar signs that
wait at hop zero (`Machine.exists_moves`). -/
theorem substitute_terminates (node : Node) (origin : OptionPath) (raw : String) :
    (∀ machine next : Machine, machine.step node.stored? origin = .next next →
      Prod.Lex (· < ·) (Prod.Lex (· < ·) (· < ·)) next.measure machine.measure) ∧
    (∀ machines : ℕ → Machine,
      ∃ n, (machines n).step node.stored? origin ≠ .next (machines (n + 1))) ∧
    ∃ moves ≤ 2 * raw.toList.count '$' + 1, ∃ last result,
      Machine.Moves node.stored? origin moves (start origin raw) last ∧
      last.step node.stored? origin = .stop result ∧
      node.substitute origin raw = result.map String.ofList := by
  refine ⟨fun _ _ => Machine.lex_of_step, Machine.exists_step_ne, ?_⟩
  obtain ⟨moves, hle, last, result, hmoves, hstop, hrun⟩ :
      ∃ moves ≤ budget (start origin raw).stack, ∃ last result,
        Machine.Moves node.stored? origin moves (start origin raw) last ∧
        last.step node.stored? origin = .stop result ∧
        (start origin raw).run node.stored? origin = (result, last.trail) :=
    (start origin raw).exists_moves
  refine ⟨moves, ?_, last, result, hmoves, hstop, ?_⟩
  · simpa [start, budget, Frame.budget] using hle
  · rw [Node.substitute, substitute, hrun]

end ConfigTree.Reference
