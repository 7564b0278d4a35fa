import Mathlib.Data.List.Basic
import ConfigTree.Reference.Substitute

set_option relaxedAutoImplicit false
set_option autoImplicit false

/-!
# The moves of the machine of substitution

A move looks at the text at the top of the stack alone: it refuses the text, it writes the text to its
end, or it writes the text up to a reference and goes on with the value that is referenced. Neither
what was written before nor what waits below has a part in this.

## Main definitions

* `ConfigTree.Reference.Turn` — what becomes of the top text.
* `ConfigTree.Reference.Frame.Turns` — when it does.
* `ConfigTree.Reference.Turn.progress` — the move of the machine.
* `ConfigTree.Reference.Machine.Overrun` — the next text is beyond the hop limit.

## Main results

* `ConfigTree.Reference.Frame.exists_turns` — something becomes of every text.
* `ConfigTree.Reference.Frame.Turns.step_eq` — and this is the move.
* `ConfigTree.Reference.Machine.Overrun.step_eq` — beyond the hop limit, a run is over.
* `ConfigTree.Reference.Machine.run_of_step_next`, `ConfigTree.Reference.Machine.run_of_step_stop` —
  a run, move by move.
-/

namespace ConfigTree.Reference

/-- What becomes of a text at the top of the stack. -/
inductive Turn where
  /-- The text is refused. -/
  | refuse (e : Error)
  /-- The text is written to its end. -/
  | write (text : List Char)
  /-- The text is written up to a reference to an option with a value; its tail is left. -/
  | follow (text : List Char) (path : OptionPath) (value : Value) (tail : List Char)

variable (lookup : OptionPath → Option Value) (origin : OptionPath)

/-- When a text at the top of the stack becomes what it becomes. -/
inductive Frame.Turns (frame : Frame) : Turn → Prop
  /-- The text is beyond the hop limit. -/
  | beyond (hhops : hopLimit < frame.hops) :
    frame.Turns (.refuse (.deepReference frame.path.optionName origin.text hopLimit))
  /-- References in the text are not looked at. -/
  | plain (hhops : frame.hops ≤ hopLimit) (hscanned : frame.scanned = false) :
    frame.Turns (.write frame.text)
  /-- The text has no references. -/
  | done {text : List Char} (hhops : frame.hops ≤ hopLimit) (hscanned : frame.scanned = true)
    (hscan : scan frame.text = (text, .done)) : frame.Turns (.write text)
  /-- The first dollar sign of the text is a mistake. -/
  | malformed {text fragment : List Char} (hhops : frame.hops ≤ hopLimit)
    (hscanned : frame.scanned = true) (hscan : scan frame.text = (text, .malformed fragment)) :
    frame.Turns (.refuse (.malformedReference (String.ofList fragment) frame.path.text))
  /-- The first reference of the text is not the full path of an option. -/
  | nowhere {text name fragment tail : List Char} (hhops : frame.hops ≤ hopLimit)
    (hscanned : frame.scanned = true) (hscan : scan frame.text = (text, .reference name fragment tail))
    (hpath : OptionPath.parse? (String.ofList name) = none) :
    frame.Turns (.refuse (.malformedReference (String.ofList fragment) frame.path.text))
  /-- The first reference of the text names an option without a value. -/
  | missing {text name fragment tail : List Char} {path : OptionPath} (hhops : frame.hops ≤ hopLimit)
    (hscanned : frame.scanned = true) (hscan : scan frame.text = (text, .reference name fragment tail))
    (hpath : OptionPath.parse? (String.ofList name) = some path) (hvalue : lookup path = none) :
    frame.Turns (.refuse (.missingReference (String.ofList name) frame.path.text))
  /-- The first reference of the text names an option with a value. -/
  | follow {text name fragment tail : List Char} {path : OptionPath} {value : Value}
    (hhops : frame.hops ≤ hopLimit) (hscanned : frame.scanned = true)
    (hscan : scan frame.text = (text, .reference name fragment tail))
    (hpath : OptionPath.parse? (String.ofList name) = some path) (hvalue : lookup path = some value) :
    frame.Turns (.follow text path value tail)

/-- **Something becomes of every text** at the top of the stack. -/
lemma Frame.exists_turns (frame : Frame) : ∃ turn, frame.Turns lookup origin turn := by
  by_cases hhops : hopLimit < frame.hops
  · exact ⟨_, .beyond hhops⟩
  replace hhops := Nat.le_of_not_lt hhops
  cases hscanned : frame.scanned with
  | false => exact ⟨_, .plain hhops hscanned⟩
  | true =>
    rcases hscan : scan frame.text with ⟨text, _ | ⟨name, fragment, tail⟩ | fragment⟩
    · exact ⟨_, .done hhops hscanned hscan⟩
    · cases hpath : OptionPath.parse? (String.ofList name) with
      | none => exact ⟨_, .nowhere hhops hscanned hscan hpath⟩
      | some path =>
        cases hvalue : lookup path with
        | none => exact ⟨_, .missing hhops hscanned hscan hpath hvalue⟩
        | some value => exact ⟨_, .follow hhops hscanned hscan hpath hvalue⟩
    · exact ⟨_, .malformed hhops hscanned hscan⟩

/-- The move of the machine that has written `output`, with the references `trail`, and has the texts
`waiting` below the top text `frame`. -/
def Turn.progress (frame : Frame) (output : List Char) (trail : List Hop) (waiting : List Frame) :
    Turn → Progress
  | .refuse e => .stop (.error e)
  | .write text => .next ⟨output ++ text, trail, waiting⟩
  | .follow text path value tail =>
    .next ⟨output ++ text, trail ++ [⟨path, frame.path, frame.hops + 1⟩],
      frame.target path value :: (frame.rest tail ++ waiting)⟩

variable {lookup origin}

/-- **A move** is what becomes of the top text, whatever else the machine holds. -/
lemma Frame.Turns.step_eq {frame : Frame} {turn : Turn} (h : frame.Turns lookup origin turn)
    (output : List Char) (trail : List Hop) (waiting : List Frame) :
    Machine.step lookup origin ⟨output, trail, frame :: waiting⟩ =
      turn.progress frame output trail waiting := by
  cases h with
  | beyond hhops => simp only [Machine.step, hhops, if_true, Turn.progress]
  | plain hhops hscanned =>
    simp [Machine.step, Nat.not_lt_of_le hhops, hscanned, Turn.progress]
  | done hhops hscanned hscan | malformed hhops hscanned hscan =>
    simp [Machine.step, Nat.not_lt_of_le hhops, hscanned, hscan, Turn.progress]
  | nowhere hhops hscanned hscan hpath =>
    simp [Machine.step, Nat.not_lt_of_le hhops, hscanned, hscan, hpath, Turn.progress]
  | missing hhops hscanned hscan hpath hvalue | follow hhops hscanned hscan hpath hvalue =>
    simp [Machine.step, Nat.not_lt_of_le hhops, hscanned, hscan, hpath, hvalue, Turn.progress]

/-- The next text is beyond the hop limit. -/
def Machine.Overrun (machine : Machine) : Prop :=
  ∃ frame waiting, machine.stack = frame :: waiting ∧ hopLimit < frame.hops

/-- Beyond the hop limit, a machine stops with an error. -/
lemma Machine.Overrun.step_eq {machine : Machine} (h : machine.Overrun) :
    ∃ e, machine.step lookup origin = .stop (.error e) := by
  obtain ⟨output, trail, _⟩ := machine
  obtain ⟨frame, waiting, rfl, hhops⟩ := h
  have hturn : frame.Turns lookup origin
      (.refuse (.deepReference frame.path.optionName origin.text hopLimit)) := .beyond hhops
  exact ⟨_, hturn.step_eq output trail waiting⟩

/-- A machine with no text on its stack is done. -/
@[simp] lemma Machine.step_nil (output : List Char) (trail : List Hop) :
    Machine.step lookup origin ⟨output, trail, []⟩ = .stop (.ok output) := rfl

/-- A run goes on after the first move. -/
lemma Machine.run_of_step_next {machine next : Machine}
    (h : machine.step lookup origin = .next next) :
    machine.run lookup origin = next.run lookup origin := by
  rw [run, h]

/-- A machine that stops has reached the result of its run. -/
lemma Machine.run_of_step_stop {machine : Machine} {result : Except Error (List Char)}
    (h : machine.step lookup origin = .stop result) :
    machine.run lookup origin = (result, machine.trail) := by
  rw [run, h]

end ConfigTree.Reference
